import CallReplay.Json.Graph
import CallReplay.Store

/-!
# JSON form of options and artifacts

The options have a default for every member. The post-processor of a kept sampler is left out where
there is none.
-/

namespace CallReplay.Json

/-- The options of the compiler as JSON. -/
def ofScriptOptions (o : Script.Options) : Json :=
  .object [("bypass_constructor", .text o.bypassHelper), ("separator", .text o.separator),
    ("max_depth", nat o.maxDepth)]

/-- The members that the options of the compiler are read from. Each of them may be missing. -/
def scriptOptionsFields : Fields Script.Options :=
  let default : Script.Options := {}
  ((Fields.ready Script.Options.mk
    |>.withDefault "bypass_constructor" readString default.bypassHelper).withDefault
    "separator" readString default.separator).withDefault
    "max_depth" (readUnsignedBits 64) default.maxDepth

/-- The options of the recorder as JSON. -/
def ofRecorderOptions (o : RecorderOptions) : Json :=
  .object [("generator", ofScriptOptions o.script), ("name_format", .text o.nameFormat),
    ("registry_class", .text o.registryClass), ("registry_variable", .text o.registryVariable),
    ("previous_result", .text o.previousResult)]

/-- The members that the options of the recorder are read from. Each of them may be missing. -/
def recorderOptionsFields : Fields RecorderOptions :=
  let default : RecorderOptions := {}
  ((((Fields.ready RecorderOptions.mk
    |>.withDefault "generator" scriptOptionsFields.read default.script).withDefault
    "name_format" readString default.nameFormat).withDefault
    "registry_class" readString default.registryClass).withDefault
    "registry_variable" readString default.registryVariable).withDefault
    "previous_result" readString default.previousResult

/-- The id of an artifact as JSON. -/
def ofArtifactId (id : ArtifactId) : Json := .text id.text

/-- Reads the id of an artifact, which may be any text. -/
def readArtifactId : Reader ArtifactId := fun s => (readString s).map ArtifactId.mk

/-- A sampler as JSON. -/
def ofSampler (s : Sampler) : Json :=
  .object [("id", ofArtifactId s.id), ("name", .text s.name), ("target", .text s.target),
    ("method_name", .text s.method), ("arguments_script", .text s.argumentsScript)]

/-- The members that a sampler is read from. -/
def samplerFields : Fields Sampler :=
  ((((Fields.ready Sampler.mk |>.field "id" readArtifactId).field "name" readString).field
    "target" readString).field "method_name" readString).field "arguments_script" readString

/-- A post-processor as JSON. -/
def ofPostProcessor (p : PostProcessor) : Json :=
  .object [("id", ofArtifactId p.id), ("name", .text p.name), ("script", .text p.script),
    ("reset_interpreter", .bool p.resetInterpreter), ("runs_after", ofArtifactId p.runsAfter)]

/-- The members that a post-processor is read from. -/
def postProcessorFields : Fields PostProcessor :=
  ((((Fields.ready PostProcessor.mk |>.field "id" readArtifactId).field "name" readString).field
    "script" readString).field "reset_interpreter" readBool).field "runs_after" readArtifactId

/-- The member for a post-processor, left out where there is none. -/
def postProcessorMember : Option PostProcessor → List (String × Json)
  | none => []
  | some p => [("post_processor", ofPostProcessor p)]

/-- Writes the artifacts of a call; null stands for a missing post-processor. -/
def ofArtifacts (a : Artifacts) : Json :=
  .object [("sampler", ofSampler a.sampler),
    ("post_processor", ofOption ofPostProcessor a.postProcessor)]

/-- A stored artifact as JSON. Without a post-processor it has no member for one. -/
def ofStoredArtifact (a : StoredArtifact) : Json :=
  .object ([("call_index", nat a.callIndex.toNat), ("mangled_signature", .text a.signature),
    ("sampler", ofSampler a.sampler)] ++ postProcessorMember a.postProcessor)

/-- The members that a stored artifact is read from. -/
def storedArtifactFields : Fields StoredArtifact :=
  (((Fields.ready StoredArtifact.mk |>.field "call_index" readUInt32).field
    "mangled_signature" readString).field "sampler" samplerFields.read).optional
    "post_processor" postProcessorFields.read

/-- The summary of an artifact as JSON. -/
def ofSummary (s : ArtifactSummary) : Json :=
  .object [("id", ofArtifactId s.id), ("name", .text s.name),
    ("call_index", nat s.callIndex.toNat), ("target", .text s.target),
    ("method_name", .text s.method), ("has_post_processor", .bool s.hasPostProcessor)]

/-- The members that the summary of an artifact is read from. -/
def summaryFields : Fields ArtifactSummary :=
  (((((Fields.ready ArtifactSummary.mk |>.field "id" readArtifactId).field "name"
    readString).field "call_index" readUInt32).field "target" readString).field
    "method_name" readString).field "has_post_processor" readBool

end CallReplay.Json
