import CallReplay.Blake3
import CallReplay.Frame
import CallReplay.Text.Hex

/-!
# Replay artifacts

A recorded call becomes a sampler, which replays the call, and, if the call returned remote objects,
a post-processor, which runs after the sampler and registers those objects. Their ids are taken from
the hash of what identifies them, so the same call always has the same ids.
-/

namespace CallReplay

/-- The id of an artifact. -/
structure ArtifactId where
  text : String
  deriving DecidableEq

/-- The artifact that replays a call. -/
structure Sampler where
  id : ArtifactId
  name : String
  target : String
  method : String
  argumentsScript : String
  deriving DecidableEq

/-- The artifact that registers the remote objects in a sampler's result. -/
structure PostProcessor where
  id : ArtifactId
  name : String
  script : String
  resetInterpreter : Bool
  runsAfter : ArtifactId
  deriving DecidableEq

/-- The artifacts of one call. -/
structure Artifacts where
  sampler : Sampler
  postProcessor : Option PostProcessor
  deriving DecidableEq

/-- A sampler as it is kept, with its post-processor. -/
structure StoredArtifact where
  callIndex : UInt32
  signature : String
  sampler : Sampler
  postProcessor : Option PostProcessor
  deriving DecidableEq

/-- A line in the list of the kept samplers. -/
structure ArtifactSummary where
  id : ArtifactId
  name : String
  callIndex : UInt32
  target : String
  method : String
  hasPostProcessor : Bool
  deriving DecidableEq

namespace ArtifactId

/-- The id that a hash is cut down to: its first sixteen hexadecimal digits. -/
def ofHash (hash : List UInt8) : ArtifactId := ⟨Text.hexOfBytes (hash.take 8)⟩

/-- A text after its length in 64 bits. -/
def sized (s : String) : List UInt8 :=
  let bytes := Text.Utf8.encode s
  Wire.littleEndian 8 bytes.length ++ bytes

/-- What identifies a call, as bytes. -/
def callBytes (scope target signature : String) (index : UInt32) : List UInt8 :=
  sized scope ++ sized target ++ sized signature ++ Wire.littleEndian 4 index.toNat

/-- The id of the artifact for a call: where it was made, the key of its method and its index. -/
def ofCall (scope target signature : String) (index : UInt32) : ArtifactId :=
  ofHash (Blake3.hash (callBytes scope target signature index))

/-- The id of the artifact for a recorded call. -/
def ofRecord (r : CallRecord) : ArtifactId := ofCall r.scope r.target r.signature.full r.index

/-- What identifies an artifact by its role beside another, as bytes. -/
def derivedBytes (parent : ArtifactId) (role : String) : List UInt8 :=
  Text.Utf8.encode parent.text ++ Text.Utf8.encode "/" ++ Text.Utf8.encode role

/-- The id of an artifact by its role beside another. -/
def derived (parent : ArtifactId) (role : String) : ArtifactId :=
  ofHash (Blake3.hash (derivedBytes parent role))

end ArtifactId

end CallReplay
