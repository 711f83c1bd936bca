import CallReplay.Proofs.Quoting
import CallReplay.Proofs.RemoteSearch
import CallReplay.Proofs.Text.Lines

/-!
# The script that registers remote objects

Handles are named by clients, and paths have the keys of recorded maps in them. Both get into the
script as literals, so neither can alter it: behind the header there is one line for each handle, in
order, and what is read from a line is the handle and then the path
(`Recorder.resultScript_confined`). Only the expressions of the options and, by way of the paths,
the names of fields are written as they are (`Recorder.Confined.foreign`).
-/

namespace CallReplay

open Text (lines)
open Literal (Quotes IsPrintable)

namespace Text

/-- Lines that are written one behind the other, each with its line end, are the lines of
what is written. -/
lemma lines_join_lineFeed {texts : List String} (h : ∀ text ∈ texts, '\n' ∉ text.toList) :
    lines (String.join (texts.map (· ++ "\n"))) = texts ++ [""] := by
  induction texts with
  | nil =>
    have none : '\n' ∉ "".toList := by decide
    exact lines_of_notMem none
  | cons text texts ih =>
    obtain ⟨first, others⟩ := List.forall_mem_cons.mp h
    rw [List.map_cons, String.join_cons, lines_append_lineFeed, lines_of_notMem first, ih others,
      List.cons_append, List.nil_append, List.cons_append]

end Text

namespace Literal

/-- All characters of a text are printable ASCII. -/
def Printable (s : String) : Prop := ∀ c ∈ s.toList, IsPrintable c

instance (s : String) : Decidable (Printable s) := List.decidableBAll IsPrintable s.toList

/-- A text is printable if its three parts are. -/
lemma Printable.between {opening inner closing : String} (before : Printable opening)
    (inside : Printable inner) (behind : Printable closing) :
    Printable (opening ++ inner ++ closing) := by
  intro c h
  simp only [String.toList_append, List.mem_append] at h
  rcases h with (h | h) | h
  · exact before c h
  · exact inside c h
  · exact behind c h

/-- The literal for a text is printable, whatever the text is. -/
lemma printable_ofText (s : String) : Printable (ofText s) := fun _ => isPrintable_of_mem_ofText

/-- A written number is printable. -/
lemma printable_toString (n : Nat) : Printable (toString n) := by
  intro c h
  rw [Nat.toString_eq_ofList_toDigits, String.toList_ofList] at h
  have digit := isDigit_of_mem_toDigits h
  simp only [Char.isDigit, Bool.and_eq_true, decide_eq_true_eq] at digit
  exact ⟨le_trans (by decide) digit.1, le_trans digit.2 (by decide)⟩

end Literal

namespace RemotePath

open Literal (Printable printable_ofText printable_toString)

section

variable {heap : Heap} {avoided : List ObjectId} {value : Value} {target : ObjectId}
  {segment : Segment} {before after path : List Segment} {c : Char}

/-- A path is parted at a segment, which is a step from an object to what the rest of the path
leads on from. -/
lemma Leads.split (led : Leads heap avoided value (before ++ segment :: after) target) :
    ∃ id object next, Leads heap avoided value before id ∧ heap.get? id = some object ∧
      Step object segment next ∧ Leads heap avoided next after target := by
  induction before generalizing value with
  | nil =>
    cases led with
    | step new found _ step rest => exact ⟨_, _, _, .here new, found, step, rest⟩
  | cons first before ih =>
    cases led with
    | step new found inner step rest =>
      obtain ⟨id, object, next, front, present, middle, back⟩ := ih rest
      exact ⟨id, object, next, .step new found inner step front, present, middle, back⟩

/-- The name of a field on a path is that of a field of some object. -/
lemma Leads.field_mem (led : Leads heap avoided value path target) {name : String}
    (h : .field name ∈ path) :
    ∃ s f, .struct s ∈ heap.objects ∧ f ∈ s.fields ∧ f.name = name := by
  obtain ⟨before, after, rfl⟩ := List.append_of_mem h
  obtain ⟨id, object, next, -, found, step, -⟩ := led.split
  cases step with
  | field hfield _ => exact ⟨_, _, Array.mem_of_getElem? found, hfield, rfl⟩

/-- Of what a segment is written with, only the name of a field may be unprintable. -/
lemma mem_render_segment (h : c ∈ segment.render.toList) :
    IsPrintable c ∨ ∃ name, segment = .field name ∧ c ∈ name.toList := by
  cases segment with
  | field name =>
    rcases List.mem_append.mp (String.toList_append ▸ h) with h | h
    · exact .inl (List.mem_singleton.mp h ▸ by decide)
    · exact .inr ⟨name, rfl, h⟩
  | index i =>
    have printable : Printable ("[" ++ toString i ++ "]") :=
      .between (by decide) (printable_toString i) (by decide)
    exact .inl (printable c h)
  | element i =>
    have printable : Printable (".toArray()[" ++ toString i ++ "]") :=
      .between (by decide) (printable_toString i) (by decide)
    exact .inl (printable c h)
  | key text =>
    have printable : Printable (".get(" ++ Literal.ofText text ++ ")") :=
      .between (by decide) (printable_ofText text) (by decide)
    exact .inl (printable c h)
  | entry i =>
    have printable : Printable (".values().toArray()[" ++ toString i ++ "]") :=
      .between (by decide) (printable_toString i) (by decide)
    exact .inl (printable c h)

/-- Of what a path is written with, only the names of fields may be unprintable. -/
lemma mem_render (h : c ∈ (render path).toList) :
    IsPrintable c ∨ ∃ name, .field name ∈ path ∧ c ∈ name.toList := by
  rw [render, String.toList_join] at h
  obtain ⟨_, hmem, hc⟩ := List.mem_flatMap.mp h
  obtain ⟨segment, hsegment, rfl⟩ := List.mem_map.mp hmem
  rcases mem_render_segment hc with printable | ⟨name, rfl, hname⟩
  · exact .inl printable
  · exact .inr ⟨name, hsegment, hname⟩

/-- A path is written with its text keys as literals. -/
lemma render_key (before : List Segment) (key : String) (after : List Segment) :
    render (before ++ .key key :: after) =
    render before ++ ".get(" ++ Literal.ofText key ++ (")" ++ render after) := by
  unfold render
  rw [List.map_append, List.map_cons, String.join_append, String.join_cons]
  unfold Segment.render
  simp only [String.append_assoc]

end

end RemotePath

namespace Recorder

open Literal (Printable printable_ofText)

/-- The lines before the registrations. -/
def headerLines (options : RecorderOptions) : List String :=
  ["Object ret = " ++ options.previousResult ++ ".getReturnValue();",
    options.registryClass ++ " reg = vars.getObject(" ++ Literal.ofText options.registryVariable ++
    ");",
    "// ret: actual object path to remote reference"]

/-- What stands before the handle in a registration. -/
def registrationOpening : String := "reg.registerRmiInstance("

/-- What stands behind the handle in a registration. -/
def registrationClosing (path : String) : String := ", ret" ++ path ++ ");"

/-- The line of a registration. -/
def registrationLine (entry : String × String) : String :=
  registrationOpening ++ Literal.ofText entry.1 ++ registrationClosing entry.2

/-- The script for a list of handles with paths has the lines that it is meant to have
and no others. -/
structure Confined (options : RecorderOptions) (entries : List (String × String))
    (script : String) : Prop where
  /-- There are three lines, one line for each entry, in order, and the empty one behind the
  last line feed. -/
  height : lines script = headerLines options ++ entries.map registrationLine ++ [""]
  /-- The line of an entry is read as its handle between fixed texts and its path. -/
  quotes : ∀ entry ∈ entries,
    Quotes (registrationLine entry) registrationOpening entry.1 (registrationClosing entry.2)
  /-- Characters that are not printable ASCII come from the options' expressions and from
  the paths alone. -/
  foreign : ∀ line ∈ lines script, ∀ c ∈ line.toList,
    IsPrintable c ∨ c ∈ options.previousResult.toList ∨ c ∈ options.registryClass.toList ∨
      ∃ entry ∈ entries, c ∈ entry.2.toList

section

variable {options : RecorderOptions} {entries : List (String × String)} {script : String}

/-- The header consists of its lines. -/
lemma resultHeader_eq (options : RecorderOptions) :
    resultHeader options = String.join ((headerLines options).map (· ++ "\n")) := by
  have first : ".getReturnValue();\n" = ".getReturnValue();" ++ "\n" := by cbv
  have second : ");\n" = ");" ++ "\n" := by cbv
  have third : "// ret: actual object path to remote reference\n" =
    "// ret: actual object path to remote reference" ++ "\n" := by cbv
  unfold resultHeader headerLines
  simp only [List.map_cons, List.map_nil, String.join_cons, String.join_nil, String.append_empty]
  rw [first, second, third]
  simp only [String.append_assoc]

/-- What registers a handle is a line. -/
lemma registration_eq (entry : String × String) :
    registration entry.1 entry.2 = registrationLine entry ++ "\n" := by
  have closing : ");\n" = ");" ++ "\n" := by cbv
  unfold registration registrationLine registrationOpening registrationClosing
  rw [closing]
  simp only [String.append_assoc]

/-- A character of the header is printable or from the expressions of the options. -/
lemma mem_headerLines {line : String} {c : Char} (h : line ∈ headerLines options)
    (hc : c ∈ line.toList) :
    IsPrintable c ∨ c ∈ options.previousResult.toList ∨ c ∈ options.registryClass.toList := by
  have fixed : ∀ text : String, Printable text → c ∈ text.toList → IsPrintable c :=
    fun _ printable => printable c
  simp only [headerLines, List.mem_cons, List.not_mem_nil, or_false] at h
  rcases h with rfl | rfl | rfl
  · simp only [String.toList_append, List.mem_append] at hc
    rcases hc with (hc | hc) | hc
    · exact .inl (fixed "Object ret = " (by decide) hc)
    · exact .inr (.inl hc)
    · exact .inl (fixed ".getReturnValue();" (by decide) hc)
  · simp only [String.toList_append, List.mem_append] at hc
    rcases hc with ((hc | hc) | hc) | hc
    · exact .inr (.inr hc)
    · exact .inl (fixed " reg = vars.getObject(" (by decide) hc)
    · exact .inl (printable_ofText _ c hc)
    · exact .inl (fixed ");" (by decide) hc)
  · exact .inl (fixed _ (by decide) hc)

/-- A character of the line of a handle is printable or from the path. -/
lemma mem_registrationLine {entry : String × String} {c : Char}
    (h : c ∈ (registrationLine entry).toList) :
    IsPrintable c ∨ c ∈ entry.2.toList := by
  have fixed : ∀ text : String, Printable text → c ∈ text.toList → IsPrintable c :=
    fun _ printable => printable c
  simp only [registrationLine, registrationClosing, String.toList_append, List.mem_append] at h
  rcases h with (h | h) | (h | h) | h
  · exact .inl (fixed registrationOpening (by decide) h)
  · exact .inl (printable_ofText _ c h)
  · exact .inl (fixed ", ret" (by decide) h)
  · exact .inr h
  · exact .inl (fixed ");" (by decide) h)

/-- The script of a marked record is its lines, one behind the other. -/
lemma resultScript_eq {r : CallRecord} (marked : r.remoteReturned = true) :
    resultScript options r =
      some (String.join
        ((headerLines options ++ r.remotePaths.entries.map registrationLine).map (· ++ "\n"))) := by
  have each : r.remotePaths.entries.map (fun entry => registration entry.1 entry.2) =
      r.remotePaths.entries.map ((· ++ "\n") ∘ registrationLine) :=
    List.map_congr_left fun entry _ => registration_eq entry
  rw [resultScript, if_pos marked, List.map_append, String.join_append, resultHeader_eq,
    List.map_map, ← each]

/-- Where neither the expressions of the options nor the paths have a line feed, the
script is confined. -/
lemma confined_of_notMem (previous : '\n' ∉ options.previousResult.toList)
    (registry : '\n' ∉ options.registryClass.toList)
    (paths : ∀ entry ∈ entries, '\n' ∉ entry.2.toList) :
    Confined options entries
      (String.join ((headerLines options ++ entries.map registrationLine).map (· ++ "\n"))) := by
  have foreign : ∀ line ∈ headerLines options ++ entries.map registrationLine, ∀ c ∈ line.toList,
      IsPrintable c ∨ c ∈ options.previousResult.toList ∨ c ∈ options.registryClass.toList ∨
        ∃ entry ∈ entries, c ∈ entry.2.toList := by
    intro line hline c hc
    rcases List.mem_append.mp hline with hline | hline
    · rcases mem_headerLines hline hc with h | h | h
      · exact .inl h
      · exact .inr (.inl h)
      · exact .inr (.inr (.inl h))
    · obtain ⟨entry, hentry, rfl⟩ := List.mem_map.mp hline
      rcases mem_registrationLine hc with h | h
      · exact .inl h
      · exact .inr (.inr (.inr ⟨entry, hentry, h⟩))
  have single : ∀ line ∈ headerLines options ++ entries.map registrationLine,
      '\n' ∉ line.toList := by
    intro line hline hfeed
    rcases foreign line hline _ hfeed with h | h | h | ⟨entry, hentry, h⟩
    · exact absurd h (by decide)
    · exact previous h
    · exact registry h
    · exact paths entry hentry h
  have height := Text.lines_join_lineFeed single
  refine ⟨height, fun entry _ => Literal.quotes_of_eq rfl, ?_⟩
  rw [height]
  intro line hline c hc
  rcases List.mem_append.mp hline with hline | hline
  · exact foreign line hline c hc
  · cases List.mem_singleton.mp hline
    cases hc

end

/-- What a text key on a path is in the script: it is a key of the map that the path has led
to, and it is quoted in the line of the handle between what the path is written with before
and behind it. -/
structure KeyQuoted (p : Payload) (handle : String) (before : List RemotePath.Segment)
    (key : String) (after : List RemotePath.Segment) : Prop where
  held : ∃ id className entries next, RemotePath.Leads p.heap [] p.value before id ∧
    p.heap.get? id = some (.map className entries) ∧ (.text key, next) ∈ entries
  quotes : Quotes (registrationLine (handle, RemotePath.render (before ++ .key key :: after)))
    (registrationOpening ++ Literal.ofText handle ++ ", ret" ++ RemotePath.render before ++ ".get(")
    key (")" ++ RemotePath.render after ++ ");")

/-- The line of a handle quotes a key that is on its path. -/
lemma quotes_key (handle : String) (before : List RemotePath.Segment) (key : String)
    (after : List RemotePath.Segment) :
    Quotes (registrationLine (handle, RemotePath.render (before ++ .key key :: after)))
      (registrationOpening ++ Literal.ofText handle ++ ", ret" ++ RemotePath.render before ++
        ".get(") key (")" ++ RemotePath.render after ++ ");") := by
  have line : registrationLine (handle, RemotePath.render (before ++ .key key :: after)) =
      registrationOpening ++ Literal.ofText handle ++ ", ret" ++ RemotePath.render before ++
        ".get(" ++ Literal.ofText key ++ (")" ++ RemotePath.render after ++ ");") := by
    unfold registrationLine registrationClosing
    simp only [RemotePath.render_key, String.append_assoc]
  exact Literal.quotes_of_eq line

/-- The script of a record with remote objects cannot be altered by handles. If the expressions of
the options have no line feed, it is confined to its lines, each read as its handle, whatever the
handles are: where the paths have no line feed, and in particular where they were found in a graph
whose fields have no line feed in their names. There the text keys of maps are read back from the
paths as well. -/
theorem resultScript_confined (options : RecorderOptions) {r : CallRecord}
    (marked : r.remoteReturned = true) (previous : '\n' ∉ options.previousResult.toList)
    (registry : '\n' ∉ options.registryClass.toList) :
    ∃ script, resultScript options r = some script ∧
      ((∀ entry ∈ r.remotePaths.entries, '\n' ∉ entry.2.toList) →
      Confined options r.remotePaths.entries script) ∧
      ∀ p stem, RemotePath.table p stem = .ok r.remotePaths →
        (∀ s, .struct s ∈ p.heap.objects → ∀ f ∈ s.fields, '\n' ∉ f.name.toList) →
        Confined options r.remotePaths.entries script ∧
          ∃ found, RemotePath.scan p = .ok found ∧
            r.remotePaths.entries = found.zipIdx.map
              (fun (f, n) => (stem ++ toString n, RemotePath.render f.path)) ∧
            ∀ f n before key after, (f, n) ∈ found.zipIdx → f.path = before ++ .key key :: after →
              KeyQuoted p (stem ++ toString n) before key after := by
  refine ⟨_, resultScript_eq marked, confined_of_notMem previous registry,
    fun p stem htable names => ?_⟩
  obtain ⟨found, hscan, hpaths⟩ := map_eq_ok_iff.mp htable
  have registers : RemotePath.Registers p stem found _ := RemotePath.registers_scan hscan
  rw [hpaths] at registers
  refine ⟨confined_of_notMem previous registry ?_, found, hscan, registers.numbered, ?_⟩
  · rw [registers.numbered]
    intro entry hentry hfeed
    obtain ⟨⟨f, n⟩, hf, rfl⟩ := List.mem_map.mp hentry
    have led := registers.led f (List.fst_mem_of_mem_zipIdx hf)
    rcases RemotePath.mem_render hfeed with printable | ⟨name, hfield, hname⟩
    · exact absurd printable (by decide)
    · obtain ⟨s, field, hs, hmem, rfl⟩ := led.field_mem hfield
      exact names s hs field hmem hname
  · intro f n before key after hf hpath
    have led := registers.led f (List.fst_mem_of_mem_zipIdx hf)
    rw [hpath] at led
    obtain ⟨id, object, next, front, present, step, -⟩ := led.split
    refine ⟨?_, quotes_key ..⟩
    cases step with
    | key hentry => exact ⟨id, _, _, next, front, present, hentry⟩

/-- A map with a remote object under a key that would close its literal and end its line. -/
def keyedPayload : Payload :=
  ⟨⟨#[.map "java.util.HashMap" [(.text "a\");\r\n", .ref ⟨1⟩)],
  .struct ⟨"p.Stub", true, true, []⟩]⟩, .ref ⟨0⟩⟩

/-- A stem that would do the same, and that has what looks like an escape of a line feed. -/
def keyedStem : String := "h\", ret);\n// \\u000a"

/-- A call that has returned the map. -/
def keyedCall : CallRecord :=
  { CallRecord.new 0 "p.Broker" "find" none ⟨.empty, []⟩ with
    remoteReturned := true
    remotePaths := RemotePath.handleTable keyedStem [⟨⟨1⟩, [.key "a\");\r\n"]⟩] }

/-- The script has five lines, and both texts are read back from the fourth. -/
theorem resultScript_confined_keyed : ∃ script, resultScript {} keyedCall = some script ∧
    (lines script).length = 5 ∧ Confined {} keyedCall.remotePaths.entries script ∧
    KeyQuoted keyedPayload (keyedStem ++ "0") [] "a\");\r\n" [] := by
  obtain ⟨script, hscript, -, scanned⟩ :=
    resultScript_confined {} (r := keyedCall) rfl (by decide) (by decide)
  have hscan : RemotePath.scan keyedPayload = .ok [⟨⟨1⟩, [.key "a\");\r\n"]⟩] := by cbv
  have htable : RemotePath.table keyedPayload keyedStem = .ok keyedCall.remotePaths := by
    rw [RemotePath.table, hscan]
    rfl
  have names : ∀ s, .struct s ∈ keyedPayload.heap.objects →
      ∀ f ∈ s.fields, '\n' ∉ f.name.toList := by
    intro s hs f hf
    simp only [keyedPayload, List.mem_toArray, List.mem_cons, reduceCtorEq, Object.struct.injEq,
      List.not_mem_nil, or_false, false_or] at hs
    subst hs
    cases hf
  obtain ⟨confined, found, hfound, -, keys⟩ := scanned keyedPayload keyedStem htable names
  cases hscan.symm.trans hfound
  have height : (lines script).length = 5 := by
    rw [confined.height, keyedCall, RemotePath.entries_handleTable]
    rfl
  exact ⟨script, hscript, height, confined, keys _ 0 [] _ [] List.mem_cons_self rfl⟩

end Recorder

end CallReplay
