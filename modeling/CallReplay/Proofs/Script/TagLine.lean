import CallReplay.Proofs.Text.Lines
import CallReplay.Proofs.Transfer

/-!
# The line of the tag

A script for arguments starts with a comment that names the call by its method and its index. The
name of a method is any text that a frame carries, and it stands in the comment as it is. So the
comment is one line if and only if the name has no line feed; what a name has behind a line feed is
a line of the script outside of any comment. Behind the lines of the comment a script is what the
arguments alone determine.
-/

namespace CallReplay

open Text (lines lines_ne_nil lines_append_lineFeed head?_lines_eq_iff length_lines)

namespace Recorder

/-- The comment with the tag of a call. -/
def tagComment (tag : String) : String := "// $Tag '" ++ tag ++ "'"

/-- The lines of the script for a call: those of the comment, and then others. -/
structure TagFirst (r : CallRecord) (text body : String) : Prop where
  both : lines text = lines (tagComment (methodKey r)) ++ lines body
  /-- The comment takes one line, and one more for each line feed in the name of the method. -/
  height : (lines (tagComment (methodKey r))).length = r.method.toList.count '\n' + 1
  /-- So it is the first line if and only if the name has no line feed. -/
  first : (lines text).head? = some (tagComment (r.method ++ ":#" ++ toString r.index.toNat)) ↔
    '\n' ∉ r.method.toList

/-- How the lines of the scripts for two calls with the same arguments compare. -/
structure SameBehindTag (r r' : CallRecord) (text text' : String) : Prop where
  /-- Behind the lines of the comments all lines are the same. -/
  behind : (lines text).drop (r.method.toList.count '\n' + 1) =
    (lines text').drop (r'.method.toList.count '\n' + 1)
  /-- Behind the first lines all lines are the same if and only if that holds for the comments. -/
  tails : (lines text).tail = (lines text').tail ↔
    (lines (tagComment (methodKey r))).tail = (lines (tagComment (methodKey r'))).tail
  /-- It does if neither name has a line feed. -/
  confined : '\n' ∉ r.method.toList → '\n' ∉ r'.method.toList →
      (lines text).tail = (lines text').tail

/-- The tag line is its comment and a line feed. -/
lemma tagLine_eq (tag : String) : ArgumentsScript.tagLine tag = tagComment tag ++ "\n" := by
  rw [tagComment, String.append_assoc]
  rfl

section

variable {r r' : CallRecord} {text text' body : String}

/-- Without parameter types the key of a call is the name of its method and its index. -/
lemma methodKey_of_untyped (h : r.signature = .mangle r.method none) :
    methodKey r = r.method ++ ":#" ++ toString r.index.toNat := by
  simp [methodKey, h, Signature.mangle, String.append_assoc]

/-- The line feeds of a comment are those of the name of the method. -/
lemma count_tagComment (h : r.signature = .mangle r.method none) :
    (tagComment (methodKey r)).toList.count '\n' = r.method.toList.count '\n' := by
  have digits : (Nat.toDigits 10 r.index.toNat).count '\n' = 0 := by
    rw [List.count_eq_zero]
    intro hmem
    cases Nat.isDigit_of_mem_toDigits (by decide) (by decide) hmem
  rw [methodKey_of_untyped h]
  simp [tagComment, String.toList_append, List.count_append, digits]

/-- A script that is put behind its tag has the lines of the tag first. -/
lemma tagFirst (h : r.signature = .mangle r.method none) (body : String) :
    TagFirst r (ArgumentsScript.tagLine (methodKey r) ++ body) body := by
  have hlines : lines (ArgumentsScript.tagLine (methodKey r) ++ body) =
      lines (tagComment (methodKey r)) ++ lines body := by
    rw [tagLine_eq, lines_append_lineFeed]
  refine ⟨hlines, ?_, ?_⟩
  · rw [length_lines, count_tagComment h]
  · rw [hlines, List.head?_append_of_ne_nil _ (lines_ne_nil _), ← methodKey_of_untyped h,
      head?_lines_eq_iff, ← List.count_eq_zero, count_tagComment h, List.count_eq_zero]

/-- A name without a line feed leaves the comment on one line. -/
lemma TagFirst.tail_comment (first : TagFirst r text body) (h : '\n' ∉ r.method.toList) :
    (lines (tagComment (methodKey r))).tail = [] := by
  rw [← List.length_eq_zero_iff, List.length_tail, first.height, List.count_eq_zero.mpr h]

/-- Scripts with the same body have the same lines behind those of their comments. -/
lemma TagFirst.sameBehindTag (first : TagFirst r text body) (first' : TagFirst r' text' body) :
    SameBehindTag r r' text text' := by
  have tails : (lines text).tail = (lines text').tail ↔
      (lines (tagComment (methodKey r))).tail = (lines (tagComment (methodKey r'))).tail := by
    rw [first.both, first'.both, List.tail_append_of_ne_nil (lines_ne_nil _),
      List.tail_append_of_ne_nil (lines_ne_nil _), List.append_cancel_right_eq]
  refine ⟨?_, tails, fun h h' => ?_⟩
  · rw [first.both, first'.both, ← first.height, ← first'.height, List.drop_left, List.drop_left]
  · rw [tails, first.tail_comment h, first'.tail_comment h']

end

end Recorder

namespace CallRecord

open Recorder

variable {bytes : List UInt8} {r : CallRecord}

/-- The key of a record that was unpacked has no parameter types, wherever its call was made. -/
lemma signature_of_unpack (h : unpack bytes = .ok r) (index : UInt32) (target scope : String) :
    (r.placed index target scope).signature =
    .mangle (r.placed index target scope).method none := by
  have keyed := keyed_of_unpack h
  rw [Keyed, untyped_of_unpack h] at keyed
  exact keyed

/-- The script for a call that was unpacked starts with the lines of its tag, wherever the call
was made, and whatever calls have the same arguments have scripts with the same lines behind those
of the tag. -/
theorem unpack_tagLine (h : unpack bytes = .ok r) (hne : r.arguments.values ≠ [])
    {options : RecorderOptions} {index : UInt32} {target scope text : String}
    (htext : argumentsText options (r.placed index target scope) = .ok text) :
    ∃ body, TagFirst (r.placed index target scope) text body ∧
      ∀ bytes' r' index' target' scope', unpack bytes' = .ok r' → r'.arguments = r.arguments →
        ∃ text', argumentsText options (r'.placed index' target' scope') = .ok text' ∧
          TagFirst (r'.placed index' target' scope') text' body ∧
          SameBehindTag (r.placed index target scope) (r'.placed index' target' scope') text
          text' := by
  rcases argumentsText_eq options hne with ⟨e, failed⟩ | ⟨body, made⟩
  · cases (failed (r.placed index target scope) rfl).symm.trans htext
  · cases (made (r.placed index target scope) rfl).symm.trans htext
    have first := tagFirst (signature_of_unpack h index target scope) body
    refine ⟨body, first, fun bytes' r' index' target' scope' h' hsame => ?_⟩
    have first' := tagFirst (signature_of_unpack h' index' target' scope') body
    exact ⟨_, made (r'.placed index' target' scope') hsame, first', first.sameBehindTag first'⟩

/-- A call of a method with a number as its argument. -/
def numberCall (method : String) : CallRecord :=
  { new 0 "" method none ⟨.empty, [.scalar (.int 1)]⟩ with
    outcome := some (.returned ⟨.empty, .null⟩) }

/-- The frame of the call. -/
def numberFrame (method : String) : List UInt8 :=
  Frame.assemble method (numberCall method).packedArguments (.returned ⟨.empty, .null⟩)

/-- There are scripts for such calls. -/
lemma argumentsText_numberCall :
    ∃ body, ∀ r : CallRecord, r.arguments = (numberCall "open").arguments →
    argumentsText {} r = .ok (ArgumentsScript.tagLine (methodKey r) ++ body) := by
  have written : argumentsScript {} (numberCall "open") =
      .ok (.build "open:#0" [.single (.declareScalar "integer0" (.int 1))] [some "integer0"]) := by
    cbv
  refine (argumentsText_eq {} (List.cons_ne_nil _ _)).resolve_left ?_
  rintro ⟨e, failed⟩
  have none := failed (numberCall "open") rfl
  rw [argumentsText, written] at none
  cases none

/-- The comment of a call of `open` is one line, and the script for a call of `close` differs from
that one only in this line. -/
theorem unpack_tagLine_open :
    ∃ text text', argumentsText {} ((numberCall "open").placed 3 "p.Door" "") = .ok text ∧
    argumentsText {} ((numberCall "close").placed 4 "p.Door" "s") = .ok text' ∧
    (lines text).head? = some "// $Tag 'open:#3'" ∧ (lines text).tail = (lines text').tail := by
  have unpacked : unpack (numberFrame "open") = .ok (numberCall "open") := by cbv
  have unpacked' : unpack (numberFrame "close") = .ok (numberCall "close") := by cbv
  obtain ⟨_, made⟩ := argumentsText_numberCall
  have made := made ((numberCall "open").placed 3 "p.Door" "") rfl
  obtain ⟨_, first, others⟩ := unpack_tagLine unpacked (List.cons_ne_nil _ _) made
  obtain ⟨text', made', _, same⟩ := others _ _ 4 "p.Door" "s" unpacked' rfl
  exact ⟨_, text', made, made', first.first.mpr (by decide), same.confined (by decide) (by decide)⟩

/-- A name with a line feed takes the comment apart: what it has behind the line feed is a line of
its own, which the script for a call of another name with the same arguments does not have. -/
theorem argumentsText_breaks_tagLine :
    unpack (numberFrame "open\nexit();") = .ok (numberCall "open\nexit();") ∧
      unpack (numberFrame "open") = .ok (numberCall "open") ∧
      (numberCall "open\nexit();").arguments = (numberCall "open").arguments ∧
      (numberCall "open").arguments.values ≠ [] ∧
      ∃ text text', argumentsText {} (numberCall "open\nexit();") = .ok text ∧
        argumentsText {} (numberCall "open") = .ok text' ∧
        (lines text).take 2 = ["// $Tag 'open", "exit();:#0'"] ∧
        (lines text).head? ≠ some (tagComment (methodKey (numberCall "open\nexit();"))) ∧
        (lines text).tail ≠ (lines text').tail := by
  have comment : lines (tagComment (methodKey (numberCall "open\nexit();"))) =
      ["// $Tag 'open", "exit();:#0'"] := by cbv
  have comment' : lines (tagComment (methodKey (numberCall "open"))) = ["// $Tag 'open:#0'"] := by
    cbv
  obtain ⟨body, made⟩ := argumentsText_numberCall
  have first := tagFirst (r := numberCall "open\nexit();") rfl body
  have first' := tagFirst (r := numberCall "open") rfl body
  refine ⟨by cbv, by cbv, rfl, List.cons_ne_nil _ _, _, _, made _ rfl, made _ rfl, ?_, ?_, ?_⟩
  · rw [first.both, comment]
    rfl
  · rw [first.both, comment, List.cons_append, List.head?_cons]
    decide
  · rw [Ne, (first.sameBehindTag first').tails, comment, comment']
    decide

end CallRecord

end CallReplay
