import CallReplay.Proofs.Except
import CallReplay.Proofs.Script.Arguments

/-!
# Variables of arguments

The variable for an argument is named after the type of the argument and its position, with nothing
between the two. So a type whose name ends in digits may take digits from the position: two
arguments have one variable if the digits that the later position has before those of the earlier
one stand at the end of the earlier type's name, and only then (`argumentName_eq_iff`). The array of
the arguments then has the later of the two at both positions. Up to ten arguments always have
variables of their own.
-/

namespace CallReplay

open Script

/-- A look-up that a run over tasks has got through has found its object. -/
lemma Script.Emits.exists_of_look {heap : Heap} {options : Options} {n n' : Names}
    {tasks : List Task} {out : List Statement} (run : Emits heap options n tasks out n')
    {id : ObjectId} (h : .look id ∈ tasks) :
    ∃ object, heap.get? id = some object := by
  induction run with
  | done => cases h
  | look found _ ih =>
    rcases List.mem_cons.mp h with first | rest
    · cases first
      exact ⟨_, found⟩
    · exact ih rest
  | store _ ih => exact ih (by simpa using h)
  | leaf _ _ ih => exact ih (by simpa using h)
  | copy _ _ _ ih => exact ih (by simpa using h)
  | create _ _ _ ih => exact ih (List.mem_append_right _ (by simpa using h))

/-- Contents that are read from variables stand at the positions of the variables. -/
lemma Script.getElem?_of_readAll {s : State} {names : List (Option String)} {cells : List Cell}
    (h : readAll s names = .ok cells) {i : Nat} {name : String}
    (hi : names[i]? = some (some name)) :
    ∃ cell, s.read name = .ok cell ∧ cells[i]? = some cell := by
  induction names generalizing cells i with
  | nil => cases hi
  | cons first rest ih =>
    cases first with
    | none =>
      obtain ⟨others, hothers, hcells⟩ := bind_eq_ok_iff.mp h
      cases hcells
      cases i with
      | zero => cases hi
      | succ i => exact ih hothers hi
    | some _ =>
      obtain ⟨cell, hcell, h⟩ := bind_eq_ok_iff.mp h
      obtain ⟨others, hothers, hcells⟩ := bind_eq_ok_iff.mp h
      cases hcells
      cases i with
      | zero =>
        cases hi
        exact ⟨cell, hcell, rfl⟩
      | succ i => exact ih hothers hi

namespace Recorder

/-- The name of one type is that of another one with some digits behind it, which a later position
has before those of an earlier one. -/
def TakesDigits (i j : Nat) (base base' : String) : Prop :=
  ∃ digits, digits ≠ "" ∧ toString j = digits ++ toString i ∧ base = base' ++ digits

section

variable {i j : Nat} {base base' : String}

/-- A larger number has no fewer digits. -/
lemma length_toDigits_le_of_le (h : i ≤ j) :
    (Nat.toDigits 10 i).length ≤ (Nat.toDigits 10 j).length := by
  have bound : j < 10 ^ (Nat.toDigits 10 j).length :=
    (Nat.length_toDigits_le_iff (by decide) Nat.length_toDigits_pos).mp (Nat.le_refl _)
  exact (Nat.length_toDigits_le_iff (by decide) Nat.length_toDigits_pos).mpr
    (Nat.lt_of_le_of_lt h bound)

/-- The variables for two arguments are the same if the digits that only the later position has
stand at the end of the name of the earlier type. -/
theorem argumentName_eq_iff (h : i < j) :
    argumentName base i = argumentName base' j ↔ TakesDigits i j base base' := by
  constructor
  · intro same
    have lists : base.toList ++ Nat.toDigits 10 i = base'.toList ++ Nat.toDigits 10 j := by
      rw [← Nat.toList_repr, ← Nat.toList_repr, ← String.toList_append, ← String.toList_append]
      exact congrArg String.toList same
    have different : Nat.toDigits 10 i ≠ Nat.toDigits 10 j := by
      rw [← Nat.toList_repr, ← Nat.toList_repr]
      exact fun digits => h.ne (Nat.repr_inj.mp (String.toList_injective digits))
    rcases List.append_eq_append_iff.mp lists with ⟨digits, _, hi⟩ | ⟨digits, hbase, hj⟩
    · -- The earlier position cannot have the digits of the later one and more.
      have shorter := length_toDigits_le_of_le h.le
      rw [hi, List.length_append] at shorter
      have none : digits = [] := List.length_eq_zero_iff.mp (by omega)
      rw [none] at hi
      exact absurd hi different
    · refine ⟨String.ofList digits, ?_, ?_, ?_⟩
      · intro none
        rw [← String.toList_inj, String.toList_ofList] at none
        rw [none] at hj
        exact absurd hj.symm different
      · rw [← String.toList_inj, String.toList_append, String.toList_ofList, Nat.toString_eq_repr,
          Nat.toString_eq_repr, Nat.toList_repr, Nat.toList_repr, hj]
      · rw [← String.toList_inj, String.toList_append, String.toList_ofList, hbase]
  · rintro ⟨digits, _, hj, rfl⟩
    rw [argumentName, argumentName, hj, String.append_assoc]

/-- Only a position from ten on has digits before those of another one, and only a name that ends in
a digit is taken for a shorter one with such digits. -/
lemma TakesDigits.late (h : TakesDigits i j base base') :
    10 ≤ j ∧ ∃ c, base.toList.getLast? = some c ∧ c.isDigit = true := by
  obtain ⟨digits, some, hj, rfl⟩ := h
  have hne : digits.toList ≠ [] := by rwa [Ne, String.toList_eq_nil_iff]
  have hdigits : Nat.toDigits 10 j = digits.toList ++ Nat.toDigits 10 i := by
    rw [← Nat.toList_repr, ← Nat.toList_repr, ← String.toList_append]
    exact congrArg String.toList hj
  constructor
  · by_contra small
    have one : (Nat.toDigits 10 j).length ≤ 1 :=
      (Nat.length_toDigits_le_iff (by decide) (by decide)).mpr (by omega)
    have more : 0 < (Nat.toDigits 10 i).length := Nat.length_toDigits_pos
    have first : 0 < digits.toList.length := List.length_pos_iff.mpr hne
    rw [hdigits, List.length_append] at one
    omega
  · refine ⟨digits.toList.getLast hne, ?_, ?_⟩
    · rw [String.toList_append, List.getLast?_append, List.getLast?_eq_some_getLast hne]
      rfl
    · apply Nat.isDigit_of_mem_toDigits (b := 10) (n := j) (by decide) (by decide)
      rw [hdigits]
      exact List.mem_append_left _ (List.getLast_mem hne)

end

/-- The argument at a position is not null, and its variable is named after a type
with some name. -/
def Named (a : Arguments) (i : Nat) (base : String) : Prop :=
  ∃ value, a.values[i]? = some value ∧ value.isNull = false ∧
  VariableName.ofValue a.heap value = .ok base

/-- How the variables that a script lists belong to the arguments. -/
structure Lists (a : Arguments) (script : ArgumentsScript) (names : List (Option String)) :
    Prop where
  length : names.length = a.values.length
  /-- Null has no variable. -/
  null : ∀ i : Nat, a.values[i]? = some .null → names[i]? = some none
  /-- The variable of any other argument is named after its type and its position. -/
  named : ∀ (i : Nat) (value : Value), a.values[i]? = some value → value.isNull = false →
    ∃ base, VariableName.ofValue a.heap value = .ok base ∧
    names[i]? = some (some (base ++ toString i))
  /-- Two arguments have one variable if and only if the name of the earlier one's type is that
  of the later one's type with the digits behind it that the later position has before those of
  the earlier one. -/
  shared : ∀ (i j : Nat) (base base' : String), i < j → Named a i base → Named a j base' →
    (names[i]? = names[j]? ↔ TakesDigits i j base base')
  /-- So ten arguments have different variables, and so do any number if no type has a name that
  ends in a digit. -/
  distinct : (a.values.length ≤ 10 ∨ ∀ i base, Named a i base →
      ∀ c, base.toList.getLast? = some c → c.isDigit = false) →
    ∀ (i j : Nat) (x : String), names[i]? = some (some x) → names[j]? = some (some x) → i = j
  /-- Arguments with one variable come out as the same. -/
  replaced : ∀ (i j : Nat) (x : String), names[i]? = some (some x) → names[j]? = some (some x) →
    ∀ cells objects, script.run = .ok ⟨some cells, objects⟩ → cells[i]? = cells[j]?

section

variable {heap : Heap} {options : Options} {types : List TypeDesc} {start : Nat}
  {values : List Value} {parts : List Scriptlet} {names : List (Option String)} {n n' : Names}

/-- The type of an argument is known once a variable was named after it. -/
lemma ofValue_of_compileArguments {value : Value}
    (h : outcome (compileArguments heap options types start values) n = (.ok (parts, names), n'))
    (hvalue : value ∈ values) : VariableName.ofValue heap value = .ok (baseName heap value) := by
  cases value with
  | ref id =>
    obtain ⟨index, hindex⟩ := List.mem_iff_getElem?.mp hvalue
    have placed : (.ref id, start + index) ∈ values.zipIdx start :=
      List.mem_iff_getElem?.mpr ⟨index, by rw [List.getElem?_zipIdx, hindex]; rfl⟩
    have looked : .look id ∈ argumentTasks heap types start values :=
      List.mem_flatMap.mpr ⟨_, placed, List.mem_cons_self⟩
    obtain ⟨object, found⟩ :=
      (emits_of_runTasks (outcome_compileArguments_ok h).2).exists_of_look looked
    rw [baseName, ofValue_ref, Heap.get, found]
    rfl
  | null | scalar | classOf => rfl

/-- The variable of an argument is named after its value and its position, unless it is null. -/
lemma getElem?_argumentNames (i : Nat) : (argumentNames heap 0 values)[i]? =
    values[i]?.map fun value => if value.isNull then none
    else some (argumentName (baseName heap value) i) := by
  rw [argumentNames, List.getElem?_map, List.getElem?_zipIdx, Option.map_map, Nat.zero_add]
  rfl

end

section

variable {a : Arguments} {i j : Nat} {base base' x : String}

/-- An argument whose type has a name has a variable. -/
lemma Named.getElem? (h : Named a i base) :
    (argumentNames a.heap 0 a.values)[i]? = some (some (argumentName base i)) := by
  obtain ⟨value, hi, hnull, hbase⟩ := h
  have name : baseName a.heap value = base := by rw [baseName, hbase]
  rw [getElem?_argumentNames, hi, Option.map_some, hnull, if_neg Bool.false_ne_true, name]

/-- Two variables that are listed are the same if the names that they start with and the
positions allow it. -/
lemma getElem?_eq_iff (h : i < j) (hi : Named a i base) (hj : Named a j base') :
    (argumentNames a.heap 0 a.values)[i]? = (argumentNames a.heap 0 a.values)[j]? ↔
      TakesDigits i j base base' := by
  rw [hi.getElem?, hj.getElem?, Option.some_inj, Option.some_inj]
  exact argumentName_eq_iff h

variable (known : ∀ value ∈ a.values, VariableName.ofValue a.heap value =
  .ok (baseName a.heap value))

include known

/-- A variable that is listed is that of an argument. -/
lemma named_of_getElem? (h : (argumentNames a.heap 0 a.values)[i]? = some (some x)) :
    ∃ base, Named a i base := by
  rw [getElem?_argumentNames] at h
  obtain ⟨value, hi, hx⟩ := Option.map_eq_some_iff.mp h
  have hnull : value.isNull = false := by
    cases null : value.isNull with
    | false => rfl
    | true => simp [null] at hx
  exact ⟨_, value, hi, hnull, known value (List.mem_of_getElem? hi)⟩

/-- No later argument has the variable of an earlier one, if there are few of them or no type ends
in a digit. -/
lemma not_lt_of_distinct (apart : a.values.length ≤ 10 ∨ ∀ i base, Named a i base →
      ∀ c, base.toList.getLast? = some c → c.isDigit = false)
    (hi : (argumentNames a.heap 0 a.values)[i]? = some (some x))
    (hj : (argumentNames a.heap 0 a.values)[j]? = some (some x)) : ¬i < j := by
  intro h
  obtain ⟨base, named⟩ := named_of_getElem? known hi
  obtain ⟨base', named'⟩ := named_of_getElem? known hj
  obtain ⟨late, c, last, digit⟩ := ((getElem?_eq_iff h named named').mp (hi.trans hj.symm)).late
  rcases apart with few | letters
  · obtain ⟨value, there, _⟩ := named'
    have := (List.getElem?_eq_some_iff.mp there).1
    omega
  · rw [letters i base named c last] at digit
    cases digit

end

end Recorder

/-- What variables a script lists for the arguments of a call, and which of them are the same. -/
theorem argumentsScript_lists {options : RecorderOptions} {r : CallRecord} {tag : String}
    {parts : List Scriptlet} {names : List (Option String)}
    (h : Recorder.argumentsScript options r = .ok (.build tag parts names)) :
    Recorder.Lists r.arguments (.build tag parts names) names := by
  have hne : r.arguments.values ≠ [] := by
    intro hnil
    rw [Recorder.argumentsScript_of_nil hnil] at h
    cases h
  rw [Recorder.argumentsScript_of_ne_nil hne] at h
  rcases hcompiled : outcome (Recorder.compileArguments r.arguments.heap options.script
    (r.argumentTypes.getD []) 0 r.arguments.values) .empty with ⟨e | ⟨parts', names'⟩, n⟩
  · rw [hcompiled] at h
    cases h
  rw [hcompiled] at h
  cases h
  have known : ∀ value ∈ r.arguments.values, VariableName.ofValue r.arguments.heap value =
      .ok (baseName r.arguments.heap value) :=
      fun _ => Recorder.ofValue_of_compileArguments hcompiled
  obtain ⟨rfl, -⟩ := Recorder.outcome_compileArguments_ok hcompiled
  refine ⟨?_, ?_, ?_, ?_, ?_, ?_⟩
  · simp [Recorder.argumentNames]
  · intro i hi
    rw [Recorder.getElem?_argumentNames, hi]
    rfl
  · intro i value hi hnull
    have hbase := known value (List.mem_of_getElem? hi)
    exact ⟨_, hbase, Recorder.Named.getElem? ⟨value, hi, hnull, hbase⟩⟩
  · exact fun i j base base' => Recorder.getElem?_eq_iff
  · intro apart i j x hi hj
    have later := Recorder.not_lt_of_distinct known apart hi hj
    have earlier := Recorder.not_lt_of_distinct known apart hj hi
    omega
  · intro i j x hi hj cells objects hrun
    obtain ⟨s, -, hreturned⟩ := bind_eq_ok_iff.mp hrun
    obtain ⟨elements, hread, hreturned⟩ := bind_eq_ok_iff.mp hreturned
    cases hreturned
    obtain ⟨cell, hcell, celli⟩ := getElem?_of_readAll hread hi
    obtain ⟨cell', hcell', cellj⟩ := getElem?_of_readAll hread hj
    cases hcell.symm.trans hcell'
    rw [celli, cellj]

/-- A call with twelve arguments. The second and the last one are objects, whose classes differ by a
digit at the end; all others are null. -/
def collidingCall : CallRecord :=
  .new 0 "p.Remote" "swap" none
    ⟨⟨#[.struct ⟨"p.Item1", true, false, []⟩, .struct ⟨"p.Item", true, false, []⟩]⟩,
      [.null, .ref ⟨0⟩, .null, .null, .null, .null, .null, .null, .null, .null, .null, .ref ⟨1⟩]⟩

/-- What the script of the call creates, and the variables that it lists. -/
lemma argumentsScript_collidingCall :
    Recorder.argumentsScript {} collidingCall = .ok (.build "swap:#0"
    [⟨[⟨"p.Item1", "item11"⟩], [.construct "p.Item1" "item11"]⟩,
      ⟨[⟨"p.Item", "item11"⟩], [.construct "p.Item" "item11"]⟩]
    [none, some "item11", none, none, none, none, none, none, none, none, none, some "item11"]) :=
    by cbv

/-- The variables of the call are as they are for any other one. -/
theorem argumentsScript_lists_colliding : ∃ tag parts names,
    Recorder.argumentsScript {} collidingCall = .ok (.build tag parts names) ∧
      Recorder.Lists collidingCall.arguments (.build tag parts names) names :=
  ⟨_, _, _, argumentsScript_collidingCall, argumentsScript_lists argumentsScript_collidingCall⟩

/-- Two objects of different classes have one variable, and the array has the second of them
at both positions. -/
theorem argumentsScript_replaces_argument :
    collidingCall.arguments.validate = .ok () ∧
      collidingCall.arguments.values[1]? = some (.ref ⟨0⟩) ∧
      collidingCall.arguments.values[11]? = some (.ref ⟨1⟩) ∧
      ∃ tag parts names, Recorder.argumentsScript {} collidingCall = .ok (.build tag parts names) ∧
        names[1]? = some (some "item11") ∧ names[11]? = some (some "item11") ∧
        ∃ cells first, (ArgumentsScript.build tag parts names).run =
            .ok ⟨some cells, [first, .instanceOf { className := "p.Item" }]⟩ ∧
          cells[1]? = some (.object 1) ∧ cells[11]? = some (.object 1) :=
  ⟨rfl, rfl, rfl, _, _, _, argumentsScript_collidingCall, rfl, rfl, _, _, rfl, rfl, rfl⟩

end CallReplay
