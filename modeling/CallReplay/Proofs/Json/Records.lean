import CallReplay.Json.Decode
import CallReplay.Proofs.Except

/-!
# Reading records

A record is read from the members of an object or from the elements of a list. Both ways the reader
looks for each field in one place, among the members of its name or at its position, and what it
finds there decides the field (`Fields.Reads`). Reading succeeds only if that can be said of the
result, and for an object that is JSON all through this is all that is needed.
-/

namespace CallReplay.Json

/-- What stands in a tree for the field of a name at a position. -/
def Source.parts : Source → Nat → String → List Source
  | .object members _, _, name => members.filterMap fun m => if m.1 = some name then some m.2
      else none
  | .list elements _, position, _ => elements[position]?.toList
  | _, _, _ => []

/-- What stands in for a field where a tree has nothing for it. -/
def Source.standIn {α : Type} : Source → Option α → Option α → Option α
  | .list _ _, _, short => short
  | _, absent, _ => absent

namespace Fields

/-- The names of the fields, the last one first. -/
def names : {α : Type} → Fields α → List String
  | _, ready _ => []
  | _, awaited earlier name _ _ _ => name :: names earlier
  | _, found earlier name _ => name :: names earlier

/-- How many fields there are. -/
def size : {α : Type} → Fields α → Nat
  | _, ready _ => 0
  | _, awaited earlier _ _ _ _ => size earlier + 1
  | _, found earlier _ _ => size earlier + 1

/-- Whether no field is known yet. -/
def isFresh : {α : Type} → Fields α → Bool
  | _, ready _ => true
  | _, awaited earlier _ _ _ _ => isFresh earlier
  | _, found _ _ _ => false

/-- The record that a tree stands for: each field that is awaited is read from the one part
that the tree has for it, or is stood in for where the tree has none; a field that is known has
no part left. -/
inductive Reads (s : Source) : {α : Type} → Fields α → α → Prop
  | ready {α : Type} (value : α) : Reads s (.ready value) value
  | given {α β : Type} {earlier : Fields (β → α)} {make : β → α} {name : String} {read : Reader β}
      {absent short : Option β} {part : Source} {b : β} (before : Reads s earlier make)
      (only : s.parts earlier.size name = [part]) (reads : read part = .ok b) :
      Reads s (.awaited earlier name read absent short) (make b)
  | missing {α β : Type} {earlier : Fields (β → α)} {make : β → α} {name : String} {read : Reader β}
      {absent short : Option β} {b : β} (before : Reads s earlier make)
      (nothing : s.parts earlier.size name = []) (standIn : s.standIn absent short = some b) :
      Reads s (.awaited earlier name read absent short) (make b)
  | known {α β : Type} {earlier : Fields (β → α)} {make : β → α} {name : String} {b : β}
      (before : Reads s earlier make) (nothing : s.parts earlier.size name = []) :
      Reads s (.found earlier name b) (make b)

section

variable {α : Type} {fields fields' : Fields α} {a : α} {key name : String} {s : Source}
  {ms : List (Option String × Source)} {elements rest : List Source} {closed : Bool}

/-! ### Members of an object -/

/-- A member is a part of its object under its own name. -/
lemma parts_member (position : Nat) :
    (Source.object ((some key, s) :: ms) closed).parts position key =
      s :: (Source.object ms closed).parts position key := by
  simp [Source.parts]

/-- A member is no part of its object under another name. -/
lemma parts_otherMember (position : Nat) (other : name ≠ key) :
    (Source.object ((some key, s) :: ms) closed).parts position name =
      (Source.object ms closed).parts position name := by
  simp [Source.parts, Ne.symm other]

/-- What a record is read as depends on the parts for its fields only. -/
lemma Reads.congr {t : Source} (h : Reads s fields a)
    (same : ∀ position, ∀ name ∈ fields.names, t.parts position name = s.parts position name)
    (standIn : ∀ {β : Type} (absent short : Option β), t.standIn absent short =
    s.standIn absent short) :
    Reads t fields a := by
  induction h with
  | ready value => exact .ready value
  | given before only reads ih =>
    have earlier := ih fun position name h => same position name (List.mem_cons_of_mem _ h)
    exact .given earlier ((same _ _ List.mem_cons_self).trans only) reads
  | missing before nothing stands ih =>
    have earlier := ih fun position name h => same position name (List.mem_cons_of_mem _ h)
    exact .missing earlier ((same _ _ List.mem_cons_self).trans nothing)
      ((standIn _ _).trans stands)
  | known before nothing ih =>
    have earlier := ih fun position name h => same position name (List.mem_cons_of_mem _ h)
    exact .known earlier ((same _ _ List.mem_cons_self).trans nothing)

/-- A member does not matter to fields of other names. -/
lemma reads_otherMember (other : key ∉ fields.names) :
    Reads (.object ((some key, s) :: ms) closed) fields a ↔ Reads (.object ms closed) fields a := by
  have same : ∀ position, ∀ name ∈ fields.names,
      (Source.object ((some key, s) :: ms) closed).parts position name =
        (Source.object ms closed).parts position name := by
    intro position name h
    refine parts_otherMember position ?_
    rintro rfl
    exact other h
  exact ⟨fun h => h.congr (fun position name h => (same position name h).symm) fun _ _ => rfl,
    fun h => h.congr same fun _ _ => rfl⟩

/-! ### Taking in one member -/

/-- A member that no field asks for has to be JSON and is dropped. -/
lemma put_ready_eq_ok_iff {value : α} :
    put key s (.ready value) = .ok fields' ↔ s.isWhole = true ∧ fields' = .ready value := by
  cases h : s.isWhole <;> simp [put, h, eq_comm]

/-- A field takes the member of its name and leaves others to the fields before it. -/
lemma put_awaited_eq_ok_iff {β : Type} {earlier : Fields (β → α)} {read : Reader β}
    {absent short : Option β} :
    put key s (.awaited earlier name read absent short) = .ok fields' ↔
      (name = key ∧ ∃ b, read s = .ok b ∧ fields' = .found earlier name b) ∨
      (name ≠ key ∧ ∃ earlier', put key s earlier = .ok earlier' ∧
        fields' = .awaited earlier' name read absent short) := by
  by_cases same : name = key
  · cases h : read s <;> simp [put, same, h, eq_comm]
  · cases h : put key s earlier <;> simp [put, same, h, eq_comm]

/-- A field that has its member refuses a second one and leaves others to the fields before it. -/
lemma put_found_eq_ok_iff {β : Type} {earlier : Fields (β → α)} {b : β} :
    put key s (.found earlier name b) = .ok fields' ↔
      name ≠ key ∧ ∃ earlier', put key s earlier = .ok earlier' ∧
      fields' = .found earlier' name b := by
  by_cases same : name = key
  · simp [put, same]
  · cases h : put key s earlier <;> simp [put, same, h, eq_comm]

/-- A member does not change which fields there are. -/
lemma names_put (h : put key s fields = .ok fields') : fields'.names = fields.names := by
  induction fields with
  | ready value =>
    obtain ⟨-, rfl⟩ := put_ready_eq_ok_iff.mp h
    rfl
  | awaited earlier name read absent short ih =>
    obtain ⟨-, b, -, rfl⟩ | ⟨-, earlier', taken, rfl⟩ := put_awaited_eq_ok_iff.mp h
    · rfl
    · exact congrArg (name :: ·) (ih taken)
  | found earlier name b ih =>
    obtain ⟨-, earlier', taken, rfl⟩ := put_found_eq_ok_iff.mp h
    exact congrArg (name :: ·) (ih taken)

/-- Taking in a member settles the field of its name: what the record is then read as from the other
members it is read as with this one. -/
lemma reads_of_put (distinct : fields.names.Nodup) (taken : put key s fields = .ok fields')
    (h : Reads (.object ms closed) fields' a) :
    Reads (.object ((some key, s) :: ms) closed) fields a := by
  -- On the fields from the last one, as the member is looked for; those before its field do not
  -- have its name.
  induction fields with
  | ready value =>
    obtain ⟨-, rfl⟩ := put_ready_eq_ok_iff.mp taken
    cases h
    exact .ready value
  | awaited earlier name read absent short ih =>
    obtain ⟨other, distinct⟩ := List.nodup_cons.mp distinct
    obtain ⟨rfl, b, reads, rfl⟩ | ⟨differs, earlier', takenBefore, rfl⟩ :=
      put_awaited_eq_ok_iff.mp taken
    · cases h with
      | known before nothing =>
        exact .given ((reads_otherMember other).mpr before)
          ((parts_member _).trans (congrArg _ nothing)) reads
    · cases h with
      | given before only reads =>
        exact .given (ih distinct takenBefore before) ((parts_otherMember _ differs).trans only)
          reads
      | missing before nothing standIn =>
        exact .missing (ih distinct takenBefore before)
          ((parts_otherMember _ differs).trans nothing) standIn
  | found earlier name b ih =>
    obtain ⟨other, distinct⟩ := List.nodup_cons.mp distinct
    obtain ⟨differs, earlier', takenBefore, rfl⟩ := put_found_eq_ok_iff.mp taken
    cases h with
    | known before nothing =>
      exact .known (ih distinct takenBefore before) ((parts_otherMember _ differs).trans nothing)

/-- A member that is JSON all through is taken in if the record is read with it. -/
lemma put_of_reads (distinct : fields.names.Nodup) (whole : s.isWhole = true)
    (h : Reads (.object ((some key, s) :: ms) closed) fields a) :
    ∃ fields', put key s fields = .ok fields' ∧ Reads (.object ms closed) fields' a := by
  induction fields with
  | ready value =>
    cases h
    exact ⟨_, put_ready_eq_ok_iff.mpr ⟨whole, rfl⟩, .ready value⟩
  | awaited earlier name read absent short ih =>
    obtain ⟨other, distinct⟩ := List.nodup_cons.mp distinct
    by_cases same : name = key
    · subst same
      cases h with
      | given before only reads =>
        rw [parts_member, List.cons.injEq] at only
        obtain ⟨rfl, nothing⟩ := only
        exact ⟨_, put_awaited_eq_ok_iff.mpr (.inl ⟨rfl, _, reads, rfl⟩),
          .known ((reads_otherMember other).mp before) nothing⟩
      | missing before nothing standIn =>
        rw [parts_member] at nothing
        cases nothing
    · cases h with
      | given before only reads =>
        obtain ⟨earlier', taken, before⟩ := ih distinct before
        rw [parts_otherMember _ same] at only
        exact ⟨_, put_awaited_eq_ok_iff.mpr (.inr ⟨same, _, taken, rfl⟩), .given before only reads⟩
      | missing before nothing standIn =>
        obtain ⟨earlier', taken, before⟩ := ih distinct before
        rw [parts_otherMember _ same] at nothing
        exact ⟨_, put_awaited_eq_ok_iff.mpr (.inr ⟨same, _, taken, rfl⟩),
          .missing before nothing standIn⟩
  | found earlier name b ih =>
    obtain ⟨other, distinct⟩ := List.nodup_cons.mp distinct
    cases h with
    | known before nothing =>
      have same : name ≠ key := by
        rintro rfl
        rw [parts_member] at nothing
        cases nothing
      obtain ⟨earlier', taken, before⟩ := ih distinct before
      rw [parts_otherMember _ same] at nothing
      exact ⟨_, put_found_eq_ok_iff.mpr ⟨same, _, taken, rfl⟩, .known before nothing⟩

/-! ### Records from objects -/

/-- Where no member is left, the record is what the fields make it. -/
lemma finish_eq_ok_iff : fields.finish = .ok a ↔ Reads (.object [] closed) fields a := by
  induction fields with
  | ready value =>
    constructor
    · intro h
      cases h
      exact .ready value
    · intro h
      cases h
      rfl
  | awaited earlier name read absent short ih =>
    simp only [finish, bind_eq_ok_iff]
    constructor
    · rintro ⟨make, before, h⟩
      cases absent with
      | none => cases h
      | some b =>
        cases h
        exact .missing (ih.mp before) rfl rfl
    · intro h
      cases h with
      | given before only reads => cases only
      | missing before nothing standIn =>
        obtain rfl : absent = some _ := standIn
        exact ⟨_, ih.mpr before, rfl⟩
  | found earlier name b ih =>
    simp only [finish, bind_eq_ok_iff]
    constructor
    · rintro ⟨make, before, h⟩
      cases h
      exact .known (ih.mp before) rfl
    · intro h
      cases h with
      | known before nothing => exact ⟨_, ih.mpr before, rfl⟩

/-- What the members of an object are taken in to, the record is read as from the object. -/
lemma reads_of_putAll (distinct : fields.names.Nodup) (taken : putAll fields ms = .ok fields')
    (finished : fields'.finish = .ok a) : Reads (.object ms closed) fields a := by
  induction ms generalizing fields with
  | nil =>
    cases taken
    exact finish_eq_ok_iff.mp finished
  | cons m ms ih =>
    obtain ⟨_ | key, s⟩ := m
    · cases taken
    · simp only [putAll] at taken
      split at taken
      next next' put =>
        exact reads_of_put distinct put (ih (names_put put ▸ distinct) taken)
      next => cases taken

/-- An object that is JSON all through, with a text for each name, is read as any record that
it stands for. -/
lemma putAll_of_reads (distinct : fields.names.Nodup) {members : List (String × Source)}
    (whole : ∀ m ∈ members, m.2.isWhole = true)
    (h : Reads (.object (members.map fun m => (some m.1, m.2)) closed) fields a) :
    ∃ fields', putAll fields (members.map fun m => (some m.1, m.2)) = .ok fields' ∧
    fields'.finish = .ok a := by
  induction members generalizing fields with
  | nil => exact ⟨fields, rfl, finish_eq_ok_iff.mpr h⟩
  | cons m members ih =>
    obtain ⟨next', put, h⟩ := put_of_reads distinct (whole m List.mem_cons_self) h
    obtain ⟨last', taken, finished⟩ :=
      ih (names_put put ▸ distinct) (fun m h => whole m (List.mem_cons_of_mem _ h)) h
    refine ⟨last', ?_, finished⟩
    simp only [List.map_cons, putAll, put]
    exact taken

/-! ### Records from lists -/

/-- The fields are read from the elements in order, and what is left of the elements is what
stands behind them. -/
lemma reads_of_take (fresh : fields.isFresh = true)
    (h : fields.take closed elements = .ok (a, rest)) :
    Reads (.list elements closed) fields a ∧ rest = elements.drop fields.size := by
  induction fields generalizing rest with
  | ready value =>
    cases h
    exact ⟨.ready value, rfl⟩
  | awaited earlier name read absent short ih =>
    obtain ⟨⟨make, left⟩, taken, h⟩ := bind_eq_ok_iff.mp h
    obtain ⟨before, rfl⟩ := ih fresh taken
    simp only at h
    split at h
    next s rest' shape =>
      obtain ⟨b, reads, h⟩ := bind_eq_ok_iff.mp h
      cases h
      have here : elements[earlier.size]? = some s := by
        rw [← List.head?_drop, shape, List.head?_cons]
      refine ⟨.given before ?_ reads, ?_⟩
      · simp only [Source.parts, here, Option.toList_some]
      · rw [size, ← List.drop_drop, shape, List.drop_one, List.tail_cons]
    next shape =>
      have none' : elements[earlier.size]? = none := by
        rw [← List.head?_drop, shape, List.head?_nil]
      split at h
      · split at h
        next =>
          cases h
          refine ⟨.missing before ?_ rfl, ?_⟩
          · simp only [Source.parts, none', Option.toList_none]
          · rw [size, ← List.drop_drop, shape, List.drop_nil]
        next => cases h
      · cases h
  | found earlier name b ih => cases fresh

/-! ### Records -/

/-- What a record is read as, it is read as field by field. -/
theorem reads_of_read (fresh : fields.isFresh = true) (distinct : fields.names.Nodup)
    (h : fields.read s = .ok a) :
    Reads s fields a := by
  unfold read at h
  split at h
  next ms closed =>
    split at h
    next fields' taken =>
      split at h
      · exact reads_of_putAll distinct taken h
      · cases h
    next => cases h
  next elements closed =>
    obtain ⟨⟨b, rest⟩, taken, h⟩ := bind_eq_ok_iff.mp h
    simp only at h
    split at h
    · cases h
      exact (reads_of_take fresh taken).1
    · cases h
  next => cases h

/-- An object that is JSON all through, with a text for each name, is read as any record that
it stands for. -/
theorem read_of_reads (distinct : fields.names.Nodup) {members : List (String × Source)}
    (whole : ∀ m ∈ members, m.2.isWhole = true)
    (h : Reads (.object (members.map fun m => (some m.1, m.2)) true) fields a) :
    fields.read (.object (members.map fun m => (some m.1, m.2)) true) = .ok a := by
  obtain ⟨fields', taken, finished⟩ := putAll_of_reads distinct whole h
  simp only [read, taken, if_true, finished]

end

end Fields

end CallReplay.Json
