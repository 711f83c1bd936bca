import CallReplay.Files
import CallReplay.Proofs.Except

/-!
# Work on a folder

What comes of a computation on a folder follows from what comes of its steps, one after another
(`outcome`). Writing a file makes no folder disappear, so every path leads where it led before. In
particular the path that was written under leads to the file, and what was written is read back.
-/

namespace CallReplay.Folder

section

variable {ε ε' α β : Type} {f f' : Folder} {x : ExceptT ε (StateM Folder) α} {a : α} {e : ε}

/-- What comes of a computation on a folder, and the folder after it. -/
def outcome (f : Folder) (x : ExceptT ε (StateM Folder) α) : Except ε α × Folder := x.run.run f

/-- A value comes of itself. -/
lemma outcome_pure (f : Folder) (a : α) :
    f.outcome (pure a : ExceptT ε (StateM Folder) α) = (.ok a, f) := rfl

/-- A result comes of itself. -/
lemma outcome_mk_pure (f : Folder) (r : Except ε α) : f.outcome (ExceptT.mk (pure r)) = (r, f) :=
  rfl

/-- What comes of two steps is what comes of the second on the folder that the first leaves. -/
lemma outcome_bind (f : Folder) (x : ExceptT ε (StateM Folder) α)
    (k : α → ExceptT ε (StateM Folder) β) :
    f.outcome (x >>= k) =
      match f.outcome x with
      | (.ok a, f') => f'.outcome (k a)
      | (.error e, f') => (.error e, f') := by
  rw [outcome, ExceptT.run_bind, StateT.run_bind]
  rw [outcome]
  rcases x.run.run f with ⟨a | e, f'⟩ <;> rfl

/-- After a step that succeeds, the next one decides. -/
lemma outcome_bind_ok (h : f.outcome x = (.ok a, f')) (k : α → ExceptT ε (StateM Folder) β) :
    f.outcome (x >>= k) = f'.outcome (k a) := by
  rw [outcome_bind, h]

/-- After a step that fails, nothing more happens. -/
lemma outcome_bind_error (h : f.outcome x = (.error e, f')) (k : α → ExceptT ε (StateM Folder) β) :
    f.outcome (x >>= k) = (.error e, f') := by
  rw [outcome_bind, h]

/-- Two steps succeed if the first does and leads to a success of the second. -/
lemma outcome_bind_eq_ok_iff {k : α → ExceptT ε (StateM Folder) β} {b : β} :
    f.outcome (x >>= k) = (.ok b, f') ↔
      ∃ a between, f.outcome x = (.ok a, between) ∧ between.outcome (k a) = (.ok b, f') := by
  rw [outcome_bind]
  rcases f.outcome x with ⟨a | e, between⟩ <;> simp

/-- A step that cannot fail succeeds. -/
lemma outcome_lift (f : Folder) (x : StateM Folder α) :
    f.outcome (liftM x : ExceptT ε (StateM Folder) α) = (.ok (x.run f).1, (x.run f).2) := rfl

/-- Changing how a failure is reported changes nothing else. -/
lemma outcome_adapt (f : Folder) (x : ExceptT ε (StateM Folder) α) (g : ε → ε') :
    f.outcome (x.adapt g) = ((f.outcome x).1.mapError g, (f.outcome x).2) := rfl

/-- A step succeeds however its failure is reported. -/
lemma outcome_adapt_eq_ok_iff {g : ε → ε'} :
    f.outcome (x.adapt g) = (.ok a, f') ↔ f.outcome x = (.ok a, f') := by
  rw [outcome_adapt, Prod.mk.injEq, mapError_eq_ok_iff, ← Prod.mk.injEq]

end

variable {f : Folder} {path other : FilePath} {written content : List UInt8}

/-- The file that was written has its new content. -/
lemma lookup_put (f : Folder) (path : FilePath) (content : List UInt8) :
    (f.put path content).files.lookup path = some content := by
  rw [put, List.lookup_cons, beq_self_eq_true]

/-- A file that is put in leaves every folder where it is. -/
lemma isFolder_put (h : f.isFolder other = true) : (f.put path content).isFolder other = true := by
  simp only [isFolder, Bool.or_eq_true, List.any_eq_true] at h ⊢
  refine h.imp_right ?_
  rintro ⟨file, mem, below⟩
  by_cases same : file.1 = path
  · exact ⟨(path, content), List.mem_cons_self, same ▸ below⟩
  · exact ⟨file, List.mem_cons_of_mem _ (List.mem_filter.mpr ⟨mem, by simpa using same⟩), below⟩

/-- A file that is put in is no folder if there was none in its place. -/
lemma isFolder_put_self (h : f.isFolder path = false) :
    (f.put path content).isFolder path = false := by
  simp only [isFolder, Bool.or_eq_false_iff, List.any_eq_false] at h ⊢
  refine ⟨h.1, fun file mem => ?_⟩
  rcases List.mem_cons.mp mem with rfl | mem
  · simp
  · exact h.2 file (List.mem_filter.mp mem).1

/-- A name leads where it led before a file was written. -/
lemma follow_put {name : List UInt8} {reached : FilePath} (h : f.follow other name = .ok reached) :
    (f.put path content).follow other name = .ok reached := by
  rw [follow] at h ⊢
  cases here : f.isFolder other with
  | false =>
    rw [here] at h
    cases h
  | true =>
    rw [here] at h
    rw [isFolder_put here]
    exact h

/-- A path leads where it led before a file was written. -/
lemma locate_put (h : f.locate written = .ok other) :
    (f.put path content).locate written = .ok other := by
  have along :
    ∀ (names : List (List UInt8)) (start : FilePath), names.foldlM f.follow start = .ok other →
      names.foldlM (f.put path content).follow start = .ok other := by
    intro names
    induction names with
    | nil => exact fun _ => id
    | cons name names ih =>
      intro start h
      rw [List.foldlM_cons] at h ⊢
      obtain ⟨reached, first, rest⟩ := bind_eq_ok_iff.mp h
      exact bind_eq_ok_iff.mpr ⟨reached, follow_put first, ih reached rest⟩
  rw [locate] at h ⊢
  split at h
  · cases h
  split at h
  · cases h
  next filled short =>
    rw [if_neg filled, if_neg short]
    exact along _ _ h

/-- A file can be changed where a path leads, unless a folder or the null file is there. -/
lemma changeable?_eq_some_iff : f.changeable? written = some path ↔
    f.locate written = .ok path ∧ f.isFolder path = false ∧ path ≠ nullFile := by
  rw [changeable?]
  cases f.locate written with
  | error e => simp
  | ok found =>
    simp only [Option.ite_none_left_eq_some, Option.some.injEq, Bool.or_eq_true, not_or,
      Except.ok.injEq]
    constructor
    · rintro ⟨⟨folder, null⟩, rfl⟩
      exact ⟨rfl, by simpa using folder, by simpa using null⟩
    · rintro ⟨rfl, folder, null⟩
      exact ⟨⟨by simp [folder], by simpa using null⟩, rfl⟩

/-- What is written is read back. -/
theorem read_write {changed : Folder} (h : f.write written content = some changed) :
    changed.read written = .ok content := by
  obtain ⟨path, found, rfl⟩ := Option.map_eq_some_iff.mp h
  obtain ⟨located, notFolder, notNull⟩ := changeable?_eq_some_iff.mp found
  rw [read, locate_put located]
  have file : (f.put path content).file? path = some content := by
    rw [file?, if_neg notNull, lookup_put]
  simp only [isFolder_put_self notFolder, file, bind, Except.bind]
  rfl

end CallReplay.Folder
