import CallReplay.TextMap
import Mathlib

/-!
# Text-keyed maps and their entries

Inserting an entry with a new key adds it at the end, so a map is what results from inserting its
own entries one after another.
-/

namespace CallReplay.TextMap

/-- A key that is not there is put in at the end. -/
lemma put_of_notMem {key value : String} {entries : List (String × String)}
    (h : key ∉ entries.map Prod.fst) : put key value entries = entries ++ [(key, value)] := by
  induction entries with
  | nil => rfl
  | cons entry rest ih =>
    obtain ⟨other, previous⟩ := entry
    simp only [List.map_cons, List.mem_cons, not_or] at h
    rw [put, if_neg (Ne.symm h.1), ih h.2, List.cons_append]

/-- Maps with the same entries are the same. -/
lemma ext_entries {a b : TextMap} (h : a.entries = b.entries) : a = b := by
  cases a
  cases b
  cases h
  rfl

/-- Entries with new keys are inserted at the end, in order. -/
lemma entries_foldl_insert {m : TextMap} {entries : List (String × String)}
    (h : ((m.entries ++ entries).map Prod.fst).Nodup) :
    (entries.foldl (fun m e => m.insert e.1 e.2) m).entries = m.entries ++ entries := by
  induction entries generalizing m with
  | nil => simp
  | cons entry rest ih =>
    have hnew : entry.1 ∉ m.entries.map Prod.fst := by
      intro hmem
      rw [List.map_append, List.nodup_append] at h
      exact h.2.2 _ hmem entry.1 (by simp) rfl
    have hinsert : (m.insert entry.1 entry.2).entries = m.entries ++ [entry] := put_of_notMem hnew
    rw [List.foldl_cons, ih (by simpa [hinsert] using h), hinsert]
    simp

/-- A map results from inserting its entries one after another. -/
theorem ofList_entries (m : TextMap) : ofList m.entries = m := by
  apply ext_entries
  exact entries_foldl_insert m.keys_nodup

end CallReplay.TextMap
