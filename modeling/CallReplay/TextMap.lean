/-!
# Text-keyed maps in insertion order

Property bags and handle tables keep their entries in the order in which the keys were first
inserted. Inserting a key again keeps its place and replaces its value, so no key occurs twice.
-/

namespace CallReplay

/-- A map from texts to texts whose entries stand in the order of first insertion. -/
structure TextMap where
  entries : List (String × String)
  keys_nodup : (entries.map Prod.fst).Nodup
  deriving DecidableEq

namespace TextMap

/-- Replaces the value of a key where it stands, or adds the entry at the end. -/
def put (key value : String) : List (String × String) → List (String × String)
  | [] => [(key, value)]
  | (k, v) :: rest => if k = key then (k, value) :: rest else (k, v) :: put key value rest

/-- Putting a key in leaves the other keys and adds at most that key. -/
theorem mem_keys_put {key value k : String} {entries : List (String × String)} :
    k ∈ (put key value entries).map Prod.fst ↔ k = key ∨ k ∈ entries.map Prod.fst := by
  induction entries with
  | nil => simp [put]
  | cons entry rest ih =>
    by_cases h : entry.1 = key
    · simp [put, h]
    · simp only [put, h, if_false, List.map_cons, List.mem_cons, ih]
      constructor
      · rintro (h | h | h) <;> simp [h]
      · rintro (h | h | h) <;> simp [h]

/-- Putting a key in keeps the keys distinct. -/
theorem nodup_put {key value : String} {entries : List (String × String)}
    (h : (entries.map Prod.fst).Nodup) : ((put key value entries).map Prod.fst).Nodup := by
  induction entries with
  | nil => simp [put]
  | cons entry rest ih =>
    simp only [List.map_cons, List.nodup_cons] at h
    by_cases hk : entry.1 = key
    · simp only [put, hk, if_true, List.map_cons, List.nodup_cons]
      exact ⟨hk ▸ h.1, h.2⟩
    · simp only [put, hk, if_false, List.map_cons, List.nodup_cons]
      refine ⟨fun hm => ?_, ih h.2⟩
      cases mem_keys_put.mp hm with
      | inl he => exact hk he
      | inr hr => exact h.1 hr

/-- The map without entries. -/
def empty : TextMap := ⟨[], by simp⟩

/-- Sets the value of a key, whether or not it had one before. -/
def insert (m : TextMap) (key value : String) : TextMap :=
  ⟨put key value m.entries, nodup_put m.keys_nodup⟩

/-- The map that results from inserting entries one after another. -/
def ofList (entries : List (String × String)) : TextMap :=
  entries.foldl (fun m e => m.insert e.1 e.2) empty

/-- The value of a key. -/
def get? (m : TextMap) (key : String) : Option String :=
  m.entries.lookup key

/-- How many keys have a value. -/
def size (m : TextMap) : Nat := m.entries.length

/-- Whether two maps give the same value to every key, whatever the order of their entries. -/
def agrees (a b : TextMap) : Bool :=
  a.size == b.size && a.entries.all fun e => b.get? e.1 == some e.2

instance : Inhabited TextMap := ⟨empty⟩

end TextMap

end CallReplay
