import CallReplay.Server.Session
import Mathlib

/-!
# Sessions found under their ids

What is open is told by `find?`. Each operation on a registry changes what is found under one id and
leaves what is found under the others.
-/

namespace CallReplay.SessionRegistry

variable {r : SessionRegistry} {id other : SessionId} {session : Session}

/-- A session that is found has the id that was looked for. -/
lemma id_of_find? (h : r.find? id = some session) : session.id = id := by
  have hid := List.find?_some h
  exact eq_of_beq hid

/-- The open sessions are those that are found under their ids. -/
lemma mem_sessions_iff : session ∈ r.sessions ↔ r.find? session.id = some session := by
  constructor
  · intro hmem
    obtain ⟨before, after, hsplit⟩ := List.append_of_mem hmem
    have distinct := r.ids_nodup
    rw [find?, hsplit, List.find?_append]
    rw [hsplit, List.map_append, List.nodup_append] at distinct
    have absent : before.find? (fun s => s.id == session.id) = none := by
      rw [List.find?_eq_none]
      intro s hs same
      exact distinct.2.2 _ (List.mem_map_of_mem hs) session.id (by simp) (eq_of_beq same)
    rw [absent]
    simp
  · exact List.mem_of_find?_eq_some

/-- No session is open in the beginning. -/
@[simp]
lemma find?_empty (id : SessionId) : empty.find? id = none := rfl

/-- A session that is closed is no longer open, and all others are as they were. -/
@[simp]
lemma find?_close (r : SessionRegistry) (id other : SessionId) :
    (r.close id).find? other = if other = id then none else r.find? other := by
  rw [find?, close, List.find?_filter]
  split
  next h =>
    subst h
    simp
  next h =>
    rw [find?]
    congr 1
    funext s
    grind

/-- Closing a session that is not open changes nothing. -/
lemma close_of_none (h : r.find? id = none) : r.close id = r := by
  have kept : r.sessions.filter (fun s => s.id != id) = r.sessions := by
    rw [List.filter_eq_self]
    intro s hs
    have other : (s.id == id) = false := by simpa using List.find?_eq_none.mp h s hs
    rw [bne, other]
    rfl
  cases r
  simp only [close, mk.injEq]
  exact kept

/-- A session that is opened has given out no index and lists nothing, and all others are
as they were. -/
@[simp]
lemma find?_start (r : SessionRegistry) (id : SessionId) (target : String) (other : SessionId) :
    (r.start id target).find? other = if other = id then some ⟨id, target, 0, []⟩
    else r.find? other := by
  have rest := find?_close r id other
  rw [find?] at rest ⊢
  rw [start, List.find?_append, rest]
  split
  next h => simp [h]
  next h =>
    have differs : (id == other) = false := beq_false_of_ne (Ne.symm h)
    simp [differs]

/-- Changing a session changes no other. -/
lemma find?_update (r : SessionRegistry) (id : SessionId) (f : Session → Session)
    (keeps : ∀ s, (f s).id = s.id) (other : SessionId) :
    (r.update id f keeps).find? other = if other = id then (r.find? id).map f
    else r.find? other := by
  have same : ((fun s : Session => s.id == other) ∘ fun s => if s.id = id then f s else s) =
      fun s => s.id == other := by
    funext s
    by_cases h : s.id = id <;> simp [h, keeps]
  rw [find?, update, List.find?_map, same]
  cases hfind : r.find? other with
  | none =>
    rw [find?] at hfind
    split
    next h =>
      subst h
      simp [find?, hfind]
    next => simp [hfind]
  | some session =>
    have hid := id_of_find? hfind
    rw [find?] at hfind
    split
    next h =>
      subst h
      simp [find?, hfind, hid]
    next h => simp [hfind, hid, h]

/-- Giving out an index of a session raises its next one, and all others are as they were. -/
@[simp]
lemma find?_advance (r : SessionRegistry) (id other : SessionId) : (r.advance id).find? other =
    if other = id then (r.find? id).map fun s => { s with nextIndex := s.nextIndex + 1 }
      else r.find? other :=
  find?_update r id _ _ other

/-- Noting an artifact adds it at the end of the list of its session, and all others are
as they were. -/
@[simp]
lemma find?_note (r : SessionRegistry) (id : SessionId) (artifact : ArtifactId)
    (other : SessionId) :
    (r.note id artifact).find? other =
      if other = id then (r.find? id).map fun s => { s with artifacts := s.artifacts ++ [artifact] }
      else r.find? other :=
  find?_update r id _ _ other

end CallReplay.SessionRegistry
