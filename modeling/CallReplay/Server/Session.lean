import CallReplay.Artifact
import CallReplay.Server.SessionId

/-!
# Recording sessions

A session records the calls on one remote object. It numbers the calls from zero on, in the order in
which they come in, and keeps the ids of the samplers made from them. The registry holds the open
sessions from the oldest to the newest, each under an id of its own.
-/

namespace CallReplay

/-- An open session. -/
structure Session where
  id : SessionId
  /-- The remote object that is called. -/
  target : String
  /-- The index for the next call. -/
  nextIndex : UInt32
  /-- The samplers made so far. -/
  artifacts : List ArtifactId
  deriving DecidableEq

/-- The open sessions, the oldest first. -/
structure SessionRegistry where
  sessions : List Session
  ids_nodup : (sessions.map Session.id).Nodup
  deriving DecidableEq

namespace SessionRegistry

/-- No session is open. -/
def empty : SessionRegistry := ⟨[], by simp⟩

instance : Inhabited SessionRegistry := ⟨empty⟩

/-- The open session of an id. -/
def find? (r : SessionRegistry) (id : SessionId) : Option Session :=
  r.sessions.find? fun s => s.id == id

/-- The registry without the session of an id. -/
def close (r : SessionRegistry) (id : SessionId) : SessionRegistry where
  sessions := r.sessions.filter fun s => s.id != id
  ids_nodup := r.ids_nodup.sublist ((List.filter_sublist).map Session.id)

/-- No session of the id is left once it is closed. -/
theorem not_mem_ids_close (r : SessionRegistry) (id : SessionId) :
    id ∉ (r.close id).sessions.map Session.id := by
  simp [close]

/-- Opens a session on a remote object, in the place of any earlier one with the id. -/
def start (r : SessionRegistry) (id : SessionId) (target : String) : SessionRegistry where
  sessions := (r.close id).sessions ++ [⟨id, target, 0, []⟩]
  ids_nodup := by
    rw [List.map_append, List.map_singleton]
    refine List.nodup_append.mpr ⟨(r.close id).ids_nodup, by simp, fun a ha b hb => ?_⟩
    rw [List.mem_singleton.mp hb]
    exact fun he => r.not_mem_ids_close id ((show a = id from he) ▸ ha)

/-- Changes the session of an id, which stays the session of that id. -/
def update (r : SessionRegistry) (id : SessionId) (f : Session → Session)
    (keeps : ∀ s, (f s).id = s.id) : SessionRegistry where
  sessions := r.sessions.map fun s => if s.id = id then f s else s
  ids_nodup := by
    have same : (Session.id ∘ fun s => if s.id = id then f s else s) = Session.id := by
      funext s
      by_cases h : s.id = id <;> simp [h, keeps]
    rw [List.map_map, same]
    exact r.ids_nodup

/-- Takes the next index of a session. -/
def advance (r : SessionRegistry) (id : SessionId) : SessionRegistry :=
  r.update id (fun s => { s with nextIndex := s.nextIndex + 1 }) fun _ => rfl

/-- Notes a sampler that was made in a session. -/
def note (r : SessionRegistry) (id : SessionId) (artifact : ArtifactId) : SessionRegistry :=
  r.update id (fun s => { s with artifacts := s.artifacts ++ [artifact] }) fun _ => rfl

end SessionRegistry

end CallReplay
