import CallReplay.Store
import Mathlib

/-!
# The last deliveries of a log

A sampler that is delivered again takes the place of the one that was delivered before. What counts
of a log are therefore the deliveries after which the same sampler does not come again (`latest`),
one for each id.
-/

namespace CallReplay

/-- The id that something was delivered under. -/
def Delivery.id (d : Delivery) : ArtifactId := d.artifacts.sampler.id

namespace DeliveryLog

/-- The ids of all samplers that have been delivered. -/
def ids (log : DeliveryLog) : List ArtifactId := log.deliveries.map Delivery.id

/-- A delivery at a position is the last one of its sampler. -/
def IsLast (log : DeliveryLog) (d : Delivery) (i : Nat) : Prop :=
  log.deliveries[i]? = some d ∧ ∀ j later, i < j → log.deliveries[j]? = some later → later.id ≠ d.id

/-- The last deliveries of all samplers, with their positions. -/
def latest (log : DeliveryLog) : List (Delivery × Nat) :=
  log.deliveries.zipIdx.filter fun x =>
    (log.deliveries.drop (x.2 + 1)).all fun later => later.id != x.1.id

variable {log : DeliveryLog} {d e : Delivery} {i j : Nat} {id : ArtifactId}

/-- The latest deliveries are the last ones of their ids. -/
lemma mem_latest_iff : (d, i) ∈ log.latest ↔ log.IsLast d i := by
  have later : (∀ e ∈ log.deliveries.drop (i + 1), e.id ≠ d.id) ↔
      ∀ j e, i < j → log.deliveries[j]? = some e → e.id ≠ d.id := by
    simp only [List.mem_iff_getElem?, List.getElem?_drop, forall_exists_index]
    constructor
    · intro h j e hlt he
      obtain ⟨k, rfl⟩ := Nat.exists_eq_add_of_lt hlt
      exact h e k (by rwa [Nat.add_right_comm])
    · exact fun h e k he => h (i + 1 + k) e (by omega) he
  rw [IsLast, ← later]
  simp [latest, List.mk_mem_zipIdx_iff_getElem?]

/-- An id has one last delivery. -/
lemma IsLast.eq (hd : log.IsLast d i) (he : log.IsLast e j) (hid : d.id = e.id) :
    d = e ∧ i = j := by
  have noneLater : ∀ {d e i j}, log.IsLast d i → log.IsLast e j → d.id = e.id → ¬ i < j :=
    fun hd he hid hlt => hd.2 _ _ hlt he.1 hid.symm
  have hij : i = j :=
    Nat.le_antisymm (Nat.not_lt.mp (noneLater he hd hid.symm)) (Nat.not_lt.mp (noneLater hd he hid))
  subst hij
  exact ⟨Option.some.inj (hd.1.symm.trans he.1), rfl⟩

/-- The last deliveries are in the order of the log. -/
lemma pairwise_latest (log : DeliveryLog) : log.latest.Pairwise fun x y => x.2 < y.2 := by
  have positions : (log.deliveries.zipIdx.map Prod.snd).Pairwise (· < ·) := by
    rw [List.zipIdx_map_snd]
    exact List.pairwise_lt_range'
  exact (List.pairwise_map.mp positions).sublist List.filter_sublist

/-- No delivery is among the latest ones twice. -/
lemma nodup_latest (log : DeliveryLog) : log.latest.Nodup :=
  log.pairwise_latest.imp fun hlt heq => Nat.ne_of_lt hlt (congrArg Prod.snd heq)

/-- A sampler has one last delivery. -/
lemma filter_latest (h : log.IsLast d i) :
    (log.latest.filter fun x => x.1.id == d.id) = [(d, i)] := by
  have only : ∀ x, x ∈ (log.latest.filter fun x => x.1.id == d.id) ↔ x ∈ [(d, i)] := by
    rintro ⟨e, j⟩
    rw [List.mem_filter, List.mem_singleton, mem_latest_iff, beq_iff_eq]
    constructor
    · rintro ⟨he, hid⟩
      obtain ⟨rfl, rfl⟩ := he.eq h hid
      rfl
    · rintro ⟨⟩
      exact ⟨h, rfl⟩
  have perm :=
    (List.perm_ext_iff_of_nodup (log.nodup_latest.filter _) (List.nodup_singleton (d, i))).mpr only
  exact List.perm_singleton.mp perm

/-- A delivery takes the place of the last one of the same sampler. -/
lemma latest_deliver (log : DeliveryLog) (a : Artifacts) (r : CallRecord) :
    (log.deliver a r).latest =
    (log.latest.filter fun x => x.1.id != a.sampler.id) ++ [(⟨a, r⟩, log.deliveries.length)] := by
  -- What was the last delivery of a sampler stays so, unless the new one is of the same sampler.
  have earlier : ∀ x ∈ log.deliveries.zipIdx,
      (((log.deliver a r).deliveries.drop (x.2 + 1)).all fun later => later.id != x.1.id) =
        ((x.1.id != a.sampler.id) &&
          (log.deliveries.drop (x.2 + 1)).all fun later => later.id != x.1.id) := by
    intro x hx
    have hlt : x.2 < log.deliveries.length := List.snd_lt_of_mem_zipIdx hx
    rw [deliver, List.drop_append_of_le_length hlt, List.all_append, Bool.and_comm]
    simp [Delivery.id, bne_comm]
  have new : (log.deliver a r).deliveries.drop (log.deliveries.length + 1) = [] :=
    List.drop_eq_nil_of_le (by simp [deliver])
  have positions : (log.deliver a r).deliveries.zipIdx =
      log.deliveries.zipIdx ++ [(⟨a, r⟩, log.deliveries.length)] := by
    simp [deliver, List.zipIdx_append]
  rw [latest, positions, List.filter_append, List.filter_congr earlier, latest, List.filter_filter]
  simp [new]

/-- A delivery adds its id to those before. -/
lemma mem_ids_deliver_iff {a : Artifacts} {r : CallRecord} :
    id ∈ (log.deliver a r).ids ↔ id ∈ log.ids ∨ id = a.sampler.id := by
  simp [ids, deliver, Delivery.id]

/-- The id of a last delivery was delivered. -/
lemma mem_ids_of_isLast (h : log.IsLast d i) : d.id ∈ log.ids :=
  List.mem_map_of_mem (List.mem_of_getElem? h.1)

/-- A sampler that has been delivered has a last delivery. -/
lemma exists_isLast (h : id ∈ log.ids) : ∃ d i, log.IsLast d i ∧ d.id = id := by
  obtain ⟨ds⟩ := log
  induction ds using List.reverseRecOn with
  | nil => cases h
  | append_singleton ds e ih =>
    have hlog : (⟨ds ++ [e]⟩ : DeliveryLog) = deliver ⟨ds⟩ e.artifacts e.record := rfl
    rw [hlog] at h ⊢
    simp only [← mem_latest_iff, latest_deliver]
    by_cases hid : id = e.id
    · exact ⟨e, ds.length, List.mem_append_right _ (List.mem_singleton_self _), hid.symm⟩
    · obtain ⟨d, i, hd, rfl⟩ := ih ((mem_ids_deliver_iff.mp h).resolve_right hid)
      have kept : (d, i) ∈ (latest ⟨ds⟩).filter fun x => x.1.id != e.id :=
        List.mem_filter.mpr ⟨mem_latest_iff.mpr hd, bne_iff_ne.mpr hid⟩
      exact ⟨d, i, List.mem_append_left _ kept, rfl⟩

/-- No id has two latest deliveries. -/
lemma nodup_ids_latest (log : DeliveryLog) : (log.latest.map fun x => x.1.id).Nodup := by
  refine List.Nodup.map_on ?_ log.nodup_latest
  rintro ⟨d, i⟩ hd ⟨e, j⟩ he hid
  obtain ⟨rfl, rfl⟩ := (mem_latest_iff.mp hd).eq (mem_latest_iff.mp he) hid
  rfl

/-- The ids of the latest deliveries are all that were delivered. -/
lemma mem_ids_latest_iff : id ∈ (log.latest.map fun x => x.1.id) ↔ id ∈ log.ids := by
  rw [List.mem_map]
  constructor
  · rintro ⟨⟨d, i⟩, hd, rfl⟩
    exact mem_ids_of_isLast (mem_latest_iff.mp hd)
  · intro h
    obtain ⟨d, i, hlast, rfl⟩ := exists_isLast h
    exact ⟨(d, i), mem_latest_iff.mpr hlast, rfl⟩

end DeliveryLog

end CallReplay
