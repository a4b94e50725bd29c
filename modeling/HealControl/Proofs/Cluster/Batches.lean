import HealControl.Proofs.Cluster.MergedSets
import Mathlib.Data.List.Nodup

/-!
# Contributors in batches

Whether contributors are merged at once or in batches makes no difference but for the parity, which
is only ever taken from the first contributor of a batch. Between two batches the sets are sorted,
so the reports of the second one meet the known sets in another order. `PlacedAlike` is what the two
runs have in common: at every place of the cluster they know the same sets in the same order. One
more report keeps that as long as no id is repeated, and the last sort makes the lists equal.
-/
namespace HealControl.Cluster

/-- Sets that stand in the same order at every place of the cluster. -/
def PlacedAlike (l l' : List SetStatus) : Prop :=
  ∀ place : SetStatus, l.filter place.samePlace = l'.filter place.samePlace

namespace PlacedAlike

variable {l l' : List SetStatus}

theorem refl (l : List SetStatus) : PlacedAlike l l := fun _ => rfl

theorem mergeSort_left (l : List SetStatus) : PlacedAlike (l.mergeSort SetStatus.placed) l :=
  (stablySorted_mergeSort l).stable

theorem mem_iff (h : PlacedAlike l l') (s : SetStatus) : s ∈ l ↔ s ∈ l' :=
  mem_iff_of_filter_samePlace h s

theorem mem_ids_iff (h : PlacedAlike l l') (id : String) :
    id ∈ l.map SetStatus.id ↔ id ∈ l'.map SetStatus.id := by
  simp only [List.mem_map, h.mem_iff]

theorem eq_nil_iff (h : PlacedAlike l l') : l = [] ↔ l' = [] := by
  simp only [List.eq_nil_iff_forall_not_mem, h.mem_iff]

theorem mergeSort_eq (h : PlacedAlike l l') :
    l.mergeSort SetStatus.placed = l'.mergeSort SetStatus.placed := by
  have hl := stablySorted_mergeSort l
  have hl' := stablySorted_mergeSort l'
  have hstable : StablySorted l (l'.mergeSort SetStatus.placed) :=
    ⟨hl'.ordered, fun place => (hl'.stable place).trans (h place).symm⟩
  exact hl.unique hstable

theorem append (h : PlacedAlike l l') (r : List SetStatus) : PlacedAlike (l ++ r) (l' ++ r) := by
  intro place
  rw [List.filter_append, List.filter_append, h place]

theorem map {f : SetStatus → SetStatus} (h : PlacedAlike l l')
    (hf : ∀ place s : SetStatus, place.samePlace (f s) = place.samePlace s) :
    PlacedAlike (l.map f) (l'.map f) := by
  intro place
  have hcomp : place.samePlace ∘ f = place.samePlace := funext fun s => hf place s
  rw [List.filter_map, List.filter_map, hcomp, h place]

end PlacedAlike

theorem SetStatus.samePlace_absorb (place known report : SetStatus) :
    place.samePlace (known.absorb report) = place.samePlace known := by
  unfold absorb
  split
  · rfl
  · split <;> rfl

section
variable {sets sets' : List SetStatus} {r : SetStatus}

theorem addSet_eq_map (hnd : (sets.map SetStatus.id).Nodup) (h : r.id ∈ sets.map SetStatus.id) :
    addSet sets r = sets.map fun s => if s.id = r.id then s.absorb r else s := by
  induction sets with
  | nil => simp at h
  | cons s rest ih =>
    rw [List.map_cons, List.nodup_cons] at hnd
    rw [addSet, List.map_cons]
    by_cases hs : s.id = r.id
    · have hkeep : rest.map (fun t => if t.id = r.id then t.absorb r else t) = rest.map id := by
        apply List.map_congr_left
        intro t ht
        have hne : t.id ≠ r.id := fun e => hnd.1 (hs.trans e.symm ▸ List.mem_map_of_mem ht)
        exact if_neg hne
      rw [if_pos hs, if_pos hs, hkeep, List.map_id]
    · rw [List.map_cons, List.mem_cons] at h
      rw [if_neg hs, if_neg hs, ih hnd.2 (h.resolve_left (Ne.symm hs))]

theorem nodup_ids_addSet (hnd : (sets.map SetStatus.id).Nodup) (r : SetStatus) :
    ((addSet sets r).map SetStatus.id).Nodup := by
  rw [map_id_addSet]
  split
  · exact hnd
  · rename_i h
    rw [← List.concat_eq_append]
    exact List.Nodup.concat h hnd

theorem nodup_ids_foldl_addSet (hnd : (sets.map SetStatus.id).Nodup) (reports : List SetStatus) :
    ((reports.foldl addSet sets).map SetStatus.id).Nodup :=
  List.foldlRecOn (motive := fun sets => (sets.map SetStatus.id).Nodup) reports addSet hnd
    fun _ h r _ => nodup_ids_addSet h r

/-- One more report keeps sets placed alike. -/
theorem PlacedAlike.addSet (h : PlacedAlike sets sets') (hnd : (sets.map SetStatus.id).Nodup)
    (hnd' : (sets'.map SetStatus.id).Nodup) (r : SetStatus) :
    PlacedAlike (addSet sets r) (addSet sets' r) := by
  by_cases hmem : r.id ∈ sets.map SetStatus.id
  · rw [addSet_eq_map hnd hmem, addSet_eq_map hnd' ((h.mem_ids_iff r.id).mp hmem)]
    apply h.map
    intro place s
    split
    · exact SetStatus.samePlace_absorb place s r
    · rfl
  · have hmem' : r.id ∉ sets'.map SetStatus.id := fun h' => hmem ((h.mem_ids_iff r.id).mpr h')
    rw [addSet_of_not_mem hmem, addSet_of_not_mem hmem']
    exact h.append [r]

theorem PlacedAlike.foldl_addSet (h : PlacedAlike sets sets')
    (hnd : (sets.map SetStatus.id).Nodup) (hnd' : (sets'.map SetStatus.id).Nodup)
    (reports : List SetStatus) :
    PlacedAlike (reports.foldl Cluster.addSet sets) (reports.foldl Cluster.addSet sets') := by
  induction reports generalizing sets sets' with
  | nil => exact h
  | cons r reports ih =>
    exact ih (h.addSet hnd hnd' r) (nodup_ids_addSet hnd r) (nodup_ids_addSet hnd' r)

end

namespace ClusterStatus

theorem foldl_contribute_eq (s : ClusterStatus) (others : List ClusterStatus) :
    others.foldl contribute s =
      { offlineNodes := s.offlineNodes ++ others.flatMap offlineNodes
        scannedItems := others.foldl (fun n o => Saturating.addSigned n o.scannedItems) s.scannedItems
        healDisks := s.healDisks ++ others.flatMap healDisks
        sets := (others.foldl contribute s).sets
        recentFailures :=
          others.foldl (fun d o => addRecentFailures d o.recentFailures) s.recentFailures
        parity := s.parity } := by
  induction others generalizing s with
  | nil => simp
  | cons o others ih =>
    rw [List.foldl_cons, ih]
    simp [contribute]

theorem sets_foldl_contribute_congr {s t : ClusterStatus} (h : s.sets = t.sets)
    (others : List ClusterStatus) :
    (others.foldl contribute s).sets = (others.foldl contribute t).sets := by
  rw [sets_foldl_contribute, sets_foldl_contribute]
  simp only [seed, reports, h]

theorem parity_withParity (s : ClusterStatus) (others : List ClusterStatus) :
    (s.withParity others).parity =
      if s.parity.isEmpty then (others.head?.map parity).getD s.parity else s.parity := by
  cases others with
  | nil => simp [withParity]
  | cons first rest =>
    rw [withParity]
    split <;> rfl

/-- What a merge comes to, field by field. -/
theorem merge_eq (s : ClusterStatus) (others : List ClusterStatus) :
    s.merge others =
      { offlineNodes := s.offlineNodes ++ others.flatMap offlineNodes
        scannedItems := others.foldl (fun n o => Saturating.addSigned n o.scannedItems) s.scannedItems
        healDisks := s.healDisks ++ others.flatMap healDisks
        sets := (others.foldl contribute s).sets.mergeSort SetStatus.placed
        recentFailures :=
          others.foldl (fun d o => addRecentFailures d o.recentFailures) s.recentFailures
        parity :=
          if s.parity.isEmpty then (others.head?.map parity).getD s.parity else s.parity } := by
  have hsets := sets_foldl_contribute_congr (sets_withParity s others) others
  rw [merge, sorted, hsets, foldl_contribute_eq, parity_withParity]
  cases others with
  | nil => rfl
  | cons first rest =>
    rw [withParity]
    split <;> rfl

theorem sets_merge (s : ClusterStatus) (others : List ClusterStatus) :
    (s.merge others).sets = (others.foldl contribute s).sets.mergeSort SetStatus.placed := by
  rw [merge_eq]

theorem nodup_seed_of_append {s : ClusterStatus} {xs ys : List ClusterStatus}
    (h : ((s.seed (xs ++ ys)).map SetStatus.id).Nodup) :
    ((s.seed xs).map SetStatus.id).Nodup := by
  unfold seed at h ⊢
  by_cases hs : s.sets.isEmpty
  · rw [if_pos hs, List.find?_append] at h
    rw [if_pos hs]
    cases hx : xs.find? fun o => !o.sets.isEmpty with
    | none => simp
    | some o => simpa [hx] using h
  · rw [if_neg hs] at h ⊢
    exact h

theorem nodup_ids_foldl_contribute {s : ClusterStatus} {others : List ClusterStatus}
    (h : ((s.seed others).map SetStatus.id).Nodup) :
    ((others.foldl contribute s).sets.map SetStatus.id).Nodup := by
  rw [sets_foldl_contribute]
  exact nodup_ids_foldl_addSet h _

/-- More contributors keep statuses placed alike. -/
theorem placedAlike_foldl_contribute {s t : ClusterStatus} (h : PlacedAlike s.sets t.sets)
    (hs : (s.sets.map SetStatus.id).Nodup) (ht : (t.sets.map SetStatus.id).Nodup)
    (others : List ClusterStatus) :
    PlacedAlike (others.foldl contribute s).sets (others.foldl contribute t).sets := by
  by_cases hempty : s.sets = []
  · -- both statuses wait for the same seed
    rw [sets_foldl_contribute_congr (hempty.trans (h.eq_nil_iff.mp hempty).symm)]
    exact PlacedAlike.refl _
  · have hempty' : t.sets ≠ [] := fun ht => hempty (h.eq_nil_iff.mpr ht)
    rw [sets_foldl_contribute_of_ne_nil s others hempty,
      sets_foldl_contribute_of_ne_nil t others hempty']
    exact h.foldl_addSet hs ht _

theorem sets_merge_append {s : ClusterStatus} {xs ys : List ClusterStatus}
    (h : ((s.seed (xs ++ ys)).map SetStatus.id).Nodup) :
    (s.merge (xs ++ ys)).sets = ((s.merge xs).merge ys).sets := by
  have hfirst := nodup_ids_foldl_contribute (nodup_seed_of_append h)
  have hsets := sets_merge s xs
  have hperm := (List.mergeSort_perm (xs.foldl contribute s).sets SetStatus.placed).map SetStatus.id
  have halike : PlacedAlike (xs.foldl contribute s).sets (s.merge xs).sets := fun place =>
    hsets ▸ (PlacedAlike.mergeSort_left _ place).symm
  have hlast := placedAlike_foldl_contribute halike hfirst
    (hsets ▸ hperm.nodup_iff.mpr hfirst) ys
  rw [sets_merge, sets_merge (s.merge xs), List.foldl_append]
  exact hlast.mergeSort_eq

/-- The parity of the cluster is known to the first contributor of the second batch, but neither to
the status nor to the first contributor of the first batch. -/
def LateParity (s : ClusterStatus) (xs ys : List ClusterStatus) : Prop :=
  s.parity.isEmpty ∧ (∃ x ∈ xs.head?, x.parity.isEmpty) ∧ ∃ y ∈ ys.head?, ¬ y.parity.isEmpty

theorem parity_merge (s : ClusterStatus) (others : List ClusterStatus) :
    (s.merge others).parity =
      if s.parity.isEmpty then (others.head?.map parity).getD s.parity else s.parity := by
  rw [merge_eq]

theorem parity_merge_append (s : ClusterStatus) (xs ys : List ClusterStatus) :
    ((s.merge (xs ++ ys)).parity = ((s.merge xs).merge ys).parity ↔ ¬ s.LateParity xs ys) ∧
    (s.LateParity xs ys → (s.merge (xs ++ ys)).parity.isEmpty ∧
      ∀ y ∈ ys.head?, ((s.merge xs).merge ys).parity = y.parity) := by
  simp only [parity_merge, LateParity]
  by_cases hs : s.parity.isEmpty
  · cases xs with
    | nil => simp [hs]
    | cons x xs =>
      by_cases hx : x.parity.isEmpty
      · cases ys with
        | nil => simp [hs, hx]
        | cons y ys =>
          have hxy : x.parity = y.parity ↔ y.parity.isEmpty := by
            rw [(Dict.isEmpty_iff x.parity).mp hx, Dict.isEmpty_iff, eq_comm]
          simp [hs, hx, hxy]
      · simp [hs, hx]
  · simp [hs]

/-- Two batches come to the same as one, the parity apart: it differs exactly if only the second
batch begins with a contributor that knows it. -/
theorem merge_append (s : ClusterStatus) (xs ys : List ClusterStatus)
    (h : ((s.seed (xs ++ ys)).map SetStatus.id).Nodup) :
    let once := s.merge (xs ++ ys)
    let twice := (s.merge xs).merge ys
    (once.sets = twice.sets ∧ once.offlineNodes = twice.offlineNodes ∧
      once.healDisks = twice.healDisks ∧ once.recentFailures = twice.recentFailures ∧
      once.scannedItems = twice.scannedItems) ∧
    (once.parity = twice.parity ↔ ¬ s.LateParity xs ys) ∧
    (s.LateParity xs ys →
      once.parity.isEmpty ∧ ∀ y ∈ ys.head?, twice.parity = y.parity) := by
  intro once twice
  refine ⟨⟨sets_merge_append h, ?_, ?_, ?_, ?_⟩, parity_merge_append s xs ys⟩
  · simp [once, twice, merge_eq]
  · simp [once, twice, merge_eq]
  · simp [once, twice, merge_eq]
  · simp [once, twice, merge_eq]

def reporting (sets : List SetStatus) (parity : Dict UInt64) : ClusterStatus :=
  { (default : ClusterStatus) with sets := sets, parity := parity }

def setReport (id : String) (place : Int32) (disks : List Disk) : SetStatus :=
  { (default : SetStatus) with id := id, setIndex := place, disks := disks }

/-- The second node knows more disks of a set, and the parity. -/
theorem merge_append_late :
    let first := reporting [setReport "s2" 1 [default], setReport "s1" 0 [default]] .empty
    let second := reporting [setReport "s1" 0 [default, default]] (Dict.empty.insert "STANDARD" 4)
    let s : ClusterStatus := default
    let once := s.merge ([first] ++ [second])
    let twice := (s.merge [first]).merge [second]
    ((s.seed ([first] ++ [second])).map SetStatus.id).Nodup ∧ s.LateParity [first] [second] ∧
    once.sets = twice.sets ∧ once.parity ≠ twice.parity ∧ twice.parity = second.parity := by
  intro first second s once twice
  have h : ((s.seed ([first] ++ [second])).map SetStatus.id).Nodup := by decide
  have hlate : s.LateParity [first] [second] :=
    ⟨rfl, ⟨first, rfl, rfl⟩, ⟨second, rfl, by decide⟩⟩
  obtain ⟨⟨hsets, -⟩, hparity, htwice⟩ := merge_append s [first] [second] h
  exact ⟨h, hlate, hsets, fun e => hparity.mp e hlate, (htwice hlate).2 second rfl⟩

end ClusterStatus

end HealControl.Cluster
