import Mathlib.Data.List.Basic
import HealControl.Proofs.Cluster.Absorption
import HealControl.Proofs.Cluster.Placement

/-!
# The sets of a merged status

The first sets that are known, those of the status itself or of the first contributor that has any,
are the seed. All sets that contributors report after that are absorbed by the seed or by the
first report of their id. `sets_merge_eq_iff` gives the sets of a merged status in closed form,
with nothing left of the order in which contributors were folded in.
-/
namespace HealControl.Cluster

def reportsOf (id : String) (reports : List SetStatus) : List SetStatus :=
  reports.filter fun r => r.id = id

/-- The sets of a seed after reports. The first of each id absorbs the reports of that id, and a
later one of the same id stays as it is. -/
def absorbing (seed reports : List SetStatus) : List SetStatus :=
  seed.mapIdx fun i s =>
    if s.id ∈ (seed.map SetStatus.id).take i then s else s.absorbAll (reportsOf s.id reports)

/-- The ids that the seed does not know, in the order in which they are first reported. -/
def newIds (seed reports : List SetStatus) : List String :=
  ((reports.map SetStatus.id).filter fun id => id ∉ seed.map SetStatus.id).eraseDups

def combined? : List SetStatus → Option SetStatus
  | [] => none
  | first :: later => some (first.absorbAll later)

def added (seed reports : List SetStatus) : List SetStatus :=
  (newIds seed reports).filterMap fun id => combined? (reportsOf id reports)

theorem find?_id_eq_none_iff (sets : List SetStatus) (id : String) :
    (sets.find? fun s => s.id = id) = none ↔ id ∉ sets.map SetStatus.id := by
  simp [List.find?_eq_none]

section
variable {seed : List SetStatus} {r : SetStatus} (reports : List SetStatus)

theorem reportsOf_cons_self : reportsOf r.id (r :: reports) = r :: reportsOf r.id reports := by
  simp [reportsOf]

theorem reportsOf_cons_of_ne {id : String} (h : id ≠ r.id) :
    reportsOf id (r :: reports) = reportsOf id reports := by
  simp [reportsOf, h.symm]

theorem addSet_of_not_mem (h : r.id ∉ seed.map SetStatus.id) : addSet seed r = seed ++ [r] := by
  induction seed with
  | nil => rfl
  | cons s rest ih =>
    rw [List.map_cons, List.mem_cons, not_or] at h
    rw [addSet, if_neg (Ne.symm h.1), ih h.2, List.cons_append]

theorem addSet_ne_nil (sets : List SetStatus) (r : SetStatus) : addSet sets r ≠ [] := by
  cases sets with
  | nil => simp [addSet]
  | cons s rest =>
    rw [addSet]
    split <;> simp

theorem addSet_of_mem (h : r.id ∈ seed.map SetStatus.id) :
    addSet seed r = seed.mapIdx fun i s =>
      if s.id = r.id ∧ s.id ∉ (seed.map SetStatus.id).take i then s.absorb r else s := by
  induction seed with
  | nil => simp at h
  | cons s rest ih =>
    rw [List.mapIdx_cons]
    by_cases hs : s.id = r.id
    · -- the first set of the id is the head, so no later one changes
      have hkeep : ∀ i (t : SetStatus),
          ¬ (t.id = r.id ∧ t.id ∉ ((s :: rest).map SetStatus.id).take (i + 1)) := by
        rintro i t ⟨ht, hnot⟩
        simp [ht, hs] at hnot
      simp only [addSet, hs, hkeep, if_false, mapIdx_keep]
      simp
    · have hr : r.id ∈ rest.map SetStatus.id := by
        rcases List.mem_cons.mp h with hr | hr
        · exact absurd hr.symm hs
        · exact hr
      have hsame : ∀ i (t : SetStatus),
          (t.id = r.id ∧ t.id ∉ ((s :: rest).map SetStatus.id).take (i + 1)) ↔
            (t.id = r.id ∧ t.id ∉ (rest.map SetStatus.id).take i) := by
        intro i t
        simp only [List.map_cons, List.take_succ_cons, List.mem_cons, not_or]
        constructor
        · rintro ⟨ht, -, hnot⟩
          exact ⟨ht, hnot⟩
        · rintro ⟨ht, hnot⟩
          exact ⟨ht, fun hts => hs (hts.symm.trans ht), hnot⟩
      simp only [addSet, hs, if_false, false_and, hsame, ih hr]

theorem absorbing_addSet_of_mem (h : r.id ∈ seed.map SetStatus.id) :
    absorbing (addSet seed r) reports = absorbing seed (r :: reports) := by
  have hids : (addSet seed r).map SetStatus.id = seed.map SetStatus.id := by
    rw [map_id_addSet, if_pos h]
  unfold absorbing
  rw [hids, addSet_of_mem h, List.mapIdx_mapIdx]
  apply List.mapIdx_eq_mapIdx_iff.mpr
  intro i hi
  simp only [Function.comp_apply]
  by_cases hs : seed[i].id = r.id
  · by_cases hfirst : r.id ∈ (seed.map SetStatus.id).take i
    · simp [hs, hfirst]
    · simp [hs, hfirst, reportsOf_cons_self, SetStatus.absorbAll_cons]
  · simp [hs, reportsOf_cons_of_ne]

theorem absorbing_addSet_of_not_mem (h : r.id ∉ seed.map SetStatus.id) :
    absorbing (addSet seed r) reports =
      absorbing seed (r :: reports) ++ [r.absorbAll (reportsOf r.id reports)] := by
  rw [addSet_of_not_mem h]
  unfold absorbing
  rw [List.mapIdx_concat]
  congr 1
  · apply List.mapIdx_eq_mapIdx_iff.mpr
    intro i hi
    have hne : seed[i].id ≠ r.id := fun e => h (e ▸ List.mem_map_of_mem (List.getElem_mem hi))
    have hle : i ≤ (seed.map SetStatus.id).length := by rw [List.length_map]; omega
    rw [reportsOf_cons_of_ne reports hne, List.map_append, List.take_append_of_le_length hle]
  · simp [h]

theorem newIds_cons_of_mem (h : r.id ∈ seed.map SetStatus.id) :
    newIds seed (r :: reports) = newIds seed reports := by
  simp only [newIds, List.map_cons, List.filter_cons, h, not_true_eq_false, decide_false,
    Bool.false_eq_true, if_false]

theorem newIds_cons_of_not_mem (h : r.id ∉ seed.map SetStatus.id) :
    newIds seed (r :: reports) = r.id :: newIds (seed ++ [r]) reports := by
  have hfilter : (r.id :: reports.map SetStatus.id).filter (fun id => id ∉ seed.map SetStatus.id) =
      r.id :: (reports.map SetStatus.id).filter fun id => id ∉ seed.map SetStatus.id :=
    List.filter_cons_of_pos (by simpa using h)
  rw [newIds, List.map_cons, hfilter, List.eraseDups_cons, List.filter_filter, newIds]
  congr 3
  funext id
  by_cases hid : id = r.id <;> simp [hid]

theorem not_mem_of_mem_newIds {id : String} (h : id ∈ newIds seed reports) :
    id ∉ seed.map SetStatus.id := by
  have hf := List.mem_eraseDups.mp h
  simpa using (List.mem_filter.mp hf).2

theorem added_addSet_of_mem (h : r.id ∈ seed.map SetStatus.id) :
    added (addSet seed r) reports = added seed (r :: reports) := by
  have hids : (addSet seed r).map SetStatus.id = seed.map SetStatus.id := by
    rw [map_id_addSet, if_pos h]
  have hnew : newIds (addSet seed r) reports = newIds seed reports := by
    rw [newIds, hids, newIds]
  unfold added
  rw [hnew, newIds_cons_of_mem reports h]
  apply List.filterMap_congr
  intro id hid
  have hne : id ≠ r.id := fun e => not_mem_of_mem_newIds reports hid (e ▸ h)
  rw [reportsOf_cons_of_ne reports hne]

theorem added_addSet_of_not_mem (h : r.id ∉ seed.map SetStatus.id) :
    added seed (r :: reports) =
      r.absorbAll (reportsOf r.id reports) :: added (addSet seed r) reports := by
  have hfirst : combined? (reportsOf r.id (r :: reports)) =
      some (r.absorbAll (reportsOf r.id reports)) := by
    rw [reportsOf_cons_self, combined?]
  unfold added
  rw [addSet_of_not_mem h, newIds_cons_of_not_mem reports h, List.filterMap_cons]
  simp only [hfirst]
  congr 1
  apply List.filterMap_congr
  intro id hid
  have hne : id ≠ r.id := by
    intro e
    have hnot := not_mem_of_mem_newIds reports hid
    simp [e] at hnot
  rw [reportsOf_cons_of_ne reports hne]

end

/-- What a seed comes to after any number of reports. -/
theorem foldl_addSet (seed reports : List SetStatus) :
    reports.foldl addSet seed = absorbing seed reports ++ added seed reports := by
  induction reports generalizing seed with
  | nil => simp [absorbing, added, newIds, reportsOf]
  | cons r reports ih =>
    rw [List.foldl_cons, ih]
    by_cases h : r.id ∈ seed.map SetStatus.id
    · rw [absorbing_addSet_of_mem reports h, added_addSet_of_mem reports h]
    · rw [absorbing_addSet_of_not_mem reports h, List.append_assoc, List.singleton_append,
        ← added_addSet_of_not_mem reports h]

namespace ClusterStatus

/-- The first sets that are known: those of the status, or else of the first contributor that has
any. -/
def seed (s : ClusterStatus) (others : List ClusterStatus) : List SetStatus :=
  if s.sets.isEmpty then ((others.find? fun o => !o.sets.isEmpty).map sets).getD [] else s.sets

def reports (s : ClusterStatus) (others : List ClusterStatus) : List SetStatus :=
  if s.sets.isEmpty then ((others.dropWhile fun o => o.sets.isEmpty).drop 1).flatMap sets
  else others.flatMap sets

@[simp] theorem sets_withParity (s : ClusterStatus) (others : List ClusterStatus) :
    (s.withParity others).sets = s.sets := by
  cases others with
  | nil => rfl
  | cons first rest =>
    simp only [withParity]
    split <;> rfl

theorem sets_contribute_of_nil {s : ClusterStatus} (h : s.sets = []) (o : ClusterStatus) :
    (s.contribute o).sets = o.sets := by
  simp [contribute, addSets, h]

theorem sets_contribute_of_ne_nil {s : ClusterStatus} (h : s.sets ≠ []) (o : ClusterStatus) :
    (s.contribute o).sets = o.sets.foldl addSet s.sets := by
  simp [contribute, addSets, h]

theorem sets_contribute_ne_nil {s : ClusterStatus} (h : s.sets ≠ []) (o : ClusterStatus) :
    (s.contribute o).sets ≠ [] := by
  rw [sets_contribute_of_ne_nil h]
  exact List.foldlRecOn (motive := fun sets => sets ≠ []) o.sets addSet h
    fun _ _ r _ => addSet_ne_nil _ r

theorem sets_foldl_contribute_of_ne_nil (s : ClusterStatus) (others : List ClusterStatus)
    (h : s.sets ≠ []) :
    (others.foldl contribute s).sets = (others.flatMap sets).foldl addSet s.sets := by
  induction others generalizing s with
  | nil => rfl
  | cons o others ih =>
    rw [List.foldl_cons, ih _ (sets_contribute_ne_nil h o), sets_contribute_of_ne_nil h,
      List.flatMap_cons, List.foldl_append]

theorem sets_foldl_contribute (s : ClusterStatus) (others : List ClusterStatus) :
    (others.foldl contribute s).sets = (s.reports others).foldl addSet (s.seed others) := by
  by_cases h : s.sets = []
  · induction others generalizing s with
    | nil => simp [seed, reports, h]
    | cons o others ih =>
      have hsets := sets_contribute_of_nil h o
      rw [List.foldl_cons]
      by_cases ho : o.sets = []
      · rw [ih _ (hsets.trans ho)]
        simp [seed, reports, h, hsets, ho]
      · have hne : (s.contribute o).sets ≠ [] := fun e => ho (hsets.symm.trans e)
        rw [sets_foldl_contribute_of_ne_nil _ _ hne]
        simp [seed, reports, h, hsets, ho]
  · rw [sets_foldl_contribute_of_ne_nil s others h]
    simp [seed, reports, h]

/-- The sets of a merged status are what the seed comes to after the reports, sorted stably by
place. -/
theorem sets_merge_eq_iff (s : ClusterStatus) (others : List ClusterStatus)
    (sets : List SetStatus) :
    (s.merge others).sets = sets ↔
      StablySorted
        (absorbing (s.seed others) (s.reports others) ++ added (s.seed others) (s.reports others))
        sets := by
  have hfold : ((s.withParity others).reports others).foldl addSet
      ((s.withParity others).seed others) =
      absorbing (s.seed others) (s.reports others) ++ added (s.seed others) (s.reports others) := by
    rw [foldl_addSet]
    simp [seed, reports]
  have hsorted := stablySorted_mergeSort
    (absorbing (s.seed others) (s.reports others) ++ added (s.seed others) (s.reports others))
  have hmerge : (s.merge others).sets =
      (absorbing (s.seed others) (s.reports others) ++
        added (s.seed others) (s.reports others)).mergeSort SetStatus.placed := by
    rw [merge, sorted, sets_foldl_contribute, hfold]
  constructor
  · rintro rfl
    rw [hmerge]
    exact hsorted
  · intro h
    rw [hmerge]
    exact hsorted.unique h

end ClusterStatus

end HealControl.Cluster
