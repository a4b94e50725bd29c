import HealControl.Proofs.Cluster.Batches

/-!
# Contributors that come again

A second merge of the same contributors brings nothing but what merely adds up. Its reports were
all heard before, also those that were superseded since: the ones of fewer disks are left out again,
and those of as many disks run once more through the progress of every disk and leave the last one
there, which is what it had. So a set is settled by what it has heard, and stays as it is when the
last part of that is repeated (`absorbAll_of_suffix`).
-/
namespace HealControl.Cluster

@[simp] theorem Disk.progress_updated (d : Disk) (brought : Option DiskProgress) :
    (d.updated brought).progress = brought.or d.progress := rfl

theorem Disk.updated_eq_self {d : Disk} {brought earlier : Option DiskProgress}
    (h : d.progress = brought.or earlier) : d.updated brought = d := by
  have hprogress : brought.or d.progress = d.progress := by
    rw [h, ← Option.or_assoc, Option.or_self]
  rw [updated, hprogress]

namespace SetStatus

theorem lastProgress_append (i : Nat) (reports later : List SetStatus) :
    lastProgress i (reports ++ later) = (lastProgress i later).or (lastProgress i reports) := by
  simp [lastProgress]

variable {known : SetStatus} {reports : List SetStatus}

theorem length_disks_le_richest {r : SetStatus} (h : r ∈ known :: reports) :
    r.disks.length ≤ (known.richest reports).disks.length :=
  List.le_apply_maxOn_of_mem (f := fun s : SetStatus => s.disks.length) h

variable (known reports)

/-- No report before the richest names as many disks. -/
theorem filter_length_disks :
    (known :: reports).filter (fun r => r.disks.length = (known.richest reports).disks.length) =
      known.richest reports :: known.equals reports := by
  induction reports using List.reverseRecOn with
  | nil => simp [richest, equals, richestPlace]
  | append_singleton reports r ih =>
    rw [← List.cons_append, List.filter_append, richest_concat, equals_concat]
    by_cases hmore : (known.richest reports).disks.length < r.disks.length
    · have hnone : (known :: reports).filter (fun s => s.disks.length = r.disks.length) = [] := by
        rw [List.filter_eq_nil_iff]
        intro s hs
        have hle := length_disks_le_richest hs
        simp only [decide_eq_true_eq]
        omega
      simp [hmore, hnone]
    · by_cases hless : r.disks.length < (known.richest reports).disks.length
      · have hne : r.disks.length ≠ (known.richest reports).disks.length := Nat.ne_of_lt hless
        simp [hless, hne, if_neg hmore, ih]
      · have heq : r.disks.length = (known.richest reports).disks.length := by omega
        simp [heq, ih]

/-- The progress of a disk is the last that was brought for its place by any report of as many
disks. -/
theorem progress_of_absorbAll {i : Nat} {d : Disk}
    (h : (known.absorbAll reports).disks[i]? = some d) :
    d.progress = lastProgress i ((known :: reports).filter fun r =>
      r.disks.length = (known.absorbAll reports).disks.length) := by
  rw [absorbAll, List.getElem?_mapIdx, Option.map_eq_some_iff] at h
  obtain ⟨first, hfirst, rfl⟩ := h
  have hbrought : lastProgress i [known.richest reports] = first.progress := by
    cases hp : first.progress <;> simp [lastProgress, progressAt, hfirst, hp]
  rw [length_disks_absorbAll, filter_length_disks, ← List.singleton_append, lastProgress_append,
    hbrought, Disk.progress_updated]

variable {known reports}

theorem richest_of_length_le (h : ∀ r ∈ reports, r.disks.length ≤ known.disks.length) :
    known.richest reports = known := by
  induction reports using List.reverseRecOn with
  | nil => simp [richest]
  | append_singleton reports r ih =>
    have hrest : known.richest reports = known := ih fun r hr => h r (List.mem_append_left _ hr)
    have hlast : r.disks.length ≤ known.disks.length := h r (by simp)
    rw [richest_concat, hrest, if_neg (Nat.not_lt.mpr hlast)]

/-- A set keeps its disks if no report names more. -/
theorem absorbAll_of_length_le (h : ∀ r ∈ reports, r.disks.length ≤ known.disks.length) :
    known.absorbAll reports =
      { known with
        disks := known.disks.mapIdx fun i d =>
          d.updated (lastProgress i (reports.filter fun r =>
            r.disks.length = known.disks.length)) } := by
  have hfilter := filter_length_disks known reports
  rw [richest_of_length_le h, List.filter_cons_of_pos (by simp)] at hfilter
  rw [absorbAll, richest_of_length_le h, (List.cons.inj hfilter).2]

/-- What a set heard last can be repeated to no effect, wherever it is cut off. -/
theorem absorbAll_of_suffix {again : List SetStatus} (h : again <:+ known :: reports) :
    (known.absorbAll reports).absorbAll again = known.absorbAll reports := by
  have hle : ∀ r ∈ again, r.disks.length ≤ (known.absorbAll reports).disks.length := by
    intro r hr
    rw [length_disks_absorbAll]
    exact length_disks_le_richest (h.mem hr)
  obtain ⟨earlier, hearlier⟩ := h
  have hkeep : ((known.absorbAll reports).disks.mapIdx fun i d =>
      d.updated (lastProgress i (again.filter fun r =>
        r.disks.length = (known.absorbAll reports).disks.length))) =
      (known.absorbAll reports).disks := by
    rw [List.mapIdx_eq_iff]
    intro i
    cases hd : (known.absorbAll reports).disks[i]? with
    | none => rfl
    | some d =>
      have hprogress := progress_of_absorbAll known reports hd
      rw [← hearlier, List.filter_append, lastProgress_append] at hprogress
      rw [Option.map_some, Disk.updated_eq_self hprogress]
  rw [absorbAll_of_length_le hle, hkeep]

end SetStatus

section
variable {sets reports : List SetStatus}

theorem foldl_addSet_of_nodup (h : ((sets ++ reports).map SetStatus.id).Nodup) :
    reports.foldl addSet sets = sets ++ reports := by
  induction reports generalizing sets with
  | nil => simp
  | cons r reports ih =>
    have hr : r.id ∉ sets.map SetStatus.id := by
      rw [List.map_append, List.nodup_append] at h
      exact fun hmem => h.2.2 r.id hmem r.id (by simp) rfl
    rw [List.append_cons] at h ⊢
    rw [List.foldl_cons, addSet_of_not_mem hr, ih h]

theorem foldl_addSet_of_mem (hnd : (sets.map SetStatus.id).Nodup)
    (h : ∀ r ∈ reports, r.id ∈ sets.map SetStatus.id) :
    reports.foldl addSet sets = sets.map fun s => s.absorbAll (reportsOf s.id reports) := by
  induction reports generalizing sets with
  | nil => simp [reportsOf]
  | cons r reports ih =>
    have hr := addSet_eq_map hnd (h r List.mem_cons_self)
    have hids : (addSet sets r).map SetStatus.id = sets.map SetStatus.id := by
      rw [map_id_addSet, if_pos (h r List.mem_cons_self)]
    have hrest := ih (hids ▸ hnd) fun r' hr' => hids ▸ h r' (List.mem_cons_of_mem r hr')
    rw [List.foldl_cons, hrest, hr, List.map_map]
    apply List.map_congr_left
    intro s _
    by_cases hs : s.id = r.id
    · simp [hs, reportsOf_cons_self, SetStatus.absorbAll_cons]
    · simp [hs, reportsOf_cons_of_ne]

theorem mem_ids_foldl_addSet (id : String) :
    id ∈ (reports.foldl addSet sets).map SetStatus.id ↔
      id ∈ sets.map SetStatus.id ∨ id ∈ reports.map SetStatus.id := by
  induction reports generalizing sets with
  | nil => simp
  | cons r reports ih =>
    rw [List.foldl_cons, ih, map_id_addSet]
    split
    · rename_i hr
      have hid : id = r.id → id ∈ sets.map SetStatus.id := fun e => e ▸ hr
      rw [List.map_cons, List.mem_cons]
      tauto
    · simp only [List.mem_append, List.map_cons, List.mem_cons, List.not_mem_nil, or_false,
        or_assoc]

/-- Every set that is known comes from the reports of its id alone. -/
theorem eq_absorbAll_of_mem_foldl_addSet {s : SetStatus} (h : s ∈ reports.foldl addSet []) :
    ∃ first later, reportsOf s.id reports = first :: later ∧ s = first.absorbAll later := by
  rw [foldl_addSet, absorbing, List.mapIdx_nil, List.nil_append, added, List.mem_filterMap] at h
  obtain ⟨id, -, hs⟩ := h
  cases hreports : reportsOf id reports with
  | nil => rw [hreports] at hs; cases hs
  | cons first later =>
    rw [hreports, combined?, Option.some_inj] at hs
    have hfirst : first.id = id := by
      have hmem : first ∈ reportsOf id reports := hreports ▸ List.mem_cons_self
      simpa [reportsOf] using (List.mem_filter.mp hmem).2
    refine ⟨first, later, ?_, hs.symm⟩
    rw [← hs, SetStatus.id_absorbAll, hfirst, hreports]

/-- Sets that were heard last can be repeated to no effect, wherever they are cut off. -/
theorem foldl_addSet_of_suffix {again : List SetStatus} (h : again <:+ reports) :
    again.foldl addSet (reports.foldl addSet []) = reports.foldl addSet [] := by
  have hnil : (([] : List SetStatus).map SetStatus.id).Nodup := List.nodup_nil
  have hnd := nodup_ids_foldl_addSet hnil reports
  have hknown : ∀ r ∈ again, r.id ∈ (reports.foldl addSet []).map SetStatus.id := by
    intro r hr
    rw [mem_ids_foldl_addSet]
    exact .inr (List.mem_map_of_mem (h.mem hr))
  rw [foldl_addSet_of_mem hnd hknown]
  conv_rhs => rw [← List.map_id (reports.foldl addSet [])]
  apply List.map_congr_left
  intro s hs
  obtain ⟨first, later, hreports, hfirst⟩ := eq_absorbAll_of_mem_foldl_addSet hs
  have hsuffix : reportsOf s.id again <:+ first :: later := hreports ▸ h.filter _
  rw [id, hfirst]
  exact SetStatus.absorbAll_of_suffix (hfirst ▸ hsuffix)

end

namespace ClusterStatus

theorem seed_append_reports (s : ClusterStatus) (others : List ClusterStatus) :
    s.seed others ++ s.reports others = s.sets ++ others.flatMap sets := by
  by_cases h : s.sets = []
  · induction others with
    | nil => simp [seed, reports, h]
    | cons o others ih =>
      by_cases ho : o.sets = []
      · simpa [seed, reports, h, ho] using ih
      · simp [seed, reports, h, ho]
  · simp [seed, reports, h]

theorem seed_append_self (s : ClusterStatus) (others : List ClusterStatus) :
    s.seed (others ++ others) = s.seed others := by
  simp [seed, List.find?_append]

/-- If the seed repeats no id, its sets are reports like all others. -/
theorem sets_foldl_contribute_of_nodup {s : ClusterStatus} {others : List ClusterStatus}
    (h : ((s.seed others).map SetStatus.id).Nodup) :
    (others.foldl contribute s).sets = (s.sets ++ others.flatMap sets).foldl addSet [] := by
  have hseed : (s.seed others).foldl addSet [] = s.seed others := foldl_addSet_of_nodup h
  rw [sets_foldl_contribute, ← seed_append_reports, List.foldl_append, hseed]

theorem sets_merge_again {s : ClusterStatus} {others : List ClusterStatus}
    (h : ((s.seed others).map SetStatus.id).Nodup) :
    ((s.merge others).merge others).sets = (s.merge others).sets := by
  have htwice : ((s.seed (others ++ others)).map SetStatus.id).Nodup := by
    rw [seed_append_self]
    exact h
  have hsets : ((others ++ others).foldl contribute s).sets = (others.foldl contribute s).sets := by
    rw [sets_foldl_contribute_of_nodup htwice, List.flatMap_append, ← List.append_assoc,
      List.foldl_append, foldl_addSet_of_suffix (List.suffix_append s.sets _),
      sets_foldl_contribute_of_nodup h]
  rw [← sets_merge_append htwice, sets_merge, hsets, sets_merge]

theorem foldl_addRecentFailures (d : Dict RecentFailures) (others : List ClusterStatus) :
    others.foldl (fun d o => addRecentFailures d o.recentFailures) d =
      (others.flatMap fun o => o.recentFailures.entries).foldl (fun d e => d.insert e.1 e.2) d := by
  rw [List.foldl_flatMap]
  rfl

theorem recentFailures_merge_again (s : ClusterStatus) (others : List ClusterStatus) :
    ((s.merge others).merge others).recentFailures = (s.merge others).recentFailures := by
  simp only [merge_eq, foldl_addRecentFailures, Dict.foldl_insert_again]

theorem parity_merge_again (s : ClusterStatus) (others : List ClusterStatus) :
    ((s.merge others).merge others).parity = (s.merge others).parity := by
  rw [parity_merge, parity_merge]
  cases others with
  | nil => simp
  | cons first rest =>
    by_cases hs : s.parity.isEmpty
    · simp [hs]
    · simp [hs]

/-- Contributors that are merged a second time only add up: their offline nodes and disks are listed
again and their items are counted again. -/
theorem merge_again (s : ClusterStatus) (others : List ClusterStatus)
    (h : ((s.seed others).map SetStatus.id).Nodup) :
    let once := s.merge others
    once.merge others =
      { once with
        offlineNodes := once.offlineNodes ++ others.flatMap offlineNodes
        healDisks := once.healDisks ++ others.flatMap healDisks
        scannedItems :=
          others.foldl (fun n o => Saturating.addSigned n o.scannedItems) once.scannedItems } := by
  intro once
  have hsets : (once.merge others).sets = once.sets := sets_merge_again h
  have hfailures : (once.merge others).recentFailures = once.recentFailures :=
    recentFailures_merge_again s others
  have hparity : (once.merge others).parity = once.parity := parity_merge_again s others
  calc once.merge others
    _ = { offlineNodes := once.offlineNodes ++ others.flatMap offlineNodes
          scannedItems :=
            others.foldl (fun n o => Saturating.addSigned n o.scannedItems) once.scannedItems
          healDisks := once.healDisks ++ others.flatMap healDisks
          sets := (once.merge others).sets
          recentFailures := (once.merge others).recentFailures
          parity := (once.merge others).parity } := by rw [merge_eq]
    _ = _ := by rw [hsets, hfailures, hparity]

/-- The first report is superseded by the second one, and comes again after it. -/
theorem merge_again_superseded :
    let healing : Disk := { (default : Disk) with progress := some default }
    let first := { reporting [setReport "s1" 0 [healing]] .empty with offlineNodes := ["node3"] }
    let second := reporting [setReport "s1" 0 [default, healing]] .empty
    let s := reporting [setReport "s1" 0 [default]] .empty
    let once := s.merge [first, second]
    let twice := once.merge [first, second]
    ((s.seed [first, second]).map SetStatus.id).Nodup ∧
    once.sets = [setReport "s1" 0 [default, healing]] ∧ twice.sets = once.sets ∧
    once.offlineNodes = ["node3"] ∧ twice.offlineNodes = ["node3", "node3"] := by
  intro healing first second s once twice
  have h : ((s.seed [first, second]).map SetStatus.id).Nodup := by decide
  have hfold : ([first, second].foldl contribute s).sets =
      [setReport "s1" 0 [default, healing]] := by decide
  have hsets : once.sets = [setReport "s1" 0 [default, healing]] := by
    rw [sets_merge, hfold, List.mergeSort_singleton]
  have htwice := merge_again s [first, second] h
  have hsame : twice.sets = once.sets := (congrArg sets htwice :)
  have hoffline : twice.offlineNodes = once.offlineNodes ++ ["node3"] :=
    (congrArg offlineNodes htwice :)
  exact ⟨h, hsets, hsame, rfl, hoffline⟩

end ClusterStatus

end HealControl.Cluster
