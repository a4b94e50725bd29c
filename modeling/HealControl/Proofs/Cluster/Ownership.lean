import HealControl.Proofs.Cluster.Reordering

/-!
# Progress and the disks it belongs to

The progress of a healing carries the id of its disk. Reports of as many disks are laid over each
other place by place, and nothing compares the disks that meet there. So progress stays with its
disk as long as the richest lists of a set name the same disks in the same places, and
`ownsProgress_merge_iff` says where exactly it goes astray: at a place of which the last progress is
of another disk than the one that the first of these lists names there.
-/
namespace HealControl.Cluster

def Disk.OwnsProgress (d : Disk) : Prop :=
  ∀ p ∈ d.progress, p.id = d.uuid

def SetStatus.OwnsProgress (s : SetStatus) : Prop :=
  ∀ d ∈ s.disks, d.OwnsProgress

def ClusterStatus.OwnsProgress (s : ClusterStatus) : Prop :=
  ∀ set ∈ s.sets, set.OwnsProgress

instance (d : Disk) : Decidable d.OwnsProgress :=
  inferInstanceAs (Decidable (∀ p ∈ d.progress, p.id = d.uuid))

instance (s : SetStatus) : Decidable s.OwnsProgress :=
  inferInstanceAs (Decidable (∀ d ∈ s.disks, d.OwnsProgress))

instance (s : ClusterStatus) : Decidable s.OwnsProgress :=
  inferInstanceAs (Decidable (∀ set ∈ s.sets, set.OwnsProgress))

def heardOf (id : String) (seed reports : List SetStatus) : List SetStatus :=
  (seed.find? fun s => s.id = id).toList ++ reportsOf id reports

/-- The lists that name as many disks as any other. -/
def fullest (lists : List SetStatus) : List SetStatus :=
  lists.filter fun r => ∀ t ∈ lists, t.disks.length ≤ r.disks.length

/-- The last progress of every place is that of the disk which the first list names there. -/
def Matched (lists : List SetStatus) : Prop :=
  ∀ first ∈ lists.head?, ∀ (i : Nat) (d : Disk), first.disks[i]? = some d →
    ∀ p ∈ SetStatus.lastProgress i lists, p.id = d.uuid

/-- Lists of one set and of one length name the same disks in the same places. -/
def Aligned (lists : List SetStatus) : Prop :=
  ∀ r ∈ lists, ∀ t ∈ lists, r.id = t.id → r.disks.length = t.disks.length →
    r.disks.map Disk.uuid = t.disks.map Disk.uuid

instance (lists : List SetStatus) : Decidable (Aligned lists) :=
  inferInstanceAs (Decidable (∀ r ∈ lists, ∀ t ∈ lists, _ → _ → _))

namespace SetStatus

theorem exists_of_lastProgress {i : Nat} {lists : List SetStatus} {p : DiskProgress}
    (h : p ∈ lastProgress i lists) :
    ∃ r ∈ lists, ∃ d, r.disks[i]? = some d ∧ d.progress = some p := by
  have hmem := List.mem_of_getLast? h
  obtain ⟨r, hr, hprogress⟩ := List.mem_filterMap.mp hmem
  obtain ⟨d, hd, hp⟩ := Option.bind_eq_some_iff.mp hprogress
  exact ⟨r, hr, d, hd, hp⟩

theorem fullest_cons (known : SetStatus) (later : List SetStatus) :
    fullest (known :: later) = known.richest later :: known.equals later := by
  rw [← filter_length_disks]
  apply List.filter_congr
  intro r hr
  have hle := length_disks_le_richest hr
  have hrichest : known.richest later ∈ known :: later := List.maxOn_mem
  rw [decide_eq_decide]
  constructor
  · intro h
    exact Nat.le_antisymm hle (h _ hrichest)
  · intro h t ht
    exact h ▸ length_disks_le_richest ht

/-- A disk of a set that has absorbed reports is one of the richest list, with the last progress
that the fullest lists have for its place. -/
theorem getElem?_disks_absorbAll (known : SetStatus) (later : List SetStatus) (i : Nat) :
    (known.absorbAll later).disks[i]? =
      (known.richest later).disks[i]?.map fun d =>
        { d with progress := lastProgress i (fullest (known :: later)) } := by
  rw [absorbAll, List.getElem?_mapIdx]
  cases hd : (known.richest later).disks[i]? with
  | none => rfl
  | some d =>
    have hfirst : lastProgress i [known.richest later] = d.progress := by
      cases hp : d.progress <;> simp [lastProgress, progressAt, hd, hp]
    rw [fullest_cons, ← List.singleton_append, lastProgress_append, hfirst]
    rfl

theorem ownsProgress_absorbAll_iff (known : SetStatus) (later : List SetStatus) :
    (known.absorbAll later).OwnsProgress ↔ Matched (fullest (known :: later)) := by
  have hhead : (fullest (known :: later)).head? = some (known.richest later) := by
    rw [fullest_cons, List.head?_cons]
  constructor
  · intro h first hfirst i d hd p hp
    obtain rfl : known.richest later = first := by
      rw [hhead] at hfirst
      exact Option.some.inj hfirst
    have hplace := getElem?_disks_absorbAll known later i
    rw [hd, Option.map_some] at hplace
    exact h _ (List.mem_of_getElem? hplace) p hp
  · intro h e he p hp
    obtain ⟨i, hi⟩ := List.getElem?_of_mem he
    rw [getElem?_disks_absorbAll] at hi
    obtain ⟨d, hd, rfl⟩ := Option.map_eq_some_iff.mp hi
    exact h _ hhead i d hd p hp

end SetStatus

theorem Aligned.matched {lists all : List SetStatus} (h : Aligned all)
    (howns : ∀ r ∈ all, r.OwnsProgress) (hlists : ∀ r ∈ lists, r ∈ all) {id : String}
    (hid : ∀ r ∈ lists, r.id = id) : Matched (fullest lists) := by
  intro first hfirst i d hd p hp
  obtain ⟨r, hr, e, he, hep⟩ := SetStatus.exists_of_lastProgress hp
  obtain ⟨hr, hrmost⟩ := List.mem_filter.mp hr
  obtain ⟨hf, hfmost⟩ := List.mem_filter.mp (List.mem_of_head? hfirst)
  rw [decide_eq_true_iff] at hrmost hfmost
  have hlength : first.disks.length = r.disks.length :=
    Nat.le_antisymm (hrmost first hf) (hfmost r hr)
  have huuids := h first (hlists first hf) r (hlists r hr) ((hid first hf).trans (hid r hr).symm)
    hlength
  have hplace := congrArg (·[i]?) huuids
  simp only [List.getElem?_map, hd, he, Option.map_some, Option.some.injEq] at hplace
  rw [hplace]
  exact howns r (hlists r hr) e (List.mem_of_getElem? he) p hep

section
variable {seed reports : List SetStatus}

theorem find?_eq_of_not_mem_take {i : Nat} (hi : i < seed.length)
    (h : seed[i].id ∉ (seed.map SetStatus.id).take i) :
    (seed.find? fun s => s.id = seed[i].id) = some seed[i] := by
  rw [List.find?_eq_some_iff_getElem]
  refine ⟨decide_eq_true rfl, i, hi, rfl, ?_⟩
  intro j hj
  have hne : seed[j].id ≠ seed[i].id := by
    intro e
    apply h
    rw [← e, List.mem_take_iff_getElem]
    exact ⟨j, by rw [List.length_map]; omega, List.getElem_map _⟩
  simpa using hne

/-- Every set that is known is one of the seed as it was, or comes from all that was heard of its
id. -/
theorem mem_foldl_addSet_cases {m : SetStatus} (h : m ∈ reports.foldl addSet seed) :
    m ∈ seed ∨ ∃ known later, heardOf m.id seed reports = known :: later ∧
      m = known.absorbAll later := by
  rw [foldl_addSet, List.mem_append] at h
  rcases h with h | h
  · obtain ⟨i, hi, hm⟩ := List.mem_mapIdx.mp h
    split at hm
    · exact .inl (hm ▸ List.getElem_mem hi)
    · rename_i hfirst
      refine .inr ⟨seed[i], reportsOf seed[i].id reports, ?_, hm.symm⟩
      rw [← hm, SetStatus.id_absorbAll, heardOf, find?_eq_of_not_mem_take hi hfirst]
      rfl
  · rw [added, List.mem_filterMap] at h
    obtain ⟨id, hid, hm⟩ := h
    have hnone : (seed.find? fun s => s.id = id) = none :=
      (find?_id_eq_none_iff seed id).mpr (not_mem_of_mem_newIds reports hid)
    cases hreports : reportsOf id reports with
    | nil => rw [hreports] at hm; cases hm
    | cons known later =>
      rw [hreports, combined?, Option.some_inj] at hm
      have hknown : known.id = id := by
        have hin : known ∈ reportsOf id reports := hreports ▸ List.mem_cons_self
        exact (mem_reportsOf.mp hin).2
      refine .inr ⟨known, later, ?_, hm.symm⟩
      rw [← hm, SetStatus.id_absorbAll, hknown, heardOf, hnone, hreports]
      rfl

theorem absorbAll_mem_foldl_addSet {id : String} {known : SetStatus} {later : List SetStatus}
    (h : heardOf id seed reports = known :: later) :
    known.absorbAll later ∈ reports.foldl addSet seed := by
  rw [foldl_addSet, List.mem_append]
  cases hfind : seed.find? fun s => s.id = id with
  | some s =>
    left
    rw [heardOf, hfind, Option.toList_some, List.singleton_append] at h
    obtain ⟨rfl, rfl⟩ := List.cons.inj h
    obtain ⟨hid, i, hi, hs, hbefore⟩ := List.find?_eq_some_iff_getElem.mp hfind
    rw [decide_eq_true_iff] at hid
    refine List.mem_mapIdx.mpr ⟨i, hi, ?_⟩
    have hfirst : seed[i].id ∉ (seed.map SetStatus.id).take i := by
      intro hmem
      obtain ⟨j, hj, hsame⟩ := List.mem_take_iff_getElem.mp hmem
      rw [List.getElem_map, hs, hid] at hsame
      have hnot := hbefore j (by omega)
      simp [hsame] at hnot
    rw [if_neg hfirst, hs, hid]
  | none =>
    right
    rw [heardOf, hfind, Option.toList_none, List.nil_append] at h
    have hknown : known ∈ reportsOf id reports := h ▸ List.mem_cons_self
    obtain ⟨hmem, hid⟩ := mem_reportsOf.mp hknown
    refine List.mem_filterMap.mpr ⟨id, ?_, by rw [h]; rfl⟩
    rw [newIds, List.mem_eraseDups, List.mem_filter, decide_eq_true_iff]
    exact ⟨hid ▸ List.mem_map_of_mem hmem, (find?_id_eq_none_iff seed id).mp hfind⟩

/-- Lists of disks that own their progress are combined to such lists exactly if what is heard of
every set is matched. -/
theorem ownsProgress_foldl_addSet_iff (h : ∀ r ∈ seed, r.OwnsProgress) :
    (∀ m ∈ reports.foldl addSet seed, m.OwnsProgress) ↔
      ∀ id, Matched (fullest (heardOf id seed reports)) := by
  constructor
  · intro howns id
    cases hheard : heardOf id seed reports with
    | nil => exact fun _ hfirst => nomatch hfirst
    | cons known later =>
      rw [← SetStatus.ownsProgress_absorbAll_iff]
      exact howns _ (absorbAll_mem_foldl_addSet hheard)
  · intro hmatched m hm
    rcases mem_foldl_addSet_cases hm with hseed | ⟨known, later, hheard, hknown⟩
    · exact h m hseed
    · have hid := hmatched m.id
      rw [hheard] at hid
      exact hknown ▸ (SetStatus.ownsProgress_absorbAll_iff known later).mpr hid

theorem mem_of_mem_heardOf {id : String} {r : SetStatus} (h : r ∈ heardOf id seed reports) :
    r ∈ seed ++ reports ∧ r.id = id := by
  rw [heardOf, List.mem_append, Option.mem_toList] at h
  rcases h with hseed | hreport
  · have hid := List.find?_some hseed
    exact ⟨List.mem_append_left _ (List.mem_of_find?_eq_some hseed), by simpa using hid⟩
  · obtain ⟨hr, hid⟩ := mem_reportsOf.mp hreport
    exact ⟨List.mem_append_right _ hr, hid⟩

end

namespace ClusterStatus

variable {s : ClusterStatus} {others : List ClusterStatus}

theorem ownsProgress_of_mem_heard (hs : s.OwnsProgress) (h : ∀ o ∈ others, o.OwnsProgress) :
    ∀ r ∈ s.heard others, r.OwnsProgress := by
  intro r hr
  rcases List.mem_append.mp hr with hlocal | hother
  · exact hs r hlocal
  · obtain ⟨o, ho, hro⟩ := List.mem_flatMap.mp hother
    exact h o ho r hro

/-- Where every disk owns its progress at first, every disk still does after a merge exactly if the
fullest lists that were heard of each set are matched. They are if no two reports disagree on which
disk is where. -/
theorem ownsProgress_merge_iff (hs : s.OwnsProgress) (h : ∀ o ∈ others, o.OwnsProgress) :
    ((s.merge others).OwnsProgress ↔
      ∀ id, Matched (fullest (heardOf id (s.seed others) (s.reports others)))) ∧
    (Aligned (s.heard others) → (s.merge others).OwnsProgress) := by
  have howns := ownsProgress_of_mem_heard hs h
  have hheard : s.seed others ++ s.reports others = s.heard others := seed_append_reports s others
  have hseed : ∀ r ∈ s.seed others, r.OwnsProgress := fun r hr =>
    howns r (hheard ▸ List.mem_append_left _ hr)
  have hiff : (s.merge others).OwnsProgress ↔
      ∀ id, Matched (fullest (heardOf id (s.seed others) (s.reports others))) := by
    rw [← ownsProgress_foldl_addSet_iff hseed, ← sets_foldl_contribute, OwnsProgress, sets_merge]
    simp only [List.mem_mergeSort]
  refine ⟨hiff, fun haligned => hiff.mpr fun id => ?_⟩
  refine haligned.matched howns ?_ fun r hr => (mem_of_mem_heardOf hr).2
  exact fun r hr => hheard ▸ (mem_of_mem_heardOf hr).1

def ownDisk (uuid : String) (healing : Bool) : Disk :=
  { (default : Disk) with
    uuid := uuid
    progress := if healing then some { (default : DiskProgress) with id := uuid } else none }

/-- A node that lists the disks in the same order. -/
theorem ownsProgress_merge_same_order :
    let s := reporting [setReport "s1" 0 [ownDisk "u1" false, ownDisk "u2" false]] .empty
    let other := reporting [setReport "s1" 0 [ownDisk "u1" false, ownDisk "u2" true]] .empty
    s.OwnsProgress ∧ (∀ o ∈ [other], o.OwnsProgress) ∧ Aligned (s.heard [other]) ∧
    (s.merge [other]).OwnsProgress := by
  intro s other
  have hs : s.OwnsProgress := by decide
  have h : ∀ o ∈ [other], o.OwnsProgress := by decide
  have haligned : Aligned (s.heard [other]) := by decide
  exact ⟨hs, h, haligned, (ownsProgress_merge_iff hs h).2 haligned⟩

/-- A node that lists the disks in another order. -/
theorem not_ownsProgress_merge_other_order :
    let s := reporting [setReport "s1" 0 [ownDisk "u1" false, ownDisk "u2" false]] .empty
    let other := reporting [setReport "s1" 0 [ownDisk "u2" true, ownDisk "u1" false]] .empty
    s.OwnsProgress ∧ (∀ o ∈ [other], o.OwnsProgress) ∧ ¬ (s.merge [other]).OwnsProgress := by
  intro s other
  have hfold : ([other].foldl contribute s).sets =
      [setReport "s1" 0 [{ ownDisk "u2" true with uuid := "u1" }, ownDisk "u2" false]] := by decide
  have hsets : (s.merge [other]).sets =
      [setReport "s1" 0 [{ ownDisk "u2" true with uuid := "u1" }, ownDisk "u2" false]] := by
    rw [sets_merge, hfold, List.mergeSort_singleton]
  refine ⟨by decide, by decide, ?_⟩
  rw [OwnsProgress, hsets]
  decide

end ClusterStatus

end HealControl.Cluster
