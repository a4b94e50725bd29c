import Mathlib
import HealControl.Proofs.Cluster.Repetition

/-!
# Contributors in another order

Two orders of the same contributors have different seeds, and different reports are the first of
their sets. What the two runs have in common is what they heard. The ids and the number of disks of
every set come from that alone, and so does its list of disks if one report names more of them than
all others (`SettledBy`). The other fields of a set are those of the report that came first, so the
whole list of sets only is the same if reports of a set differ in nothing but their disks, and if
the last sort leaves no choice (`Unambiguous`).
-/
namespace HealControl.Cluster

def SetStatus.SoleRichest (r : SetStatus) (reports : List SetStatus) : Prop :=
  (reportsOf r.id reports).filter (fun t => r.disks.length ≤ t.disks.length) = [r]

instance (r : SetStatus) (reports : List SetStatus) : Decidable (r.SoleRichest reports) :=
  inferInstanceAs (Decidable (_ = _))

/-- What the sets of a status owe to the reports alone, in whatever order these came. -/
structure SettledBy (reports sets : List SetStatus) : Prop where
  nodup : (sets.map SetStatus.id).Nodup
  mem_ids : ∀ id, id ∈ sets.map SetStatus.id ↔ id ∈ reports.map SetStatus.id
  length_disks : ∀ m ∈ sets,
    IsGreatest {n | ∃ r ∈ reports, r.id = m.id ∧ r.disks.length = n} m.disks.length
  disks : ∀ m ∈ sets, ∀ r : SetStatus, r.SoleRichest reports → r.id = m.id → m.disks = r.disks

/-- Reports that leave nothing to their order. -/
structure Unambiguous (reports : List SetStatus) : Prop where
  sole : ∀ r ∈ reports, ∃ t ∈ reports, t.id = r.id ∧ t.SoleRichest reports
  alike : ∀ r ∈ reports, ∀ t ∈ reports, r.id = t.id → { r with disks := t.disks } = t
  apart : ∀ r ∈ reports, ∀ t ∈ reports, r.samePlace t → r.id = t.id

theorem eq_of_perm_of_length_le_one {α : Type} {l l' : List α} (h : l.Perm l')
    (hl : l.length ≤ 1) : l = l' := by
  cases l with
  | nil => exact h.nil_eq
  | cons a rest =>
    have hrest : rest.length = 0 := by
      rw [List.length_cons] at hl
      omega
    obtain rfl : rest = [] := List.length_eq_zero_iff.mp hrest
    exact h.singleton_eq

theorem reportsOf_perm {reports reports' : List SetStatus} (h : reports.Perm reports')
    (id : String) : (reportsOf id reports).Perm (reportsOf id reports') :=
  h.filter _

theorem mem_reportsOf {id : String} {reports : List SetStatus} {r : SetStatus} :
    r ∈ reportsOf id reports ↔ r ∈ reports ∧ r.id = id := by
  simp [reportsOf]

namespace SetStatus.SoleRichest

variable {r : SetStatus} {reports : List SetStatus}

theorem perm {reports' : List SetStatus} (h : r.SoleRichest reports)
    (hperm : reports.Perm reports') : r.SoleRichest reports' := by
  have hfilter := (reportsOf_perm hperm r.id).filter fun t => r.disks.length ≤ t.disks.length
  rw [SoleRichest] at h ⊢
  rw [h] at hfilter
  exact hfilter.symm.eq_singleton

theorem mem (h : r.SoleRichest reports) : r ∈ reports := by
  have hmem : r ∈ (reportsOf r.id reports).filter fun t => r.disks.length ≤ t.disks.length := by
    rw [h]
    exact List.mem_singleton_self r
  exact (mem_reportsOf.mp (List.mem_filter.mp hmem).1).1

theorem eq_of_length_le {t : SetStatus} (h : r.SoleRichest reports) (ht : t ∈ reports)
    (hid : t.id = r.id) (hle : r.disks.length ≤ t.disks.length) : t = r := by
  have hmem : t ∈ (reportsOf r.id reports).filter fun t => r.disks.length ≤ t.disks.length := by
    rw [List.mem_filter, mem_reportsOf]
    exact ⟨⟨ht, hid⟩, by simpa using hle⟩
  rw [h] at hmem
  exact List.mem_singleton.mp hmem

/-- A set ends with the disks of the sole richest report, wherever that stands among the others. -/
theorem disks_absorbAll {first : SetStatus} {later : List SetStatus} (h : r.SoleRichest reports)
    (hreports : reportsOf r.id reports = first :: later) :
    (first.absorbAll later).disks = r.disks := by
  have hmem : r ∈ first :: later := hreports ▸ mem_reportsOf.mpr ⟨h.mem, rfl⟩
  have hle : r.disks.length ≤ (first.richest later).disks.length := length_disks_le_richest hmem
  have hrichest : first.richest later = r := by
    have hin : first.richest later ∈ first :: later := List.maxOn_mem
    rw [← hreports, mem_reportsOf] at hin
    exact h.eq_of_length_le hin.1 hin.2 hle
  have hequals : first.equals later = [] := by
    have hfilter := filter_length_disks first later
    have hsame : (first :: later).filter (fun t => t.disks.length = r.disks.length) =
        (first :: later).filter fun t => r.disks.length ≤ t.disks.length := by
      apply List.filter_congr
      intro t ht
      have htr := length_disks_le_richest ht
      rw [hrichest] at htr
      rw [decide_eq_decide]
      omega
    rw [hrichest, hsame, ← hreports, h] at hfilter
    exact (List.cons.inj hfilter).2.symm
  simp [absorbAll, hrichest, hequals]

end SetStatus.SoleRichest

theorem SettledBy.perm {reports reports' sets : List SetStatus} (h : SettledBy reports sets)
    (hperm : reports.Perm reports') : SettledBy reports' sets where
  nodup := h.nodup
  mem_ids id := (h.mem_ids id).trans (hperm.map SetStatus.id).mem_iff
  length_disks m hm := by
    simp only [← hperm.mem_iff]
    exact h.length_disks m hm
  disks m hm r hr := h.disks m hm r (hr.perm hperm.symm)

namespace Unambiguous

variable {reports : List SetStatus}

theorem perm {reports' : List SetStatus} (h : Unambiguous reports)
    (hperm : reports.Perm reports') : Unambiguous reports' where
  sole r hr := by
    obtain ⟨t, ht, hid, hsole⟩ := h.sole r (hperm.mem_iff.mpr hr)
    exact ⟨t, hperm.mem_iff.mp ht, hid, hsole.perm hperm⟩
  alike r hr t ht := h.alike r (hperm.mem_iff.mpr hr) t (hperm.mem_iff.mpr ht)
  apart r hr t ht := h.apart r (hperm.mem_iff.mpr hr) t (hperm.mem_iff.mpr ht)

/-- Every set is known as its richest report tells it. -/
theorem mem_iff_soleRichest (h : Unambiguous reports) (m : SetStatus) :
    m ∈ reports.foldl addSet [] ↔ m.SoleRichest reports := by
  have hsole : ∀ m ∈ reports.foldl addSet [], m.SoleRichest reports := by
    intro m hm
    obtain ⟨first, later, hreports, hfirst⟩ := eq_absorbAll_of_mem_foldl_addSet hm
    have hid : first.id = m.id := by rw [hfirst, SetStatus.id_absorbAll]
    have hmem : first ∈ reports := by
      have hin : first ∈ reportsOf m.id reports := hreports ▸ List.mem_cons_self
      exact (mem_reportsOf.mp hin).1
    obtain ⟨t, ht, htid, hrich⟩ := h.sole first hmem
    have hdisks : m.disks = t.disks := by
      rw [hfirst]
      exact hrich.disks_absorbAll (htid.trans hid ▸ hreports)
    have hm : m = { first with disks := t.disks } := by
      rw [← hdisks, hfirst]
      rfl
    rw [h.alike first hmem t ht htid.symm] at hm
    exact hm ▸ hrich
  constructor
  · exact hsole m
  · intro hm
    have hid : m.id ∈ (reports.foldl addSet []).map SetStatus.id := by
      rw [mem_ids_foldl_addSet]
      exact .inr (List.mem_map_of_mem hm.mem)
    obtain ⟨t, ht, htid⟩ := List.mem_map.mp hid
    have hle : t.disks.length ≤ m.disks.length ∨ m.disks.length ≤ t.disks.length :=
      Nat.le_total _ _
    rcases hle with hle | hle
    · rw [(hsole t ht).eq_of_length_le hm.mem htid.symm hle]
      exact ht
    · rw [← hm.eq_of_length_le (hsole t ht).mem htid hle]
      exact ht

end Unambiguous

namespace ClusterStatus

theorem get?_addRecentFailures (known reported : Dict RecentFailures) (endpoint : String) :
    (addRecentFailures known reported).get? endpoint =
      (reported.get? endpoint).or (known.get? endpoint) := by
  rw [addRecentFailures, Dict.get?_foldl_insert, Dict.lookup_reverse_of_nodup reported.nodup]
  rfl

/-- The last contributor that knows of an endpoint is believed. -/
theorem get?_recentFailures_merge (s : ClusterStatus) (others : List ClusterStatus)
    (endpoint : String) :
    (s.merge others).recentFailures.get? endpoint =
      ((others.filterMap fun o => o.recentFailures.get? endpoint).getLast?).or
        (s.recentFailures.get? endpoint) := by
  rw [merge_eq]
  induction others using List.reverseRecOn with
  | nil => rfl
  | append_singleton others o ih =>
    simp only [List.foldl_append, List.foldl_cons, List.foldl_nil, get?_addRecentFailures, ih,
      ← Option.or_assoc, List.filterMap_append]
    cases h : o.recentFailures.get? endpoint <;> simp [h]

theorem toInt_foldl_addSigned {n : Int64} {others : List ClusterStatus} (hn : 0 ≤ n)
    (h : ∀ o ∈ others, 0 ≤ o.scannedItems) :
    (others.foldl (fun n o => Saturating.addSigned n o.scannedItems) n).toInt =
      min Int64.maxValue.toInt (n.toInt + (others.map fun o => o.scannedItems.toInt).sum) := by
  have hmin : Int64.minValue.toInt = -9223372036854775808 := by decide
  have hmax : Int64.maxValue.toInt = 9223372036854775807 := by decide
  have hzero : (0 : Int64).toInt = 0 := by decide
  induction others generalizing n with
  | nil =>
    have hle : n.toInt ≤ Int64.maxValue.toInt := Int64.toInt_le n
    rw [List.foldl_nil, List.map_nil, List.sum_nil, Int.add_zero, min_eq_right hle]
  | cons o others ih =>
    obtain ⟨ho, hrest⟩ := List.forall_mem_cons.mp h
    rw [Int64.le_iff_toInt_le, hzero] at hn ho
    have hsum : 0 ≤ (others.map fun o => o.scannedItems.toInt).sum := by
      apply List.sum_nonneg
      intro i hi
      obtain ⟨p, hp, rfl⟩ := List.mem_map.mp hi
      exact Int64.le_iff_toInt_le.mp (hrest p hp)
    have hnext : 0 ≤ Saturating.addSigned n o.scannedItems := by
      rw [Int64.le_iff_toInt_le, Saturating.toInt_addSigned]
      omega
    rw [List.foldl_cons, ih hnext hrest, Saturating.toInt_addSigned, List.map_cons, List.sum_cons]
    omega

theorem nodup_ids_seed {s : ClusterStatus} {others : List ClusterStatus}
    (hs : (s.sets.map SetStatus.id).Nodup)
    (h : ∀ o ∈ others, (o.sets.map SetStatus.id).Nodup) :
    ((s.seed others).map SetStatus.id).Nodup := by
  unfold seed
  split
  · cases hfirst : others.find? fun o => !o.sets.isEmpty with
    | none => exact List.nodup_nil
    | some o => exact h o (List.mem_of_find?_eq_some hfirst)
  · exact hs

/-- All reports that a merge hears of, those of the status itself first. -/
def heard (s : ClusterStatus) (others : List ClusterStatus) : List SetStatus :=
  s.sets ++ others.flatMap sets

theorem heard_perm (s : ClusterStatus) {xs ys : List ClusterStatus} (h : xs.Perm ys) :
    (s.heard xs).Perm (s.heard ys) :=
  (h.flatMap_right sets).append_left s.sets

section
variable {s : ClusterStatus} {others : List ClusterStatus}

theorem mem_sets_merge_iff (h : ((s.seed others).map SetStatus.id).Nodup) (m : SetStatus) :
    m ∈ (s.merge others).sets ↔ m ∈ (s.heard others).foldl addSet [] := by
  rw [sets_merge, List.mem_mergeSort, sets_foldl_contribute_of_nodup h, heard]

theorem nodup_ids_merge (h : ((s.seed others).map SetStatus.id).Nodup) :
    ((s.merge others).sets.map SetStatus.id).Nodup := by
  rw [sets_merge]
  have hperm := List.mergeSort_perm (others.foldl contribute s).sets SetStatus.placed
  exact (hperm.map SetStatus.id).nodup_iff.mpr (nodup_ids_foldl_contribute h)

theorem settledBy_merge (h : ((s.seed others).map SetStatus.id).Nodup) :
    SettledBy (s.heard others) (s.merge others).sets := by
  have hmem := mem_sets_merge_iff h
  constructor
  · exact nodup_ids_merge h
  · intro id
    have hids : id ∈ ((s.heard others).foldl addSet []).map SetStatus.id ↔
        id ∈ ([] : List SetStatus).map SetStatus.id ∨ id ∈ (s.heard others).map SetStatus.id :=
      mem_ids_foldl_addSet id
    simp only [List.mem_map, hmem] at hids ⊢
    simpa using hids
  · intro m hm
    obtain ⟨first, later, hreports, hfirst⟩ := eq_absorbAll_of_mem_foldl_addSet ((hmem m).mp hm)
    have hlength : m.disks.length = (first.richest later).disks.length := by
      rw [hfirst, SetStatus.length_disks_absorbAll]
    rw [hlength]
    constructor
    · have hin : first.richest later ∈ first :: later := List.maxOn_mem
      rw [← hreports, mem_reportsOf] at hin
      exact ⟨first.richest later, hin.1, hin.2, rfl⟩
    · rintro n ⟨r, hr, hid, rfl⟩
      exact SetStatus.length_disks_le_richest (hreports ▸ mem_reportsOf.mpr ⟨hr, hid⟩)
  · intro m hm r hsole hid
    obtain ⟨first, later, hreports, hfirst⟩ := eq_absorbAll_of_mem_foldl_addSet ((hmem m).mp hm)
    rw [hfirst]
    exact hsole.disks_absorbAll (hid ▸ hreports)

end

theorem ordered_sets_merge (s : ClusterStatus) (others : List ClusterStatus) :
    (s.merge others).sets.Pairwise fun a b => a.placed b := by
  rw [sets_merge]
  exact (stablySorted_mergeSort _).ordered

section
variable {s : ClusterStatus} {xs ys : List ClusterStatus}

theorem get?_recentFailures_merge_perm (h : xs.Perm ys) {endpoint : String}
    (hone : (xs.countP fun x => endpoint ∈ x.recentFailures.keys) ≤ 1) :
    (s.merge xs).recentFailures.get? endpoint = (s.merge ys).recentFailures.get? endpoint := by
  have hperm := h.filterMap fun o => o.recentFailures.get? endpoint
  have hknown : (fun o : ClusterStatus => (o.recentFailures.get? endpoint).isSome) =
      fun o => decide (endpoint ∈ o.recentFailures.keys) := by
    funext o
    rw [Bool.eq_iff_iff, decide_eq_true_iff, Dict.mem_keys_iff, Option.isSome_iff_exists]
  have hsame : (xs.filterMap fun o => o.recentFailures.get? endpoint) =
      ys.filterMap fun o => o.recentFailures.get? endpoint := by
    apply eq_of_perm_of_length_le_one hperm
    rw [List.length_filterMap_eq_countP, hknown]
    exact hone
  rw [get?_recentFailures_merge, get?_recentFailures_merge, hsame]

theorem scannedItems_merge_perm (h : xs.Perm ys) (hs : 0 ≤ s.scannedItems)
    (hxs : ∀ x ∈ xs, 0 ≤ x.scannedItems) :
    (s.merge xs).scannedItems = (s.merge ys).scannedItems := by
  have hys : ∀ y ∈ ys, 0 ≤ y.scannedItems := fun y hy => hxs y (h.mem_iff.mpr hy)
  have hsum := (h.map fun o => o.scannedItems.toInt).sum_eq
  rw [merge_eq, merge_eq, ← Int64.toInt_inj]
  rw [toInt_foldl_addSigned hs hxs, toInt_foldl_addSigned hs hys, hsum]

theorem sets_merge_perm (h : xs.Perm ys) (hxs : ((s.seed xs).map SetStatus.id).Nodup)
    (hys : ((s.seed ys).map SetStatus.id).Nodup) (hclear : Unambiguous (s.heard xs)) :
    (s.merge xs).sets = (s.merge ys).sets := by
  have hheard := heard_perm s h
  have hclear' : Unambiguous (s.heard ys) := hclear.perm hheard
  have hmem : ∀ m, m ∈ (s.merge xs).sets ↔ m ∈ (s.merge ys).sets := by
    intro m
    rw [mem_sets_merge_iff hxs, mem_sets_merge_iff hys, hclear.mem_iff_soleRichest,
      hclear'.mem_iff_soleRichest]
    exact ⟨fun hm => hm.perm hheard, fun hm => hm.perm hheard.symm⟩
  have hperm : (s.merge xs).sets.Perm (s.merge ys).sets :=
    (List.perm_ext_iff_of_nodup (List.Nodup.of_map _ (nodup_ids_merge hxs))
      (List.Nodup.of_map _ (nodup_ids_merge hys))).mpr hmem
  refine hperm.eq_of_pairwise ?_ (ordered_sets_merge s xs) (ordered_sets_merge s ys)
  intro m n hm hn hmn hnm
  -- two sets at one place are the same set
  rw [mem_sets_merge_iff hxs, hclear.mem_iff_soleRichest] at hm
  rw [← hmem, mem_sets_merge_iff hxs, hclear.mem_iff_soleRichest] at hn
  have hplace : m.samePlace n := (SetStatus.samePlace_iff_placed m n).mpr ⟨hmn, hnm⟩
  have hid := hclear.apart m hm.mem n hn.mem hplace
  rcases Nat.le_total m.disks.length n.disks.length with hle | hle
  · exact (hm.eq_of_length_le hn.mem hid.symm hle).symm
  · exact hn.eq_of_length_le hm.mem hid hle

end

/-- The order of contributors leaves alone what the reports settle, the failures of every endpoint
that one contributor at most knows of, and what merely adds up; it does not matter at all to the
sets if the reports are unambiguous. -/
theorem merge_perm (s : ClusterStatus) {xs ys : List ClusterStatus} (h : xs.Perm ys)
    (hs : (s.sets.map SetStatus.id).Nodup) (hxs : ∀ x ∈ xs, (x.sets.map SetStatus.id).Nodup) :
    let a := s.merge xs
    let b := s.merge ys
    (SettledBy (s.heard xs) a.sets ∧ SettledBy (s.heard xs) b.sets) ∧
    (∀ endpoint, (xs.countP fun x => endpoint ∈ x.recentFailures.keys) ≤ 1 →
      a.recentFailures.get? endpoint = b.recentFailures.get? endpoint) ∧
    a.offlineNodes.Perm b.offlineNodes ∧ a.healDisks.Perm b.healDisks ∧
    (0 ≤ s.scannedItems → (∀ x ∈ xs, 0 ≤ x.scannedItems) → a.scannedItems = b.scannedItems) ∧
    (Unambiguous (s.heard xs) → a.sets = b.sets) := by
  intro a b
  have hseed := nodup_ids_seed hs hxs
  have hseed' := nodup_ids_seed hs fun y hy => hxs y (h.mem_iff.mpr hy)
  have hoffline : a.offlineNodes.Perm b.offlineNodes := by
    simpa [a, b, merge_eq] using (h.flatMap_right offlineNodes).append_left s.offlineNodes
  have hdisks : a.healDisks.Perm b.healDisks := by
    simpa [a, b, merge_eq] using (h.flatMap_right healDisks).append_left s.healDisks
  refine ⟨⟨settledBy_merge hseed, ?_⟩, ?_, hoffline, hdisks, ?_, ?_⟩
  · exact (settledBy_merge hseed').perm (heard_perm s h.symm)
  · exact fun _ hone => get?_recentFailures_merge_perm h hone
  · exact scannedItems_merge_perm h
  · exact sets_merge_perm h hseed hseed'

/-- Whichever node is the seed, both know the richer report of `s1` in the end. -/
theorem merge_perm_swapped :
    let first := { reporting [setReport "s2" 1 [default], setReport "s1" 0 [default]] .empty with
      scannedItems := 3, recentFailures := Dict.empty.insert "node1" default }
    let second := { reporting [setReport "s1" 0 [default, default]] .empty with
      scannedItems := 4, offlineNodes := ["node3"] }
    let s : ClusterStatus := default
    let a := s.merge [first, second]
    let b := s.merge [second, first]
    [first, second].Perm [second, first] ∧ (s.sets.map SetStatus.id).Nodup ∧
    (∀ x ∈ [first, second], (x.sets.map SetStatus.id).Nodup) ∧
    Unambiguous (s.heard [first, second]) ∧ a.sets = b.sets ∧
    a.recentFailures.get? "node1" = b.recentFailures.get? "node1" ∧
    a.scannedItems = b.scannedItems ∧
    (∀ m ∈ a.sets, m.id = "s1" → m.disks = [default, default]) := by
  intro first second s a b
  have hperm : [first, second].Perm [second, first] := .swap second first []
  have hs : (s.sets.map SetStatus.id).Nodup := List.nodup_nil
  have hxs : ∀ x ∈ [first, second], (x.sets.map SetStatus.id).Nodup := by decide
  have hclear : Unambiguous (s.heard [first, second]) := by
    constructor <;> decide
  have hone : ([first, second].countP fun x => "node1" ∈ x.recentFailures.keys) ≤ 1 := by decide
  have hcounts : ∀ x ∈ [first, second], 0 ≤ x.scannedItems := by decide
  have hrich : (setReport "s1" 0 [default, default]).SoleRichest (s.heard [first, second]) := by
    decide
  obtain ⟨⟨hsettled, -⟩, hfailures, -, -, hscanned, hsets⟩ := merge_perm s hperm hs hxs
  refine ⟨hperm, hs, hxs, hclear, hsets hclear, hfailures "node1" hone,
    hscanned (Int64.le_refl 0) hcounts, ?_⟩
  intro m hm hid
  exact hsettled.disks m hm (setReport "s1" 0 [default, default]) hrich hid.symm

end ClusterStatus

end HealControl.Cluster
