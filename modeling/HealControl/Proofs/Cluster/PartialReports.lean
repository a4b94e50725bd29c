import HealControl.Proofs.Cluster.Repetition
import HealControl.Proofs.Text.Trimming
import Mathlib.Data.List.ReduceOption

/-!
# Partial reports

A merge tells of a report that names fewer disks than are known of its set, and leaves it out. What
is known changes within the merge, as richer reports replace the disks, but a set never has more or
fewer disks than the richest of what was heard of it (`mostDisks?_of_mem`). So whether a report is
told of depends on the reports before it and on nothing else: `partialReports_eq_shortfalls` has no
known sets in it.
-/
namespace HealControl.Cluster

open HealControl.Decimal (isDigit digits natText isDigit_of_mem_digits ofDigits_digits)
open HealControl.Text (dropEndWhile dropEndWhile_append_of_all dropEndWhile_eq_self_iff)

def mostDisks? (id : String) (heard : List SetStatus) : Option Nat :=
  ((reportsOf id heard).map fun r => r.disks.length).max?

/-- What is to be told of a report after all that was heard: it falls short of an earlier report of
its set that names more disks. -/
def shortfall? (heard : List SetStatus) (r : SetStatus) : Option PartialReport :=
  (mostDisks? r.id heard).bind fun most =>
    if r.disks.length < most then some ⟨r.id, most, r.disks.length⟩ else none

/-! ## What the log is told -/

/-- A number at the end of a text can be read off if no digit stands before it. -/
theorem eq_of_append_digits {before before' mark : List Char} {m n : Nat}
    (hmark : ∃ c ∈ mark.getLast?, isDigit c = false)
    (h : before ++ mark ++ digits m = before' ++ mark ++ digits n) : before = before' ∧ m = n := by
  obtain ⟨c, hlast, hc⟩ := hmark
  have hdrop : ∀ (front : List Char) (k : Nat),
      dropEndWhile isDigit (front ++ mark ++ digits k) = front ++ mark := by
    intro front k
    rw [dropEndWhile_append_of_all (fun _ => isDigit_of_mem_digits), dropEndWhile_eq_self_iff,
      List.getLast?_append, hlast, Option.some_or]
    rintro d ⟨⟩
    exact hc
  have hfront : before ++ mark = before' ++ mark := by
    rw [← hdrop before m, h, hdrop]
  rw [hfront] at h
  refine ⟨List.append_cancel_right hfront, ?_⟩
  rw [← ofDigits_digits m, List.append_cancel_left h, ofDigits_digits]

/-- No two partial reports are told alike. -/
theorem PartialReport.record_injective : Function.Injective PartialReport.record := by
  rintro ⟨id, known, reported⟩ ⟨id', known', reported'⟩ h
  have htext := congrArg (fun record => record.message.toList) h
  simp only [record, natText, String.toList_append, String.toList_ofList] at htext
  -- the numbers are read off from the end, the id is what is left
  obtain ⟨hknown, rfl⟩ := eq_of_append_digits ⟨' ', by decide, by decide⟩
    (List.append_cancel_right htext)
  obtain ⟨hid, rfl⟩ := eq_of_append_digits ⟨' ', by decide, by decide⟩ hknown
  obtain rfl : id = id' := String.toList_inj.mp (List.append_cancel_left hid)
  rfl

/-! ## The known number of disks -/

section
variable {heard sets : List SetStatus} {known r : SetStatus}

theorem SetStatus.max?_absorbAll (first : SetStatus) (later : List SetStatus) :
    ((first :: later).map fun r => r.disks.length).max? =
      some (first.absorbAll later).disks.length := by
  rw [length_disks_absorbAll, List.max?_eq_some_iff]
  have hrichest : first.richest later ∈ first :: later := List.maxOn_mem
  refine ⟨List.mem_map_of_mem hrichest, ?_⟩
  intro n hn
  obtain ⟨r, hr, rfl⟩ := List.mem_map.mp hn
  exact length_disks_le_richest hr

/-- A known set has as many disks as any report of it named. -/
theorem mostDisks?_of_mem (h : known ∈ heard.foldl addSet []) :
    mostDisks? known.id heard = some known.disks.length := by
  obtain ⟨first, later, hreports, hknown⟩ := eq_absorbAll_of_mem_foldl_addSet h
  have hmost := first.max?_absorbAll later
  rw [← hknown, ← hreports] at hmost
  exact hmost

theorem mostDisks?_of_not_mem {id : String}
    (h : id ∉ (heard.foldl addSet []).map SetStatus.id) : mostDisks? id heard = none := by
  rw [mem_ids_foldl_addSet, not_or] at h
  have hnone : reportsOf id heard = [] := by
    rw [reportsOf, List.filter_eq_nil_iff]
    intro r hr hid
    exact h.2 (of_decide_eq_true hid ▸ List.mem_map_of_mem hr)
  rw [mostDisks?, hnone]
  rfl

theorem partialReport?_eq_shortfall? (heard : List SetStatus) (r : SetStatus) :
    partialReport? (heard.foldl addSet []) r = shortfall? heard r := by
  cases hfind : (heard.foldl addSet []).find? fun s => s.id = r.id with
  | some known =>
    have hid : known.id = r.id := by simpa using List.find?_some hfind
    have hmost := mostDisks?_of_mem (List.mem_of_find?_eq_some hfind)
    rw [hid] at hmost
    rw [partialReport?, hfind, shortfall?, hmost]
    rfl
  | none =>
    have hnew := (find?_id_eq_none_iff _ r.id).mp hfind
    rw [partialReport?, hfind, shortfall?, mostDisks?_of_not_mem hnew]
    rfl

theorem addSet_of_partialReport? (h : (partialReport? sets r).isSome) : addSet sets r = sets := by
  induction sets with
  | nil => cases h
  | cons s rest ih =>
    by_cases hs : s.id = r.id
    · have hfew : r.disks.length < s.disks.length := by
        simpa [partialReport?, hs, SetStatus.partialReport?, Option.isSome_iff_exists] using h
      rw [addSet, if_pos hs, SetStatus.absorb, if_neg (Nat.lt_asymm hfew), if_pos hfew]
    · have hrest : (partialReport? rest r).isSome := by
        simpa [partialReport?, hs] using h
      rw [addSet, if_neg hs, ih hrest]

/-- A report that falls short changes nothing. -/
theorem addSet_of_shortfall? (h : (shortfall? heard r).isSome) :
    addSet (heard.foldl addSet []) r = heard.foldl addSet [] := by
  rw [← partialReport?_eq_shortfall?] at h
  exact addSet_of_partialReport? h

end

/-! ## One report after the other -/

theorem partialReports_append (sets first later : List SetStatus) :
    partialReports sets (first ++ later) =
      partialReports sets first ++ partialReports (first.foldl addSet sets) later := by
  induction first generalizing sets with
  | nil => rfl
  | cons r first ih =>
    rw [List.cons_append, partialReports, ih, partialReports, List.append_assoc, List.foldl_cons]

theorem partialReports_heard (heard reports : List SetStatus) :
    partialReports (heard.foldl addSet []) reports =
      (reports.mapIdx fun i r => shortfall? (heard ++ reports.take i) r).reduceOption := by
  induction reports generalizing heard with
  | nil => rfl
  | cons r reports ih =>
    -- the report has been heard before all that come after it
    have hrest := ih (heard ++ [r])
    rw [List.foldl_append, List.foldl_cons, List.foldl_nil] at hrest
    calc partialReports (heard.foldl addSet []) (r :: reports)
      _ = [shortfall? heard r].reduceOption ++
          (reports.mapIdx fun i t => shortfall? (heard ++ [r] ++ reports.take i) t).reduceOption := by
        rw [partialReports, partialReport?_eq_shortfall?, hrest, List.reduceOption_singleton]
      _ = ((r :: reports).mapIdx fun i t =>
          shortfall? (heard ++ (r :: reports).take i) t).reduceOption := by
        rw [← List.reduceOption_append, List.mapIdx_cons]
        simp

namespace ClusterStatus

theorem partialReports_of_ne_nil (s : ClusterStatus) (others : List ClusterStatus)
    (h : s.sets ≠ []) :
    s.partialReports others = Cluster.partialReports s.sets (others.flatMap sets) := by
  induction others generalizing s with
  | nil => rfl
  | cons o others ih =>
    rw [partialReports, ih _ (sets_contribute_ne_nil h o), sets_contribute_of_ne_nil h,
      List.flatMap_cons, partialReports_append, contributedPartials, if_neg (by simpa using h)]

theorem partialReports_eq (s : ClusterStatus) (others : List ClusterStatus) :
    s.partialReports others = Cluster.partialReports (s.seed others) (s.reports others) := by
  by_cases h : s.sets = []
  · induction others generalizing s with
    | nil => simp [reports, h, partialReports, Cluster.partialReports]
    | cons o others ih =>
      have hsets := sets_contribute_of_nil h o
      have hnone : contributedPartials s.sets o.sets = [] := by simp [contributedPartials, h]
      rw [partialReports, hnone, List.nil_append]
      by_cases ho : o.sets = []
      · rw [ih _ (hsets.trans ho)]
        simp [seed, reports, h, hsets, ho]
      · have hne : (s.contribute o).sets ≠ [] := fun e => ho (hsets.symm.trans e)
        rw [partialReports_of_ne_nil _ _ hne]
        simp [seed, reports, h, hsets, ho]
  · rw [partialReports_of_ne_nil s others h]
    simp [seed, reports, h]

/-- A merge tells of the reports that fall short of what was heard before them, in order, and of
nothing else. Each of them has a record of its own at the debug level, leaves the known sets as they
are, and could be missing to no effect. -/
theorem partialReports_eq_shortfalls (s : ClusterStatus) (others : List ClusterStatus)
    (h : ((s.seed others).map SetStatus.id).Nodup) :
    let seed := s.seed others
    let reports := s.reports others
    (s.partialReports others =
      (reports.mapIdx fun i r => shortfall? (seed ++ reports.take i) r).reduceOption ∧
    (∀ p ∈ s.partialReports others, p.record.level = .debug) ∧
    Function.Injective PartialReport.record) ∧
    ∀ earlier r later, reports = earlier ++ r :: later → (shortfall? (seed ++ earlier) r).isSome →
      addSet (earlier.foldl addSet seed) r = earlier.foldl addSet seed ∧
      (s.merge others).sets =
        ((earlier ++ later).foldl addSet seed).mergeSort SetStatus.placed := by
  intro seed reports
  have hseed : seed.foldl addSet [] = seed := foldl_addSet_of_nodup h
  refine ⟨⟨?_, fun _ _ => rfl, PartialReport.record_injective⟩, ?_⟩
  · have hheard := partialReports_heard seed reports
    rw [hseed] at hheard
    exact (partialReports_eq s others).trans hheard
  · intro earlier r later hreports hshort
    have hkept := addSet_of_shortfall? hshort
    rw [List.foldl_append, hseed] at hkept
    refine ⟨hkept, ?_⟩
    have hsets : (others.foldl contribute s).sets = reports.foldl addSet seed :=
      sets_foldl_contribute s others
    rw [sets_merge, hsets, hreports, List.foldl_append, List.foldl_cons, hkept, List.foldl_append]

/-- The second node replaces the disks of `s1` and brings `s2`; after that the third one falls short
of both, also with as many disks as the seed has. -/
theorem partialReports_outgrown :
    let first := reporting [setReport "s1" 0 [default, default]] .empty
    let second := reporting
      [setReport "s1" 0 [default, default, default], setReport "s2" 1 [default, default]] .empty
    let third := reporting [setReport "s1" 0 [default, default], setReport "s2" 1 [default],
      setReport "s1" 0 [default, default, default]] .empty
    let s : ClusterStatus := default
    ((s.seed [first, second, third]).map SetStatus.id).Nodup ∧
    (s.partialReports [first, second, third]).map PartialReport.record =
      [⟨.debug, "ignoring partial report of set s1: 3 disks known, 2 reported"⟩,
        ⟨.debug, "ignoring partial report of set s2: 2 disks known, 1 reported"⟩] ∧
    (s.merge [first, second, third]).sets = second.sets.mergeSort SetStatus.placed := by
  intro first second third s
  have h : ((s.seed [first, second, third]).map SetStatus.id).Nodup := by decide
  obtain ⟨⟨htold, -⟩, hkept⟩ := partialReports_eq_shortfalls s [first, second, third] h
  refine ⟨h, ?_, ?_⟩
  · rw [htold]
    decide
  · let rest := [setReport "s2" 1 [default], setReport "s1" 0 [default, default, default]]
    have hfold : (second.sets ++ rest).foldl addSet first.sets = second.sets := by decide
    obtain ⟨-, hsets⟩ := hkept second.sets (setReport "s1" 0 [default, default]) rest rfl (by decide)
    exact hsets.trans (congrArg (List.mergeSort · SetStatus.placed) hfold)

end ClusterStatus

end HealControl.Cluster
