import HealControl.Proofs.Cluster.Reordering

/-!
# What a merge keeps beside the sets

Lists grow by what each contributor brings, also by what is there already. Of the failures of an
endpoint the last report counts, and of the parity the first one that may be asked for it. The items
are added up in order, and a sum that would leave the range of 64 bits stops at the bound that it
ran past; so the total is exact unless one of the sums on the way is out of range.
-/
namespace HealControl.Saturating

def InRange (n : Int) : Prop :=
  Int64.minValue.toInt ≤ n ∧ n ≤ Int64.maxValue.toInt

theorem inRange_toInt (n : Int64) : InRange n.toInt :=
  ⟨Int64.le_toInt n, Int64.toInt_le n⟩

theorem toInt_addSigned_of_inRange {a b : Int64} (h : InRange (a.toInt + b.toInt)) :
    (addSigned a b).toInt = a.toInt + b.toInt := by
  rw [toInt_addSigned, min_eq_right h.2, max_eq_right h.1]

end HealControl.Saturating

namespace HealControl.Cluster

open HealControl.Saturating

namespace ClusterStatus

def itemsScanned (others : List ClusterStatus) : Int :=
  (others.map fun o => o.scannedItems.toInt).sum

@[simp] theorem itemsScanned_nil : itemsScanned [] = 0 := rfl

@[simp] theorem itemsScanned_cons (o : ClusterStatus) (others : List ClusterStatus) :
    itemsScanned (o :: others) = o.scannedItems.toInt + itemsScanned others :=
  List.sum_cons

theorem toInt_foldl_addSigned_of_inRange {n : Int64} {others : List ClusterStatus}
    (h : ∀ earlier, earlier <+: others → InRange (n.toInt + itemsScanned earlier)) :
    (others.foldl (fun n o => addSigned n o.scannedItems) n).toInt =
      n.toInt + itemsScanned others := by
  induction others generalizing n with
  | nil => simp
  | cons o others ih =>
    have hfirst : InRange (n.toInt + o.scannedItems.toInt) := by
      simpa using h [o] (List.prefix_append [o] others)
    have hadd := toInt_addSigned_of_inRange hfirst
    -- a sum on the way from the next start is one on the way from this start
    have hrest : ∀ earlier, earlier <+: others →
        InRange ((addSigned n o.scannedItems).toInt + itemsScanned earlier) := by
      intro earlier hearlier
      have hboth := h (o :: earlier) ((List.prefix_cons_inj o).mpr hearlier)
      rwa [itemsScanned_cons, ← Int.add_assoc, ← hadd] at hboth
    rw [List.foldl_cons, ih hrest, hadd, itemsScanned_cons, Int.add_assoc]

structure LastReported (s : ClusterStatus) (others : List ClusterStatus)
    (failures : Dict RecentFailures) : Prop where
  endpoints : ∀ endpoint, endpoint ∈ failures.keys ↔
    endpoint ∈ s.recentFailures.keys ∨ ∃ o ∈ others, endpoint ∈ o.recentFailures.keys
  last : ∀ earlier o later endpoint, others = earlier ++ o :: later →
    endpoint ∈ o.recentFailures.keys → (∀ p ∈ later, endpoint ∉ p.recentFailures.keys) →
    failures.get? endpoint = o.recentFailures.get? endpoint
  known : ∀ endpoint, (∀ o ∈ others, endpoint ∉ o.recentFailures.keys) →
    failures.get? endpoint = s.recentFailures.get? endpoint

structure FirstParity (s : ClusterStatus) (others : List ClusterStatus)
    (parity : Dict UInt64) : Prop where
  known : ¬ s.parity.isEmpty → parity = s.parity
  first : s.parity.isEmpty → ∀ o later, others = o :: later → parity = o.parity
  alone : others = [] → parity = s.parity

/-- The items of contributors are added to those of the status, as far as 64 bits go. -/
structure AddsItems (s : ClusterStatus) (others : List ClusterStatus) (items : Int) : Prop where
  inRange : InRange items
  total : (∀ earlier, earlier <+: others → InRange (s.scannedItems.toInt + itemsScanned earlier)) →
    items = s.scannedItems.toInt + itemsScanned others
  capped : 0 ≤ s.scannedItems → (∀ o ∈ others, 0 ≤ o.scannedItems) →
    items = min Int64.maxValue.toInt (s.scannedItems.toInt + itemsScanned others)
  step : ∀ earlier o, others = earlier ++ [o] →
    items = max Int64.minValue.toInt (min Int64.maxValue.toInt
      ((s.merge earlier).scannedItems.toInt + o.scannedItems.toInt))

section
variable (s : ClusterStatus) (others : List ClusterStatus)

theorem get?_recentFailures_merge_eq_none_iff (endpoint : String) :
    (s.merge others).recentFailures.get? endpoint = none ↔
      (∀ o ∈ others, o.recentFailures.get? endpoint = none) ∧
        s.recentFailures.get? endpoint = none := by
  rw [get?_recentFailures_merge, Option.or_eq_none_iff, List.getLast?_eq_none_iff,
    List.filterMap_eq_nil_iff]

theorem lastReported_merge : LastReported s others (s.merge others).recentFailures where
  endpoints endpoint := by
    rw [← not_iff_not, ← Dict.get?_eq_none_iff, get?_recentFailures_merge_eq_none_iff]
    simp only [Dict.get?_eq_none_iff, not_or, not_exists, not_and]
    exact and_comm
  last := by
    rintro earlier o later endpoint rfl ho hlater
    obtain ⟨failures, hfailures⟩ := (Dict.mem_keys_iff _ endpoint).mp ho
    have hnone : (later.filterMap fun p => p.recentFailures.get? endpoint) = [] :=
      List.filterMap_eq_nil_iff.mpr fun p hp => (Dict.get?_eq_none_iff _ _).mpr (hlater p hp)
    rw [get?_recentFailures_merge, List.filterMap_append, List.filterMap_cons, hfailures, hnone,
      List.getLast?_concat, Option.some_or]
  known endpoint h := by
    have hnone : (others.filterMap fun o => o.recentFailures.get? endpoint) = [] :=
      List.filterMap_eq_nil_iff.mpr fun o ho => (Dict.get?_eq_none_iff _ _).mpr (h o ho)
    rw [get?_recentFailures_merge, hnone, List.getLast?_nil, Option.none_or]

theorem firstParity_merge : FirstParity s others (s.merge others).parity where
  known h := by
    rw [parity_merge, if_neg h]
  first := by
    rintro h o later rfl
    rw [parity_merge, if_pos h, List.head?_cons, Option.map_some, Option.getD_some]
  alone := by
    rintro rfl
    rw [parity_merge, List.head?_nil, Option.map_none, Option.getD_none, ite_self]

theorem addsItems_merge : AddsItems s others (s.merge others).scannedItems.toInt where
  inRange := inRange_toInt _
  total h := by
    rw [merge_eq]
    exact toInt_foldl_addSigned_of_inRange h
  capped hs h := by
    rw [merge_eq]
    exact toInt_foldl_addSigned hs h
  step := by
    rintro earlier o rfl
    rw [merge_eq, merge_eq, List.foldl_concat]
    exact toInt_addSigned _ _

end

/-- What a merge makes of everything but the sets. -/
theorem accumulated_merge (s : ClusterStatus) (others : List ClusterStatus) :
    let t := s.merge others
    LastReported s others t.recentFailures ∧
    t.offlineNodes = s.offlineNodes ++ others.flatMap offlineNodes ∧
    t.healDisks = s.healDisks ++ others.flatMap healDisks ∧
    FirstParity s others t.parity ∧ AddsItems s others t.scannedItems.toInt := by
  intro t
  have ht : t = s.merge others := rfl
  refine ⟨lastReported_merge s others, ?_, ?_, firstParity_merge s others,
    addsItems_merge s others⟩
  · rw [ht, merge_eq]
  · rw [ht, merge_eq]

/-- Two nodes report the failures of one endpoint, and the second one is out of bounds. -/
theorem accumulated_merge_late :
    let failures (n : UInt64) : RecentFailures := { (default : RecentFailures) with itemsHealed := n }
    let first := { reporting [] (Dict.empty.insert "STANDARD" 4) with
      offlineNodes := ["node3"], scannedItems := 5
      recentFailures := Dict.empty.insert "node1" (failures 10) }
    let second := { reporting [] (Dict.empty.insert "STANDARD" 2) with
      offlineNodes := ["node3"], scannedItems := Int64.maxValue
      recentFailures := Dict.empty.insert "node1" (failures 20) }
    let s : ClusterStatus := default
    let t := s.merge [first, second]
    t.recentFailures.get? "node1" = some (failures 20) ∧ t.offlineNodes = ["node3", "node3"] ∧
    t.parity = first.parity ∧ (s.merge [first]).scannedItems.toInt = 5 ∧
    t.scannedItems.toInt = Int64.maxValue.toInt := by
  intro failures first second s t
  obtain ⟨hfailures, hoffline, -, hparity, hitems⟩ := accumulated_merge s [first, second]
  obtain ⟨-, -, -, -, hfirst⟩ := accumulated_merge s [first]
  have hcounts : ∀ o ∈ [first, second], 0 ≤ o.scannedItems := by decide
  have hsums : ∀ earlier, earlier <+: [first] →
      InRange (s.scannedItems.toInt + itemsScanned earlier) := by
    intro earlier hearlier
    rcases List.prefix_cons_iff.mp hearlier with rfl | ⟨rest, rfl, hrest⟩
    · exact ⟨by decide, by decide⟩
    · obtain rfl := List.prefix_nil.mp hrest
      exact ⟨by decide, by decide⟩
  refine ⟨?_, hoffline, hparity.first rfl first [second] rfl, hfirst.total hsums, ?_⟩
  · exact hfailures.last [first] second [] "node1" rfl (by decide) (by simp)
  · rw [hitems.capped (Int64.le_refl 0) hcounts]
    decide +kernel

end ClusterStatus

end HealControl.Cluster
