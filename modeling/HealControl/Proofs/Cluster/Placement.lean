import HealControl.Cluster.Merge

/-!
# Sets in the order of their places

A list of sets is sorted stably if places never decrease along it and the sets of every place stand
in the order in which they were given. There is exactly one such list, and `mergeSort` finds it.
-/
namespace HealControl.Cluster

namespace SetStatus

def samePlace (s t : SetStatus) : Bool :=
  s.poolIndex == t.poolIndex && s.setIndex == t.setIndex

theorem placed_iff (s t : SetStatus) :
    s.placed t ↔ s.poolIndex.toInt < t.poolIndex.toInt ∨
      s.poolIndex.toInt = t.poolIndex.toInt ∧ s.setIndex.toInt ≤ t.setIndex.toInt := by
  simp [placed, Int32.lt_iff_toInt_lt, Int32.le_iff_toInt_le, Int32.toInt_inj]

theorem samePlace_iff (s t : SetStatus) :
    s.samePlace t ↔ s.poolIndex.toInt = t.poolIndex.toInt ∧
      s.setIndex.toInt = t.setIndex.toInt := by
  simp [samePlace, Int32.toInt_inj]

theorem placed_trans (s t u : SetStatus) (hst : s.placed t) (htu : t.placed u) : s.placed u := by
  rw [placed_iff] at *
  omega

theorem placed_total (s t : SetStatus) : s.placed t || t.placed s := by
  rw [Bool.or_eq_true, placed_iff, placed_iff]
  omega

theorem samePlace_iff_placed (s t : SetStatus) : s.samePlace t ↔ s.placed t ∧ t.placed s := by
  rw [samePlace_iff, placed_iff, placed_iff]
  omega

end SetStatus

/-- The given sets in the order of their places, those of one place as they were given. -/
structure StablySorted (given sorted : List SetStatus) : Prop where
  ordered : sorted.Pairwise fun s t => s.placed t
  stable : ∀ place : SetStatus, sorted.filter place.samePlace = given.filter place.samePlace

theorem stablySorted_mergeSort (given : List SetStatus) :
    StablySorted given (given.mergeSort SetStatus.placed) := by
  constructor
  · exact List.pairwise_mergeSort SetStatus.placed_trans SetStatus.placed_total given
  · intro place
    have hpair : (given.filter place.samePlace).Pairwise fun s t => s.placed t := by
      apply List.pairwise_of_forall_mem_list
      intro s hs t ht
      have hps := (SetStatus.samePlace_iff_placed place s).mp (List.mem_filter.mp hs).2
      have hpt := (SetStatus.samePlace_iff_placed place t).mp (List.mem_filter.mp ht).2
      exact SetStatus.placed_trans s place t hps.2 hpt.1
    have hsub := List.sublist_mergeSort SetStatus.placed_trans SetStatus.placed_total hpair
      List.filter_sublist
    have hlen := ((List.mergeSort_perm given SetStatus.placed).filter place.samePlace).length_eq
    have hfilter := hsub.filter place.samePlace
    simp only [List.filter_filter, Bool.and_self] at hfilter
    exact (hfilter.eq_of_length hlen.symm).symm

theorem mem_iff_of_filter_samePlace {l l' : List SetStatus}
    (h : ∀ place : SetStatus, l.filter place.samePlace = l'.filter place.samePlace)
    (s : SetStatus) : s ∈ l ↔ s ∈ l' := by
  have hs : s.samePlace s = true := (SetStatus.samePlace_iff s s).mpr ⟨rfl, rfl⟩
  have hm : s ∈ l.filter s.samePlace ↔ s ∈ l'.filter s.samePlace := by rw [h]
  simpa [hs] using hm

/-- Sorted lists are equal if they have the same sets at every place, in the same order. -/
theorem eq_of_filter_samePlace {l l' : List SetStatus}
    (hl : l.Pairwise fun s t => s.placed t) (hl' : l'.Pairwise fun s t => s.placed t)
    (h : ∀ place : SetStatus, l.filter place.samePlace = l'.filter place.samePlace) : l = l' := by
  induction l generalizing l' with
  | nil =>
    refine (List.eq_nil_iff_forall_not_mem.mpr ?_).symm
    intro s hs
    exact List.not_mem_nil ((mem_iff_of_filter_samePlace h s).mpr hs)
  | cons a l ih =>
    have hmem := mem_iff_of_filter_samePlace h
    cases l' with
    | nil => exact absurd ((hmem a).mp List.mem_cons_self) List.not_mem_nil
    | cons b l' =>
      obtain ⟨ha, htl⟩ := List.pairwise_cons.mp hl
      obtain ⟨hb, htl'⟩ := List.pairwise_cons.mp hl'
      -- both heads are at the first place, and there they are the first
      have hab : a = b := by
        rcases List.mem_cons.mp ((hmem a).mp List.mem_cons_self) with hab | ham
        · exact hab
        · rcases List.mem_cons.mp ((hmem b).mpr List.mem_cons_self) with hba | hbm
          · exact hba.symm
          · have haa : a.samePlace a = true := (SetStatus.samePlace_iff a a).mpr ⟨rfl, rfl⟩
            have hplace := (SetStatus.samePlace_iff_placed a b).mpr ⟨ha b hbm, hb a ham⟩
            have hfirst := h a
            rw [List.filter_cons_of_pos haa, List.filter_cons_of_pos hplace] at hfirst
            exact (List.cons.inj hfirst).1
      subst hab
      have htail : ∀ place : SetStatus, l.filter place.samePlace = l'.filter place.samePlace := by
        intro place
        have hp := h place
        cases hpa : place.samePlace a <;> simpa [List.filter_cons, hpa] using hp
      rw [ih htl htl' htail]

theorem StablySorted.unique {given sorted other : List SetStatus}
    (h : StablySorted given sorted) (h' : StablySorted given other) : sorted = other :=
  eq_of_filter_samePlace h.ordered h'.ordered fun place =>
    (h.stable place).trans (h'.stable place).symm

end HealControl.Cluster
