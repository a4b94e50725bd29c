import HealControl.Cluster.Progress
import Mathlib.Data.List.Chain

/-!
# Progress along a healing

While one healing runs, none of the counters of a disk ever decreases, and neither do their sums,
which stop at the greatest number that fits. So what has progressed once has progressed for good: a
snapshot that is no older and an earlier one that is no newer are told apart as well. A sum that has
not stopped yet hides nothing; from there on the sums tell exactly whether one of the counters has
grown.
-/
namespace HealControl.Cluster.DiskProgress

open HealControl.Time (Timestamp)

/-- A snapshot taken no earlier in the same healing: it was updated no earlier, and none of its
counters is smaller. -/
structure Follows (earlier later : DiskProgress) : Prop where
  lastUpdate : later.lastUpdate.before earlier.lastUpdate = false
  itemsHealed : earlier.itemsHealed ≤ later.itemsHealed
  itemsFailed : earlier.itemsFailed ≤ later.itemsFailed
  bytesDone : earlier.bytesDone ≤ later.bytesDone
  bytesFailed : earlier.bytesFailed ≤ later.bytesFailed
  healedBuckets : earlier.healedBuckets.length ≤ later.healedBuckets.length

def CounterGrew (earlier later : DiskProgress) : Prop :=
  earlier.itemsHealed < later.itemsHealed ∨ earlier.itemsFailed < later.itemsFailed ∨
    earlier.bytesDone < later.bytesDone ∨ earlier.bytesFailed < later.bytesFailed ∨
    earlier.healedBuckets.length < later.healedBuckets.length

/-- Neither sum has stopped at the greatest number. -/
structure Countable (d : DiskProgress) : Prop where
  items : d.itemsHealed.toNat + d.itemsFailed.toNat < UInt64.size - 1
  bytes : d.bytesDone.toNat + d.bytesFailed.toNat < UInt64.size - 1

/-- What progress comes to along the snapshots of one healing, in the order in which they were
taken. -/
structure TellsProgress (run : List DiskProgress) : Prop where
  lasting : ∀ before prev next after, run = before ++ prev :: next :: after →
    next.hasProgressedSince prev = true →
    ∀ earlier ∈ before ++ [prev], ∀ later ∈ next :: after, later.hasProgressedSince earlier = true
  trans : ∀ d ∈ run, ∀ e ∈ run, ∀ f ∈ run, e.hasProgressedSince d = true →
    f.hasProgressedSince e = true → f.hasProgressedSince d = true
  exact : ∀ before prev after, run = before ++ prev :: after → prev.Countable →
    ∀ later ∈ after, later.hasProgressedSince prev = true ↔
      prev.lastUpdate.before later.lastUpdate = true ∧ CounterGrew prev later

section
variable {d e f d' e' : DiskProgress}

/-! ## The sums -/

theorem toNat_items (d : DiskProgress) :
    d.items.toNat = min (d.itemsHealed.toNat + d.itemsFailed.toNat) (UInt64.size - 1) :=
  Saturating.toNat_addUnsigned d.itemsHealed d.itemsFailed

theorem toNat_bytes (d : DiskProgress) :
    d.bytes.toNat = min (d.bytesDone.toNat + d.bytesFailed.toNat) (UInt64.size - 1) :=
  Saturating.toNat_addUnsigned d.bytesDone d.bytesFailed

theorem addUnsigned_mono {a b c d : UInt64} (h : a ≤ c) (h' : b ≤ d) :
    Saturating.addUnsigned a b ≤ Saturating.addUnsigned c d := by
  rw [UInt64.le_iff_toNat_le] at h h' ⊢
  rw [Saturating.toNat_addUnsigned, Saturating.toNat_addUnsigned]
  omega

/-- A sum below the bound grows exactly if one of its terms does. -/
theorem addUnsigned_lt_iff {a b c d : UInt64} (h : a ≤ c) (h' : b ≤ d)
    (hroom : a.toNat + b.toNat < UInt64.size - 1) :
    Saturating.addUnsigned a b < Saturating.addUnsigned c d ↔ a < c ∨ b < d := by
  rw [UInt64.le_iff_toNat_le] at h h'
  simp only [UInt64.lt_iff_toNat_lt, Saturating.toNat_addUnsigned]
  omega

/-! ## Progress as an order -/

theorem hasProgressedSince_iff : d.hasProgressedSince e = true ↔
    e.lastUpdate.before d.lastUpdate = true ∧ (e.items < d.items ∨ e.bytes < d.bytes ∨
      e.healedBuckets.length < d.healedBuckets.length) := by
  simp [hasProgressedSince, or_assoc]

theorem not_hasProgressedSince_of_not_before (h : e.lastUpdate.before d.lastUpdate = false) :
    d.hasProgressedSince e = false := by
  rw [hasProgressedSince, h, Bool.false_and]

theorem hasProgressedSince_self (d : DiskProgress) : d.hasProgressedSince d = false :=
  not_hasProgressedSince_of_not_before (Timestamp.before_irrefl _)

theorem hasProgressedSince_asymm (h : d.hasProgressedSince e = true) :
    e.hasProgressedSince d = false := by
  have hlater := (hasProgressedSince_iff.mp h).1
  exact not_hasProgressedSince_of_not_before (Timestamp.not_before_of_before hlater)

theorem Follows.refl (d : DiskProgress) : Follows d d where
  lastUpdate := Timestamp.before_irrefl _
  itemsHealed := Std.le_refl _
  itemsFailed := Std.le_refl _
  bytesDone := Std.le_refl _
  bytesFailed := Std.le_refl _
  healedBuckets := Nat.le_refl _

theorem Follows.trans (h : Follows d e) (h' : Follows e f) : Follows d f where
  lastUpdate := Timestamp.not_before_trans h.lastUpdate h'.lastUpdate
  itemsHealed := Std.le_trans h.itemsHealed h'.itemsHealed
  itemsFailed := Std.le_trans h.itemsFailed h'.itemsFailed
  bytesDone := Std.le_trans h.bytesDone h'.bytesDone
  bytesFailed := Std.le_trans h.bytesFailed h'.bytesFailed
  healedBuckets := Nat.le_trans h.healedBuckets h'.healedBuckets

instance : Trans Follows Follows Follows := ⟨Follows.trans⟩

theorem Follows.items_le (h : Follows d e) : d.items ≤ e.items :=
  addUnsigned_mono h.itemsHealed h.itemsFailed

theorem Follows.bytes_le (h : Follows d e) : d.bytes ≤ e.bytes :=
  addUnsigned_mono h.bytesDone h.bytesFailed

/-- Progress since a snapshot is progress since any that it follows, and shows in any that
follow. -/
theorem hasProgressedSince_mono (hearlier : Follows d d') (hlater : Follows e' e)
    (h : e'.hasProgressedSince d' = true) : e.hasProgressedSince d = true := by
  obtain ⟨hupdate, hgrew⟩ := hasProgressedSince_iff.mp h
  refine hasProgressedSince_iff.mpr
    ⟨Timestamp.before_mono hearlier.lastUpdate hlater.lastUpdate hupdate, ?_⟩
  rcases hgrew with hitems | hbytes | hbuckets
  · exact .inl (Std.lt_of_lt_of_le (Std.lt_of_le_of_lt hearlier.items_le hitems) hlater.items_le)
  · exact .inr (.inl
      (Std.lt_of_lt_of_le (Std.lt_of_le_of_lt hearlier.bytes_le hbytes) hlater.bytes_le))
  · have hd' := hearlier.healedBuckets
    have he' := hlater.healedBuckets
    exact .inr (.inr (by omega))

/-- Where the sums have not stopped they hide no growth. -/
theorem hasProgressedSince_iff_counterGrew (h : Follows e d) (hcount : e.Countable) :
    d.hasProgressedSince e = true ↔
      e.lastUpdate.before d.lastUpdate = true ∧ CounterGrew e d := by
  have hitems := addUnsigned_lt_iff h.itemsHealed h.itemsFailed hcount.items
  have hbytes := addUnsigned_lt_iff h.bytesDone h.bytesFailed hcount.bytes
  rw [hasProgressedSince_iff, items, items, hitems, bytes, bytes, hbytes, CounterGrew, or_assoc,
    or_assoc]

end

/-! ## Runs of snapshots -/

section
variable {run : List DiskProgress}

/-- Of two snapshots of a run, the one that has progressed since the other follows it. -/
theorem follows_of_hasProgressedSince (hrun : run.Pairwise Follows) {d e : DiskProgress}
    (hd : d ∈ run) (he : e ∈ run) (h : e.hasProgressedSince d = true) : Follows d e := by
  have hor : run.Pairwise fun x y => Follows x y ∨ Follows y x := hrun.imp .inl
  have hswapped : run.Pairwise fun x y => Follows y x ∨ Follows x y := hrun.imp .inr
  rcases hor.forall_of_forall_of_flip (fun x _ => .inl (Follows.refl x)) hswapped hd he with
    hfollows | hfollows
  · exact hfollows
  -- The one that follows was updated no earlier, which progress of the other one rules out.
  · rw [hasProgressedSince_iff, hfollows.lastUpdate] at h
    exact absurd h.1 Bool.false_ne_true

theorem tellsProgress_of_isChain (h : run.IsChain Follows) : TellsProgress run where
  lasting before prev next after hsplit hnext earlier hearlier later hlater := by
    have hpairs := h.pairwise
    rw [hsplit, List.pairwise_append, List.pairwise_cons, List.pairwise_cons] at hpairs
    obtain ⟨-, ⟨-, hafter, -⟩, hbefore⟩ := hpairs
    have hprev : Follows earlier prev := by
      rcases List.mem_append.mp hearlier with hmem | hmem
      · exact hbefore earlier hmem prev List.mem_cons_self
      · rw [List.mem_singleton.mp hmem]
        exact Follows.refl prev
    have hnext' : Follows next later := by
      rcases List.mem_cons.mp hlater with rfl | hmem
      · exact Follows.refl later
      · exact hafter later hmem
    exact hasProgressedSince_mono hprev hnext' hnext
  trans d hd e he f _ hde hef := by
    have hfollows := follows_of_hasProgressedSince h.pairwise hd he hde
    exact hasProgressedSince_mono hfollows (Follows.refl f) hef
  exact before prev after hsplit hcount later hlater := by
    have hpairs := h.pairwise
    rw [hsplit, List.pairwise_append, List.pairwise_cons] at hpairs
    exact hasProgressedSince_iff_counterGrew (hpairs.2.1.1 later hlater) hcount

end

/-- No snapshot has progressed since itself, and of two at most one since the other. Along a healing
progress is never lost again, and it is exactly a later update with more in one of the counters as
long as their sums are in range. The sums are exact up to the greatest number and stop there. -/
theorem hasProgressedSince_of_run :
    (∀ d : DiskProgress, d.hasProgressedSince d = false) ∧
    (∀ d e : DiskProgress, d.hasProgressedSince e = true → e.hasProgressedSince d = false) ∧
    (∀ run : List DiskProgress, run.IsChain Follows → TellsProgress run) ∧
    ∀ d : DiskProgress,
      d.items.toNat = min (d.itemsHealed.toNat + d.itemsFailed.toNat) (UInt64.size - 1) ∧
      d.bytes.toNat = min (d.bytesDone.toNat + d.bytesFailed.toNat) (UInt64.size - 1) :=
  ⟨hasProgressedSince_self, fun _ _ => hasProgressedSince_asymm,
    fun _ => tellsProgress_of_isChain, fun d => ⟨toNat_items d, toNat_bytes d⟩⟩

def nearlyFull (second : Fin 60) (itemsFailed : UInt64) : DiskProgress :=
  { (default : DiskProgress) with
    lastUpdate := { Timestamp.epoch with second := second, second_le := by omega }
    itemsHealed := 18446744073709551613
    itemsFailed := itemsFailed }

/-- The sum is at the bound from the second snapshot on. The third one still shows that it is past
the first, but no longer that it is past the second. -/
theorem hasProgressedSince_at_bound :
    [nearlyFull 0 1, nearlyFull 1 2, nearlyFull 2 3].IsChain Follows ∧
    (nearlyFull 0 1).Countable ∧ CounterGrew (nearlyFull 0 1) (nearlyFull 1 2) ∧
    (nearlyFull 2 3).hasProgressedSince (nearlyFull 0 1) = true ∧
    CounterGrew (nearlyFull 1 2) (nearlyFull 2 3) ∧
    (nearlyFull 2 3).hasProgressedSince (nearlyFull 1 2) = false := by
  have hchain : [nearlyFull 0 1, nearlyFull 1 2, nearlyFull 2 3].IsChain Follows := by
    refine .cons_cons ⟨?_, ?_, ?_, ?_, ?_, ?_⟩
      (.cons_cons ⟨?_, ?_, ?_, ?_, ?_, ?_⟩ (.singleton _)) <;> decide
  have hcount : (nearlyFull 0 1).Countable := ⟨by decide, by decide⟩
  have hgrew : CounterGrew (nearlyFull 0 1) (nearlyFull 1 2) := .inr (.inl (by decide))
  have hrun := hasProgressedSince_of_run.2.2.1 _ hchain
  have hnext : (nearlyFull 1 2).hasProgressedSince (nearlyFull 0 1) = true :=
    (hrun.exact [] _ _ rfl hcount _ List.mem_cons_self).mpr ⟨by decide, hgrew⟩
  exact ⟨hchain, hcount, hgrew,
    hrun.lasting [] _ _ _ rfl hnext _ List.mem_cons_self _ (by simp), .inr (.inl (by decide)),
    by decide⟩

end HealControl.Cluster.DiskProgress
