import HealControl.Proofs.Admin.Paths
import HealControl.Proofs.Session.LastStart

/-!
# Sequences on one path

A server knows a sequence by the path of its request, the table by its bucket and its prefix. A
forced start drops the entries of its own pair, and of the others on its path none.
-/
namespace HealControl.Session

open HealControl.Admin
open HealControl.Heal

section
variable {table : Table} {script : Script} {bucket objectPrefix : String} {options : HealOptions}
  {receipt : HealReceipt} {token : String} {s : Sequence}

/-- Of the tokens that are not its own, a forced start leaves those on other objects. -/
theorem get?_perform_forcedStart
    (hstart : ((Operation.start bucket objectPrefix options true).perform table script).result.result
      = .ok (.receipt receipt))
    (htoken : token ≠ receipt.clientToken) :
    ((Operation.start bucket objectPrefix options true).perform table script).result.table.get? token
      = (table.get? token).filter fun s => !s.isOn bucket objectPrefix := by
  have hoccurrences :=
    (occurrences_start_iff table script bucket objectPrefix options true receipt).mpr hstart
  rw [get?_perform, hoccurrences, effects_cons, effects_nil, Occurrence.effect,
    if_neg (Ne.symm htoken), if_pos rfl]

theorem ne_of_not_isOn (h : s.isOn bucket objectPrefix = false) :
    ¬ (s.bucket = bucket ∧ s.objectPrefix = objectPrefix) := by
  rintro ⟨rfl, rfl⟩
  simp [Sequence.isOn] at h

/-- After a forced start another entry is on its path only with two empty buckets, or with a bucket
that goes on in the prefix of the other; so on none if no bucket has a separator in it. -/
theorem path_eq_forcedStart_iff
    (hstart : ((Operation.start bucket objectPrefix options true).perform table script).result.result
      = .ok (.receipt receipt))
    (htoken : token ≠ receipt.clientToken)
    (hs : ((Operation.start bucket objectPrefix options true).perform table script).result.table.get?
      token = some s) :
    let path := (HealCall.mk bucket objectPrefix options "" true false).request.path
    ((s.request token false).path = path ↔
      (s.bucket = "" ∧ bucket = "") ∨ GoesOn s.bucket s.objectPrefix bucket objectPrefix ∨
      GoesOn bucket objectPrefix s.bucket s.objectPrefix) ∧
    (¬ (s.bucket = "" ∧ bucket = "") → '/' ∉ s.bucket.toList → '/' ∉ bucket.toList →
      (s.request token false).path ≠ path) := by
  intro path
  rw [get?_perform_forcedStart hstart htoken, Option.filter_eq_some_iff] at hs
  have hother : ¬ (s.bucket = bucket ∧ s.objectPrefix = objectPrefix) :=
    ne_of_not_isOn (by simpa using hs.2)
  have hpath : (s.request token false).path = path ↔
      (s.bucket = "" ∧ bucket = "") ∨ GoesOn s.bucket s.objectPrefix bucket objectPrefix ∨
      GoesOn bucket objectPrefix s.bucket s.objectPrefix :=
    healPath_eq_iff.trans (or_iff_right hother)
  refine ⟨hpath, ?_⟩
  intro hempty hslash hslash' heq
  rcases hpath.mp heq with h | h | h
  · exact hempty h
  · exact hslash' h.separator_mem
  · exact hslash h.separator_mem

end

/-- Another bucket is healed with force while `photos` is. -/
theorem path_ne_videos :
    let table := tableAfter (photoRun.take 1) .empty photoScript
    let run := (Operation.start "videos" "" default true).perform table (photoScript.drop 1)
    let forced := HealCall.mk "videos" "" default "" true false
    run.result.result = .ok (.receipt ⟨"t2", "node2", .epoch⟩) ∧ "t1" ≠ "t2" ∧
    run.result.table.get? "t1" = some photoLaunch.sequence ∧
    (photoLaunch.sequence.request "t1" false).path ≠ forced.request.path := by
  intro table run forced
  have hstart : run.result.result = .ok (.receipt ⟨"t2", "node2", .epoch⟩) := by decide +kernel
  have htoken : "t1" ≠ "t2" := by decide
  have hs : run.result.table.get? "t1" = some photoLaunch.sequence := by decide +kernel
  obtain ⟨-, hne⟩ := path_eq_forcedStart_iff hstart htoken hs
  exact ⟨hstart, htoken, hs, hne (by decide) (by decide) (by decide)⟩

/-- Without a bucket the forced start goes to the path of the first one, whose entry stays. -/
theorem path_eq_without_bucket :
    let first := Operation.start "" "2021" default false
    let table := tableAfter [first] .empty photoScript
    let run := (Operation.start "" "" default true).perform table (photoScript.drop 1)
    let forced := HealCall.mk "" "" default "" true false
    let s := Sequence.started "" "2021" default photoLaunch.receipt .epoch
    run.result.result = .ok (.receipt ⟨"t2", "node2", .epoch⟩) ∧ "t1" ≠ "t2" ∧
    run.result.table.get? "t1" = some s ∧
    (s.request "t1" false).path = forced.request.path := by
  intro first table run forced s
  refine ⟨?_, ?_, ?_, rfl⟩
  · decide +kernel
  · decide
  · decide +kernel

end HealControl.Session
