import HealControl.Proofs.Session.LastStart

/-!
# Entries that the caller can act on

The caller acts on an entry by its token: it asks for the status of the sequence, or stops it. Both
go to the server as long as the token is not empty. A request with an empty token would be one
without a token, and speak of whatever runs on the objects, so such an entry is out of reach. It is
in the table only if a start was answered with an empty token.
-/
namespace HealControl.Session

open HealControl.Admin
open HealControl.Heal

/-- An entry that the caller can act on. Each action sends one request to the path of the entry, and
the entry leaves the table on a status that tells of an end, or on any answer to a stop. -/
structure Controllable (table : Table) (token : String) : Prop where
  polled : ∀ script, ∃ s, table.get? token = some s ∧
    ((Operation.poll token).perform table script).requests = [s.request token false]
  stopped : ∀ script, ∃ s, table.get? token = some s ∧
    ((Operation.stop token).perform table script).requests = [s.request token true]
  leavesOnEnd : ∀ (a : Arrival) (rest : Script) (status : TaskStatus),
    readStatus a.reply = .ok status → status.summary ∈ endSummaries →
    ((Operation.poll token).perform table (a :: rest)).result.table.get? token = none
  leavesOnStop : ∀ (a : Arrival) (rest : Script) (status : TaskStatus),
    readStatus a.reply = .ok status →
    ((Operation.stop token).perform table (a :: rest)).result.table.get? token = none

section
variable {table : Table} {token : String} {s : Sequence}

theorem perform_poll_of_get? (hs : table.get? token = some s) (hne : token ≠ "")
    (script : Script) :
    (Operation.poll token).perform table script =
      ⟨(table.afterAnswer token s (nextArrival script).time
          (readStatus (nextArrival script).reply)).map .sequence,
        [s.request token false], script.tail⟩ := by
  have he : token.isEmpty = false := by simpa using hne
  simp [Operation.perform_poll, hs, he]

theorem perform_stop_of_get? (hs : table.get? token = some s) (hne : token ≠ "")
    (script : Script) :
    (Operation.stop token).perform table script =
      ⟨(table.afterStop token s (nextArrival script).time
          (readStatus (nextArrival script).reply)).map .sequence,
        [s.request token true], script.tail⟩ := by
  have he : token.isEmpty = false := by simpa using hne
  simp [Operation.perform_stop, hs, he]

theorem controllable_of_ne_empty (hs : table.get? token = some s) (hne : token ≠ "") :
    Controllable table token where
  polled script := ⟨s, hs, by rw [perform_poll_of_get? hs hne]⟩
  stopped script := ⟨s, hs, by rw [perform_stop_of_get? hs hne]⟩
  leavesOnEnd a rest status hstatus hend := by
    have hafter := (table.afterAnswer_ok token s a.time status).2
    rw [if_pos hend] at hafter
    simp [perform_poll_of_get? hs hne, nextArrival, hstatus, Outcome.map, hafter]
  leavesOnStop a rest status hstatus := by
    have hafter := (table.afterStop_ok token s a.time status).2 token
    rw [if_pos rfl] at hafter
    simp [perform_stop_of_get? hs hne, nextArrival, hstatus, Outcome.map, hafter]

theorem perform_empty_of_get? (hs : table.get? "" = some s) (script : Script) :
    (Operation.poll "").perform table script = ⟨.refused table .tokenRequired, [], script⟩ ∧
    (Operation.stop "").perform table script = ⟨.refused table .tokenRequired, [], script⟩ := by
  rw [Operation.perform_poll, Operation.perform_stop, hs]
  exact ⟨rfl, rfl⟩

theorem controllable_iff_of_get? (hs : table.get? token = some s) :
    Controllable table token ↔ token ≠ "" := by
  constructor
  · rintro h rfl
    obtain ⟨s', -, hsent⟩ := h.polled []
    rw [(perform_empty_of_get? hs []).1] at hsent
    cases hsent
  · exact controllable_of_ne_empty hs

end

/-- Of the recorded sequences the caller can act on those with a token that is not empty, and so on
all of them unless a start was answered with an empty token. -/
theorem controllable_iff_ne_empty (ops : List Operation) (script : Script) (token : String)
    (h : token ∈ (tableAfter ops .empty script).keys) :
    (Controllable (tableAfter ops .empty script) token ↔ token ≠ "") ∧
    (Controllable (tableAfter ops .empty script) token ∨
      ∃ l later, LastStart "" (history ops .empty script) l later) := by
  obtain ⟨s, hs⟩ := (Dict.mem_keys_iff _ token).mp h
  have hiff := controllable_iff_of_get? hs
  refine ⟨hiff, ?_⟩
  by_cases hne : token = ""
  · subst hne
    obtain ⟨l, later, hl, -, -⟩ := (get?_tableAfter_eq_some_iff ops script "" s).mp hs
    exact Or.inr ⟨l, later, hl⟩
  · exact Or.inl (hiff.mpr hne)

theorem controllable_photos :
    let table := tableAfter photoRun .empty photoScript
    "t1" ∈ table.keys ∧ Controllable table "t1" := by
  intro table
  have h : "t1" ∈ table.keys := by decide +kernel
  obtain ⟨hiff, -⟩ := controllable_iff_ne_empty photoRun photoScript "t1" h
  exact ⟨h, hiff.mpr (by decide)⟩

/-- A start that is answered with an empty token is recorded, but no request is sent for it. -/
theorem not_controllable_of_emptyToken :
    let receipt : HealReceipt := ⟨"", "node1", .epoch⟩
    let table := tableAfter [.start "photos" "2021" default false] .empty
      [written HealReceipt.schema.codec receipt]
    "" ∈ table.keys ∧ ¬ Controllable table "" ∧ ∀ script,
      (Operation.poll "").perform table script = ⟨.refused table .tokenRequired, [], script⟩ ∧
      (Operation.stop "").perform table script = ⟨.refused table .tokenRequired, [], script⟩ := by
  intro receipt table
  have hs : table.get? "" = some (.started "photos" "2021" default receipt .epoch) := by
    decide +kernel
  refine ⟨(Dict.mem_keys_iff table "").mpr ⟨_, hs⟩, ?_, ?_⟩
  · intro h
    exact (controllable_iff_of_get? hs).mp h rfl
  · exact perform_empty_of_get? hs

end HealControl.Session
