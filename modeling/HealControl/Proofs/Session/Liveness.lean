import HealControl.Proofs.Session.LastStart

/-!
# Which tokens have an entry

A token has an entry exactly if it was started and nothing has ended its sequence since the last
start. A failure that the server did not report is no reason for a token to come or to go.
-/
namespace HealControl.Session

open HealControl.Admin
open HealControl.Heal
open HealControl.Time (Timestamp)

def IsReported (error : AdminError) : Prop :=
  ∃ payload, error = .server payload

section
variable {table : Table} {bucket objectPrefix token : String} {now : Timestamp}
  {error : AdminError}

theorem table_afterStart_of_error {options : HealOptions} {forceStart : Bool}
    {result : Except AdminError HealReceipt}
    (he : (table.afterStart bucket objectPrefix options forceStart now result).result =
      .error error) :
    (table.afterStart bucket objectPrefix options forceStart now result).table = table := by
  cases result with
  | ok receipt => cases he
  | error e => rfl

theorem table_afterForceStop_of_error {result : Except AdminError HealReceipt}
    (he : (table.afterForceStop bucket objectPrefix result).result = .error error) :
    (table.afterForceStop bucket objectPrefix result).table = table := by
  cases result with
  | ok receipt => cases he
  | error e => rfl

theorem table_afterAnswer_of_error {s : Sequence} {result : Except AdminError TaskStatus}
    (hr : ¬ IsReported error)
    (he : (table.afterAnswer token s now result).result = .error error) :
    (table.afterAnswer token s now result).table = table := by
  cases result with
  | ok status =>
    rw [(table.afterAnswer_ok token s now status).1] at he
    cases he
  | error e =>
    obtain ⟨hresult, htable⟩ := table.afterAnswer_error token s now e
    rw [hresult, Except.error.injEq] at he
    subst he
    rw [htable]
    cases e with
    | server payload => exact absurd ⟨payload, rfl⟩ hr
    | _ => rfl

theorem table_afterStop_of_error {s : Sequence} {result : Except AdminError TaskStatus}
    (hr : ¬ IsReported error)
    (he : (table.afterStop token s now result).result = .error error) :
    (table.afterStop token s now result).table = table := by
  cases result with
  | ok status =>
    rw [(table.afterStop_ok token s now status).1] at he
    cases he
  | error e =>
    rw [Table.afterStop_error] at he ⊢
    exact table_afterAnswer_of_error hr he

theorem keys_pollUntilDone_of_error (script : Script) (hr : ¬ IsReported error)
    (he : (Table.pollUntilDone token table script).result.result = .error error) :
    (Table.pollUntilDone token table script).result.table.keys = table.keys := by
  refine table.pollUntilDone_induction token (motive := fun table _ run =>
    run.result.result = .error error → run.result.table.keys = table.keys) ?_ ?_ ?_ script he
  · intro table script cause _ _
    rfl
  · intro table script s a _ _ _ _ he
    rw [table_afterAnswer_of_error hr he]
  · intro table a rest s status run hs _ _ _ ih he
    -- a status before the failure replaces an entry, so its token keeps its place
    have hmem : token ∈ table.keys := (Dict.mem_keys_iff table token).mpr ⟨s, hs⟩
    have hkeys := ih he
    rw [Dict.keys_insert, if_pos hmem] at hkeys
    exact hkeys

end

theorem map_eq_error {α β : Type} {f : α → β} {r : Except AdminError α} {error : AdminError}
    (h : r.map f = .error error) : r = .error error := by
  cases r with
  | ok a => cases h
  | error e => exact congrArg Except.error (Except.error.inj h)

/-- An operation that fails, other than by an error that the server reports, keeps all tokens. -/
theorem keys_perform_of_error (op : Operation) (table : Table) (script : Script)
    {error : AdminError} (hr : ¬ IsReported error)
    (he : (op.perform table script).result.result = .error error) :
    (op.perform table script).result.table.keys = table.keys := by
  cases op with
  | start bucket objectPrefix options forceStart =>
    rw [Operation.perform_start] at he ⊢
    exact congrArg Dict.keys (table_afterStart_of_error (map_eq_error he))
  | poll token =>
    rcases Operation.perform_poll_cases token table script with ⟨cause, hp⟩ | ⟨s, hs, hp⟩
    · rw [hp]
      rfl
    · rw [hp] at he ⊢
      exact congrArg Dict.keys (table_afterAnswer_of_error hr (map_eq_error he))
  | stop token =>
    rcases Operation.perform_stop_cases token table script with ⟨cause, hp⟩ | ⟨s, hs, hp⟩
    · rw [hp]
      rfl
    · rw [hp] at he ⊢
      exact congrArg Dict.keys (table_afterStop_of_error hr (map_eq_error he))
  | forceStop bucket objectPrefix =>
    rw [Operation.perform_forceStop] at he ⊢
    exact congrArg Dict.keys (table_afterForceStop_of_error (map_eq_error he))
  | pollUntilDone token => exact keys_pollUntilDone_of_error script hr (map_eq_error he)
  | get token => rfl

/-- A token has an entry after a run exactly if nothing has ended its sequence since it was last
started. An operation that then fails keeps the tokens, unless the server reports the error. -/
theorem mem_keys_tableAfter_iff (ops : List Operation) (script : Script) (token : String) :
    (token ∈ (tableAfter ops .empty script).keys ↔
      ∃ l later, LastStart token (history ops .empty script) l later ∧
        ∀ o ∈ later, ¬ o.Ends token l.bucket l.objectPrefix) ∧
    ∀ (op : Operation) (error : AdminError),
      (op.perform (tableAfter ops .empty script) (scriptAfter ops .empty script)).result.result =
        .error error →
      ¬ IsReported error →
      (tableAfter (ops ++ [op]) .empty script).keys = (tableAfter ops .empty script).keys := by
  constructor
  · rw [Dict.mem_keys_iff]
    constructor
    · rintro ⟨s, hs⟩
      obtain ⟨l, later, hl, hend, -⟩ := (get?_tableAfter_eq_some_iff ops script token s).mp hs
      exact ⟨l, later, hl, hend⟩
    · rintro ⟨l, later, hl, hend⟩
      refine ⟨l.record (heard token later), ?_⟩
      exact (get?_tableAfter_eq_some_iff ops script token _).mpr ⟨l, later, hl, hend, rfl⟩
  · intro op error he hr
    rw [tableAfter_concat]
    exact keys_perform_of_error op _ _ hr he

/-- A forced stop to which no answer comes. -/
theorem keys_tableAfter_photos :
    let op := Operation.forceStop "photos" "2021"
    let script := photoScript.take 4
    let table := tableAfter photoRun .empty script
    let lost := AdminError.transport ⟨.failed "no scripted response left", []⟩
    "t1" ∈ table.keys ∧
    (op.perform table (scriptAfter photoRun .empty script)).result.result = .error lost ∧
    ¬ IsReported lost ∧
    (tableAfter (photoRun ++ [op]) .empty script).keys = table.keys := by
  intro op script table lost
  have he : (op.perform table (scriptAfter photoRun .empty script)).result.result =
      .error lost := by decide +kernel
  have hr : ¬ IsReported lost := fun ⟨payload, h⟩ => by simp [lost] at h
  exact ⟨by decide +kernel, he, hr, (mem_keys_tableAfter_iff photoRun script "t1").2 op lost he hr⟩

end HealControl.Session
