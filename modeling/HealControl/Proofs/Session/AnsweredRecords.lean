import HealControl.Proofs.Session.Control
import HealControl.Proofs.Session.RepeatedPolls
import HealControl.Proofs.Session.Reports

/-!
# Answered records and the table

The record that answers a question is the entry of the table, or the entry has left the table and
the record tells of its end. A stop takes the entry out whatever the status says: a state that is no
end gives way to `stopped`, and the words and the results of the status stay as they are.
-/
namespace HealControl.Session

open HealControl.Admin
open HealControl.Heal
open HealControl.Time (Timestamp)

/-- The state of which a summary and the detail of a failure tell. A sequence that was stopped by an
error has the error as its detail, and any summary that names no end is that of a running one. -/
structure SequenceState.ToldBy (state : SequenceState) (summary failureDetail : String) :
    Prop where
  completed : state = .completed ↔ summary = "finished"
  failed : state = .failed ↔ summary = "failed" ∨ summary = "stopped" ∧ failureDetail ≠ ""
  stopped : state = .stopped ↔ summary = "stopped" ∧ failureDetail = ""
  running : state = .running ↔ summary ∉ ["finished", "stopped", "failed"]

theorem toldBy_ofStatus (summary failureDetail : String) :
    (SequenceState.ofStatus summary failureDetail).ToldBy summary failureDetail := by
  by_cases hend : summary ∈ endSummaries
  · simp only [endSummaries, List.mem_cons, List.not_mem_nil, or_false] at hend
    rcases hend with rfl | rfl | rfl
    · constructor <;> simp [SequenceState.ofStatus, Summary.text]
    · by_cases hd : failureDetail = ""
      · constructor <;> simp [SequenceState.ofStatus, Summary.text, hd]
      · constructor <;> simp [SequenceState.ofStatus, Summary.text, hd]
    · constructor <;> simp [SequenceState.ofStatus, Summary.text]
  · rw [ofStatus_eq_running failureDetail hend]
    simp only [endSummaries, Summary.text, List.mem_cons, List.not_mem_nil, or_false,
      not_or] at hend
    constructor <;> simp [hend]

/-- A record that has taken in a status: the words of the status, and its results after those of the
entry. -/
structure Sequence.Takes (s entry : Sequence) (status : TaskStatus) : Prop where
  summary : s.summary = status.summary
  failureDetail : s.failureDetail = status.failureDetail
  items : s.items = entry.items ++ status.items

structure AnsweredPoll (status : TaskStatus) (entry s : Sequence) (token : String)
    (table : Table) : Prop where
  takes : s.Takes entry status
  told : s.state.ToldBy status.summary status.failureDetail
  agrees : (s.state = .running ∧ table.get? token = some s) ∨
    (s.state.isTerminal ∧ token ∉ table.keys)

structure AnsweredStop (status : TaskStatus) (entry s : Sequence) (token : String)
    (table : Table) : Prop where
  takes : s.Takes entry status
  told : ∃ state : SequenceState, state.ToldBy status.summary status.failureDetail ∧
    s.state = if state.isTerminal then state else .stopped
  ends : s.state.isTerminal
  gone : token ∉ table.keys

section
variable {table : Table} {token : String} {script : Script} {s : Sequence}

theorem perform_poll_of_ok
    (h : ((Operation.poll token).perform table script).result.result = .ok (.sequence s)) :
    ∃ entry status, table.get? token = some entry ∧
      readStatus (nextArrival script).reply = .ok status ∧
      s = entry.afterStatus status (nextArrival script).time ∧
      ((Operation.poll token).perform table script).result.table =
        if status.summary ∈ endSummaries then table.erase token else table.insert token s := by
  rcases Operation.perform_poll_cases token table script with ⟨cause, hp⟩ | ⟨entry, hentry, hp⟩
  · rw [hp] at h
    cases h
  · rw [hp] at h ⊢
    have hresult := map_eq_ok_sequence h
    cases hstatus : readStatus (nextArrival script).reply with
    | error error =>
      rw [hstatus, (table.afterAnswer_error token entry _ error).1] at hresult
      cases hresult
    | ok status =>
      obtain ⟨hok, htable⟩ := table.afterAnswer_ok token entry (nextArrival script).time status
      rw [hstatus, hok, Except.ok.injEq] at hresult
      refine ⟨entry, status, hentry, rfl, hresult.symm, ?_⟩
      rw [← hresult]
      exact htable

theorem perform_stop_of_ok
    (h : ((Operation.stop token).perform table script).result.result = .ok (.sequence s)) :
    ∃ entry status, table.get? token = some entry ∧
      readStatus (nextArrival script).reply = .ok status ∧
      s = (if status.summary ∈ endSummaries then
          entry.afterStatus status (nextArrival script).time
        else (entry.afterStatus status (nextArrival script).time).stopped) ∧
      ((Operation.stop token).perform table script).result.table.get? token = none := by
  rcases Operation.perform_stop_cases token table script with ⟨cause, hp⟩ | ⟨entry, hentry, hp⟩
  · rw [hp] at h
    cases h
  · rw [hp] at h ⊢
    have hresult := map_eq_ok_sequence h
    cases hstatus : readStatus (nextArrival script).reply with
    | error error =>
      rw [hstatus, Table.afterStop_error, (table.afterAnswer_error token entry _ error).1] at hresult
      cases hresult
    | ok status =>
      obtain ⟨hok, hget⟩ := table.afterStop_ok token entry (nextArrival script).time status
      rw [hstatus, hok, Except.ok.injEq] at hresult
      have hgone := hget token
      rw [if_pos rfl] at hgone
      exact ⟨entry, status, hentry, rfl, hresult.symm, hgone⟩

variable {status : TaskStatus}

theorem result_poll_of_status (hs : table.get? token = some s) (hne : token ≠ "")
    (hstatus : readStatus (nextArrival script).reply = .ok status) :
    ((Operation.poll token).perform table script).result.result =
      .ok (.sequence (s.afterStatus status (nextArrival script).time)) := by
  have hresult := (table.afterAnswer_ok token s (nextArrival script).time status).1
  simp only [perform_poll_of_get? hs hne, hstatus, Outcome.map, hresult, Except.map]

theorem result_stop_of_running (hs : table.get? token = some s) (hne : token ≠ "")
    (hstatus : readStatus (nextArrival script).reply = .ok status)
    (hrun : status.summary ∉ endSummaries) :
    ((Operation.stop token).perform table script).result.result =
      .ok (.sequence (s.afterStatus status (nextArrival script).time).stopped) := by
  have hresult := (table.afterStop_ok token s (nextArrival script).time status).1
  rw [if_neg hrun] at hresult
  simp only [perform_stop_of_get? hs hne, hstatus, Outcome.map, hresult, Except.map]

end

theorem takes_afterStatus (entry : Sequence) (status : TaskStatus) (now : Timestamp) :
    (entry.afterStatus status now).Takes entry status := ⟨rfl, rfl, rfl⟩

theorem told_afterStatus (entry : Sequence) (status : TaskStatus) (now : Timestamp) :
    (entry.afterStatus status now).state.ToldBy status.summary status.failureDetail :=
  toldBy_ofStatus status.summary status.failureDetail

/-- Whatever status answers a question, the record is the entry of a running sequence, or tells of an
end and has no entry left; the record that answers a stop always tells of an end. -/
theorem answered_record_agrees (table : Table) (token : String) (script : Script) (s : Sequence) :
    let polled := (Operation.poll token).perform table script
    let stopped := (Operation.stop token).perform table script
    (polled.result.result = .ok (.sequence s) →
      ∃ entry status, table.get? token = some entry ∧
        readStatus (nextArrival script).reply = .ok status ∧
        AnsweredPoll status entry s token polled.result.table) ∧
    (stopped.result.result = .ok (.sequence s) →
      ∃ entry status, table.get? token = some entry ∧
        readStatus (nextArrival script).reply = .ok status ∧
        AnsweredStop status entry s token stopped.result.table) := by
  intro polled stopped
  constructor
  · intro h
    obtain ⟨entry, status, hentry, hstatus, rfl, htable⟩ := perform_poll_of_ok h
    refine ⟨entry, status, hentry, hstatus, takes_afterStatus .., told_afterStatus .., ?_⟩
    have hterminal := isTerminal_afterStatus entry status (nextArrival script).time
    by_cases hend : status.summary ∈ endSummaries
    · rw [if_pos hend] at htable
      refine Or.inr ⟨hterminal.mpr hend, ?_⟩
      rw [← Dict.get?_eq_none_iff, htable, Dict.get?_erase, if_pos rfl]
    · rw [if_neg hend] at htable
      refine Or.inl ⟨ofStatus_eq_running status.failureDetail hend, ?_⟩
      rw [htable, Dict.get?_insert, if_pos rfl]
  · intro h
    obtain ⟨entry, status, hentry, hstatus, hs, hgone⟩ := perform_stop_of_ok h
    refine ⟨entry, status, hentry, hstatus, ?_⟩
    have htold := told_afterStatus entry status (nextArrival script).time
    have hterminal := isTerminal_afterStatus entry status (nextArrival script).time
    have hkeys := (Dict.get?_eq_none_iff _ token).mp hgone
    by_cases hend : status.summary ∈ endSummaries
    · rw [if_pos hend] at hs
      subst hs
      exact ⟨takes_afterStatus .., ⟨_, htold, (if_pos (hterminal.mpr hend)).symm⟩,
        hterminal.mpr hend, hkeys⟩
    · rw [if_neg hend] at hs
      subst hs
      have hrun : ¬ (entry.afterStatus status (nextArrival script).time).state.isTerminal :=
        fun ht => hend (hterminal.mp ht)
      exact ⟨⟨rfl, rfl, rfl⟩, ⟨_, htold, (if_neg hrun).symm⟩, rfl, hkeys⟩

/-- A sequence that still runs, asked for and stopped with the same reply. -/
theorem answered_record_agrees_photos :
    let table := tableAfter photoRun .empty photoScript
    let script := [written TaskStatus.schema.codec (photoStatus "b.png")]
    let s := (photoLaunch.record [(photoStatus "a.png", .epoch)]).afterStatus (photoStatus "b.png")
      .epoch
    let polled := (Operation.poll "t1").perform table script
    let stopped := (Operation.stop "t1").perform table script
    polled.result.result = .ok (.sequence s) ∧
    stopped.result.result = .ok (.sequence s.stopped) ∧
    (∃ entry status, table.get? "t1" = some entry ∧
      AnsweredPoll status entry s "t1" polled.result.table) ∧
    ∃ entry status, table.get? "t1" = some entry ∧
      AnsweredStop status entry s.stopped "t1" stopped.result.table := by
  intro table script s polled stopped
  have hpolled : polled.result.result = .ok (.sequence s) :=
    result_poll_of_status get?_photos (by decide) (readStatus_written (photoStatus "b.png"))
  have hstopped : stopped.result.result = .ok (.sequence s.stopped) :=
    result_stop_of_running get?_photos (by decide) (readStatus_written (photoStatus "b.png"))
      (by decide)
  obtain ⟨entry, status, hentry, -, hpoll⟩ :=
    (answered_record_agrees table "t1" script s).1 hpolled
  obtain ⟨entry', status', hentry', -, hstop⟩ :=
    (answered_record_agrees table "t1" script s.stopped).2 hstopped
  exact ⟨hpolled, hstopped, ⟨entry, status, hentry, hpoll⟩, entry', status', hentry', hstop⟩

/-- The results of a record are not only those of the last status: the entry had some before. -/
theorem items_stop_ne_told :
    let table := tableAfter photoRun .empty photoScript
    let script := [written TaskStatus.schema.codec (photoStatus "b.png")]
    ∃ (s : Sequence) (status : TaskStatus),
      ((Operation.stop "t1").perform table script).result.result = .ok (.sequence s) ∧
      readStatus (nextArrival script).reply = .ok status ∧ s.items ≠ status.items := by
  intro table script
  have hstatus := readStatus_written (photoStatus "b.png")
  exact ⟨_, _, result_stop_of_running get?_photos (by decide) hstatus (by decide), hstatus,
    by decide +kernel⟩

end HealControl.Session
