import HealControl.Proofs.Session.LastStart

/-!
# What entries and answered records hold

An entry is running under its own token, with the data of the last start, and nothing of what the
server told since then is lost: its results are those of all statuses, in the order in which they
came. The same is true of every record that is answered, also of one that has just left the table.
-/
namespace HealControl.Session

open HealControl.Admin
open HealControl.Heal
open HealControl.Time (Timestamp)

theorem summary_record_not_mem (l : Launch) {token : String} {later : List Occurrence}
    (hend : ∀ o ∈ later, ¬ o.Ends token l.bucket l.objectPrefix) :
    (l.record (heard token later)).summary ∉ endSummaries := by
  cases hlast : (heard token later).getLast? with
  | none =>
    have hsummary : (l.record (heard token later)).summary = Summary.running.text := by
      simp [Launch.record, hlast]
    rw [hsummary]
    decide
  | some e =>
    have hsummary : (l.record (heard token later)).summary = e.1.summary := by
      simp [Launch.record, hlast]
    obtain ⟨o, ho, hstatus⟩ := List.mem_filterMap.mp (List.mem_of_getLast? hlast)
    rw [hsummary]
    intro hmem
    cases o with
    | told owner stopping status time =>
      by_cases howner : owner = token
      · simp only [Occurrence.status?, if_pos howner, Option.some.injEq] at hstatus
        subst hstatus
        exact hend _ ho ⟨howner, Or.inr hmem⟩
      · simp [Occurrence.status?, howner] at hstatus
    | _ => cases hstatus

/-- A sequence that runs under its own token, with the data of the last start that returned it. -/
structure Sequence.RunsSince (s : Sequence) (token : String) (h : List Occurrence) : Prop where
  clientToken : s.clientToken = token
  state : s.state = .running
  summary : s.summary ∉ endSummaries
  updated : s.lastUpdate.isSome
  started : ∃ l later, LastStart token h l later ∧
    s.bucket = l.bucket ∧ s.objectPrefix = l.objectPrefix ∧ s.options = l.options ∧
    s.clientAddress = l.receipt.clientAddress ∧ s.startTime = l.receipt.startTime

theorem runsSince_of_get?_tableAfter (ops : List Operation) (script : Script) (token : String)
    (s : Sequence) (hs : (tableAfter ops .empty script).get? token = some s) :
    s.RunsSince token (history ops .empty script) := by
  obtain ⟨l, later, hl, hend, rfl⟩ := (get?_tableAfter_eq_some_iff ops script token s).mp hs
  exact {
    clientToken := hl.returned
    state := rfl
    summary := summary_record_not_mem l hend
    updated := rfl
    started := ⟨l, later, hl, rfl, rfl, rfl, rfl, rfl⟩ }

theorem runsSince_photos :
    let s := photoLaunch.record [(photoStatus "a.png", .epoch)]
    (tableAfter photoRun .empty photoScript).get? "t1" = some s ∧
    s.RunsSince "t1" (history photoRun .empty photoScript) := by
  intro s
  exact ⟨get?_photos, runsSince_of_get?_tableAfter photoRun photoScript "t1" s get?_photos⟩

/-- A record holds the results of statuses, in order, and the words of the last one. -/
structure Sequence.Reports (s : Sequence) (statuses : List (TaskStatus × Timestamp)) : Prop where
  items : s.items = statuses.flatMap fun e => e.1.items
  summary : s.summary = (statuses.getLast?.map fun e => e.1.summary).getD Summary.running.text
  failureDetail : s.failureDetail = (statuses.getLast?.map fun e => e.1.failureDetail).getD ""

theorem reports_record (l : Launch) (statuses : List (TaskStatus × Timestamp)) :
    (l.record statuses).Reports statuses := ⟨rfl, rfl, rfl⟩

theorem Sequence.Reports.afterStatus {s : Sequence} {statuses : List (TaskStatus × Timestamp)}
    (h : s.Reports statuses) (status : TaskStatus) (time : Timestamp) :
    (s.afterStatus status time).Reports (statuses ++ [(status, time)]) := by
  constructor <;> simp [Sequence.afterStatus, h.items]

theorem Sequence.Reports.stopped {s : Sequence} {statuses : List (TaskStatus × Timestamp)}
    (h : s.Reports statuses) : s.stopped.Reports statuses :=
  ⟨h.items, h.summary, h.failureDetail⟩

theorem heard_append (token : String) (h h' : List Occurrence) :
    heard token (h ++ h') = heard token h ++ heard token h' :=
  List.filterMap_append

section
variable {table : Table} {token : String} {s answered : Sequence} {now : Timestamp}
  {result : Except AdminError TaskStatus} {statuses : List (TaskStatus × Timestamp)}

theorem heard_told (stopping : Bool) (status : TaskStatus) (h : List Occurrence) :
    heard token (.told token stopping status now :: h) = (status, now) :: heard token h := by
  simp [heard, Occurrence.status?]

theorem heard_ofStatus? (stopping : Bool) (status : TaskStatus) :
    heard token (Occurrence.ofStatus? token stopping now (.ok status)).toList = [(status, now)] :=
  heard_told stopping status []

theorem reports_afterAnswer (h : s.Reports statuses)
    (he : (table.afterAnswer token s now result).result = .ok answered) :
    answered.Reports
      (statuses ++ heard token (Occurrence.ofStatus? token false now result).toList) := by
  cases result with
  | error error =>
    rw [(table.afterAnswer_error token s now error).1] at he
    cases he
  | ok status =>
    rw [(table.afterAnswer_ok token s now status).1, Except.ok.injEq] at he
    rw [heard_ofStatus?, ← he]
    exact h.afterStatus status now

theorem reports_afterStop (h : s.Reports statuses)
    (he : (table.afterStop token s now result).result = .ok answered) :
    answered.Reports
      (statuses ++ heard token (Occurrence.ofStatus? token true now result).toList) := by
  cases result with
  | error error =>
    rw [Table.afterStop_error, (table.afterAnswer_error token s now error).1] at he
    cases he
  | ok status =>
    rw [(table.afterStop_ok token s now status).1, Except.ok.injEq] at he
    rw [heard_ofStatus?, ← he]
    split
    · exact h.afterStatus status now
    · exact (h.afterStatus status now).stopped

theorem reports_pollUntilDone (script : Script)
    (he : (Table.pollUntilDone token table script).result.result = .ok answered) :
    ∃ s, table.get? token = some s ∧ ∀ statuses, s.Reports statuses →
      answered.Reports (statuses ++ heard token
        ((answers (Table.pollUntilDone token table script).requests.length script).filterMap
          (Operation.pollUntilDone token).occurrence?)) := by
  refine table.pollUntilDone_induction token (motive := fun table script run =>
    run.result.result = .ok answered →
      ∃ s, table.get? token = some s ∧ ∀ statuses, s.Reports statuses →
        answered.Reports (statuses ++ heard token
          ((answers run.requests.length script).filterMap
            (Operation.pollUntilDone token).occurrence?))) ?_ ?_ ?_ script he
  · intro table script cause _ he
    cases he
  · intro table script s a hs _ ha _ he
    refine ⟨s, hs, ?_⟩
    intro statuses h
    rw [List.length_singleton, filterMap_answers_one, ← ha]
    exact reports_afterAnswer h he
  · intro table a rest s status run hs _ hstatus _ ih he
    refine ⟨s, hs, ?_⟩
    intro statuses h
    -- the entry that the next answer meets is the one with the results of this status
    obtain ⟨next, hnext, hrest⟩ := ih he
    rw [Dict.get?_insert, if_pos rfl] at hnext
    obtain rfl := Option.some.inj hnext
    rw [List.length_cons, filterMap_answers_of_status hstatus, heard_told, List.append_cons]
    exact hrest _ (h.afterStatus status a.time)

end

def Operation.asked? : Operation → Option String
  | .poll token | .stop token | .pollUntilDone token => some token
  | _ => none

theorem map_eq_ok_sequence {r : Except AdminError Sequence} {s : Sequence}
    (h : r.map Answer.sequence = .ok (.sequence s)) : r = .ok s := by
  cases r with
  | error e => cases h
  | ok a =>
    obtain rfl := Answer.sequence.inj (Except.ok.inj h)
    rfl

/-- An answered record adds what the operation heard to what its entry held. -/
theorem reports_perform {op : Operation} {table : Table} {script : Script} {token : String}
    {answered : Sequence} (hop : op.asked? = some token)
    (he : (op.perform table script).result.result = .ok (.sequence answered)) :
    ∃ s, table.get? token = some s ∧ ∀ statuses, s.Reports statuses →
      answered.Reports (statuses ++ heard token (op.occurrences table script)) := by
  cases op with
  | poll owner =>
    obtain rfl : owner = token := Option.some.inj hop
    rcases Operation.perform_poll_cases owner table script with ⟨cause, hp⟩ | ⟨s, hs, hp⟩
    · rw [hp] at he
      cases he
    · refine ⟨s, hs, ?_⟩
      intro statuses h
      rw [Operation.occurrences_of_asks (by rw [hp])]
      rw [hp] at he
      exact reports_afterAnswer h (map_eq_ok_sequence he)
  | stop owner =>
    obtain rfl : owner = token := Option.some.inj hop
    rcases Operation.perform_stop_cases owner table script with ⟨cause, hp⟩ | ⟨s, hs, hp⟩
    · rw [hp] at he
      cases he
    · refine ⟨s, hs, ?_⟩
      intro statuses h
      rw [Operation.occurrences_of_asks (by rw [hp])]
      rw [hp] at he
      exact reports_afterStop h (map_eq_ok_sequence he)
  | pollUntilDone owner =>
    obtain rfl : owner = token := Option.some.inj hop
    exact reports_pollUntilDone script (map_eq_ok_sequence he)
  | _ => cases hop

theorem not_starts_of_mem_occurrences {op : Operation} {owner token : String} {table : Table}
    {script : Script} (hop : op.asked? = some owner) :
    ∀ o ∈ op.occurrences table script, ¬ o.Starts token := by
  intro o ho
  obtain ⟨a, -, hread⟩ := List.mem_filterMap.mp ho
  have hstatus : ∃ stopping, Occurrence.ofStatus? owner stopping a.time (readStatus a.reply) =
      some o := by
    cases op with
    | poll owner' => exact ⟨false, Option.some.inj hop ▸ hread⟩
    | stop owner' => exact ⟨true, Option.some.inj hop ▸ hread⟩
    | pollUntilDone owner' => exact ⟨false, Option.some.inj hop ▸ hread⟩
    | _ => cases hop
  obtain ⟨stopping, hstatus⟩ := hstatus
  cases hr : readStatus a.reply with
  | ok status =>
    rw [hr, Occurrence.ofStatus?, Option.some.injEq] at hstatus
    subst hstatus
    exact id
  | error error =>
    rw [hr] at hstatus
    cases error with
    | server payload =>
      rw [Occurrence.ofStatus?, Option.some.injEq] at hstatus
      subst hstatus
      exact id
    | _ => cases hstatus

theorem LastStart.append {token : String} {h later more : List Occurrence} {l : Launch}
    (hl : LastStart token h l later) (hmore : ∀ o ∈ more, ¬ o.Starts token) :
    LastStart token (h ++ more) l (later ++ more) := by
  obtain ⟨before, rfl⟩ := hl.split
  refine ⟨hl.returned, ⟨before, by simp⟩, ?_⟩
  rw [List.forall_mem_append]
  exact ⟨hl.last, hmore⟩

/-- No result is lost, doubled or moved: every entry, and every record that is answered, holds the
results of all statuses of its token since the last start, in the order in which they came. -/
theorem reports_of_history (ops : List Operation) (script : Script) (token : String) :
    (∀ s, (tableAfter ops .empty script).get? token = some s →
      ∃ l later, LastStart token (history ops .empty script) l later ∧
        s.Reports (heard token later)) ∧
    ∀ (op : Operation) (s : Sequence), op.asked? = some token →
      (op.perform (tableAfter ops .empty script) (scriptAfter ops .empty script)).result.result =
        .ok (.sequence s) →
      ∃ l later, LastStart token (history (ops ++ [op]) .empty script) l later ∧
        s.Reports (heard token later) := by
  constructor
  · intro s hs
    obtain ⟨l, later, hl, -, rfl⟩ := (get?_tableAfter_eq_some_iff ops script token s).mp hs
    exact ⟨l, later, hl, reports_record l _⟩
  · intro op s hop he
    obtain ⟨entry, hentry, hreports⟩ := reports_perform hop he
    obtain ⟨l, later, hl, -, rfl⟩ := (get?_tableAfter_eq_some_iff ops script token entry).mp hentry
    have hmore : ∀ o ∈ op.occurrences (tableAfter ops .empty script) (scriptAfter ops .empty script),
        ¬ o.Starts token := not_starts_of_mem_occurrences hop
    have hlast := hl.append hmore
    rw [← history_concat] at hlast
    refine ⟨l, _, hlast, ?_⟩
    rw [heard_append]
    exact hreports _ (reports_record l _)

/-- A stop that is answered with a status of a running sequence. -/
theorem reports_photos :
    let entry := photoLaunch.record [(photoStatus "a.png", .epoch)]
    let answered :=
      (photoLaunch.record [(photoStatus "a.png", .epoch), (photoStatus "b.png", .epoch)]).stopped
    let op := Operation.stop "t1"
    ((tableAfter photoRun .empty photoScript).get? "t1" = some entry ∧
      ∃ l later, LastStart "t1" (history photoRun .empty photoScript) l later ∧
        entry.Reports (heard "t1" later)) ∧
    op.asked? = some "t1" ∧
    (op.perform (tableAfter photoRun .empty photoScript)
      (scriptAfter photoRun .empty photoScript)).result.result = .ok (.sequence answered) ∧
    ∃ l later, LastStart "t1" (history (photoRun ++ [op]) .empty photoScript) l later ∧
      answered.Reports (heard "t1" later) := by
  intro entry answered op
  have he : (op.perform (tableAfter photoRun .empty photoScript)
      (scriptAfter photoRun .empty photoScript)).result.result = .ok (.sequence answered) := by
    decide +kernel
  have h := reports_of_history photoRun photoScript "t1"
  exact ⟨⟨get?_photos, h.1 entry get?_photos⟩, rfl, he, h.2 op answered rfl he⟩

end HealControl.Session
