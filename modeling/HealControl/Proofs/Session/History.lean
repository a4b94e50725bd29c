import HealControl.Proofs.Session.Steps

/-!
# What the replies of a run tell

A reply that can be read is an occurrence in the life of some sequence: a start that succeeded, a
status of a sequence, an error that the server reports of it, or a forced stop. Failures on the way
and answers that cannot be read are none. The history of a run is the list of its occurrences, and
`get?_tableAfter` says that the entry of a token depends on nothing else: every occurrence changes
it in a way of its own, whatever operation it came with and whatever else the table holds.
-/
namespace HealControl.Session

open HealControl.Admin
open HealControl.Heal
open HealControl.Time (Timestamp)

structure Launch where
  bucket : String
  objectPrefix : String
  options : HealOptions
  forced : Bool
  receipt : HealReceipt
  time : Timestamp

def Launch.sequence (l : Launch) : Sequence :=
  .started l.bucket l.objectPrefix l.options l.receipt l.time

/-- What a reply tells of a sequence. -/
inductive Occurrence
  | started (launch : Launch)
  | told (token : String) (stopping : Bool) (status : TaskStatus) (time : Timestamp)
  | failed (token : String) (payload : ErrorPayload)
  | forceStopped (receipt : HealReceipt)

def Occurrence.ofStatus? (token : String) (stopping : Bool) (time : Timestamp) :
    Except AdminError TaskStatus → Option Occurrence
  | .ok status => some (.told token stopping status time)
  | .error (.server payload) => some (.failed token payload)
  | .error _ => none

def Operation.occurrence? (op : Operation) (a : Arrival) : Option Occurrence :=
  match op with
  | .start bucket objectPrefix options forceStart =>
    (readReceipt a.reply).toOption.map fun receipt =>
      .started ⟨bucket, objectPrefix, options, forceStart, receipt, a.time⟩
  | .poll token | .pollUntilDone token =>
    Occurrence.ofStatus? token false a.time (readStatus a.reply)
  | .stop token => Occurrence.ofStatus? token true a.time (readStatus a.reply)
  | .forceStop _ _ => (readReceipt a.reply).toOption.map .forceStopped
  | .get _ => none

def answers : Nat → Script → List Arrival
  | 0, _ => []
  | n + 1, script => nextArrival script :: answers n script.tail

theorem filterMap_answers_succ (read : Arrival → Option Occurrence) (n : Nat) (script : Script) :
    (answers (n + 1) script).filterMap read =
      (read (nextArrival script)).toList ++ (answers n script.tail).filterMap read := by
  rw [answers, List.filterMap_cons]
  cases read (nextArrival script) <;> rfl

theorem filterMap_answers_one (read : Arrival → Option Occurrence) (script : Script) :
    (answers 1 script).filterMap read = (read (nextArrival script)).toList := by
  rw [filterMap_answers_succ, answers, List.filterMap_nil, List.append_nil]

theorem filterMap_answers_of_status {token : String} {a : Arrival} {status : TaskStatus}
    (h : readStatus a.reply = .ok status) (n : Nat) (rest : Script) :
    (answers (n + 1) (a :: rest)).filterMap (Operation.pollUntilDone token).occurrence? =
      .told token false status a.time ::
        (answers n rest).filterMap (Operation.pollUntilDone token).occurrence? := by
  have hfirst : (Operation.pollUntilDone token).occurrence? a =
      some (.told token false status a.time) := by
    rw [Operation.occurrence?, h, Occurrence.ofStatus?]
  rw [filterMap_answers_succ, nextArrival, List.headD_cons, hfirst]
  rfl

def Operation.occurrences (op : Operation) (table : Table) (script : Script) : List Occurrence :=
  (answers (op.perform table script).requests.length script).filterMap op.occurrence?

/-- The occurrences of operations that are carried out one after the other. -/
def history : List Operation → Table → Script → List Occurrence
  | [], _, _ => []
  | op :: rest, table, script =>
    let run := op.perform table script
    op.occurrences table script ++ history rest run.result.table run.rest

def tableAfter (ops : List Operation) (table : Table) (script : Script) : Table :=
  ((performAll ops table script).map fun run => run.result.table).getLastD table

def scriptAfter (ops : List Operation) (table : Table) (script : Script) : Script :=
  ((performAll ops table script).map Run.rest).getLastD script

@[simp] theorem tableAfter_nil (table : Table) (script : Script) :
    tableAfter [] table script = table := rfl

@[simp] theorem scriptAfter_nil (table : Table) (script : Script) :
    scriptAfter [] table script = script := rfl

theorem tableAfter_cons (op : Operation) (ops : List Operation) (table : Table) (script : Script) :
    tableAfter (op :: ops) table script =
      tableAfter ops (op.perform table script).result.table (op.perform table script).rest := by
  simp only [tableAfter, performAll, List.map_cons, List.getLastD_cons]

theorem scriptAfter_cons (op : Operation) (ops : List Operation) (table : Table)
    (script : Script) :
    scriptAfter (op :: ops) table script =
      scriptAfter ops (op.perform table script).result.table (op.perform table script).rest := by
  simp only [scriptAfter, performAll, List.map_cons, List.getLastD_cons]

theorem tableAfter_concat (ops : List Operation) (op : Operation) (table : Table)
    (script : Script) :
    tableAfter (ops ++ [op]) table script =
      (op.perform (tableAfter ops table script) (scriptAfter ops table script)).result.table := by
  induction ops generalizing table script with
  | nil => rfl
  | cons first ops ih =>
    simp only [List.cons_append, tableAfter_cons, scriptAfter_cons, ih]

theorem history_concat (ops : List Operation) (op : Operation) (table : Table)
    (script : Script) :
    history (ops ++ [op]) table script =
      history ops table script ++
        op.occurrences (tableAfter ops table script) (scriptAfter ops table script) := by
  induction ops generalizing table script with
  | nil => simp [history]
  | cons first ops ih =>
    simp only [List.cons_append, history, ih, tableAfter_cons, scriptAfter_cons,
      List.append_assoc]

/-- What an occurrence makes of the entry of a token. -/
def Occurrence.effect (token : String) : Occurrence → Option Sequence → Option Sequence
  | .started l, entry =>
    if l.receipt.clientToken = token then some l.sequence
    else if l.forced then entry.filter fun s => !s.isOn l.bucket l.objectPrefix
    else entry
  | .told owner stopping status time, entry =>
    if owner = token then
      if stopping || status.summary ∈ endSummaries then none
      else entry.map fun s => s.afterStatus status time
    else entry
  | .failed owner _, entry => if owner = token then none else entry
  | .forceStopped receipt, entry => if receipt.clientToken = token then none else entry

def effects (token : String) (h : List Occurrence) (entry : Option Sequence) : Option Sequence :=
  h.foldl (fun entry o => o.effect token entry) entry

@[simp] theorem effects_append (token : String) (h h' : List Occurrence)
    (entry : Option Sequence) :
    effects token (h ++ h') entry = effects token h' (effects token h entry) :=
  List.foldl_append

@[simp] theorem effects_nil (token : String) (entry : Option Sequence) :
    effects token [] entry = entry := rfl

@[simp] theorem effects_cons (token : String) (o : Occurrence) (h : List Occurrence)
    (entry : Option Sequence) :
    effects token (o :: h) entry = effects token h (o.effect token entry) := rfl

section
variable (table : Table) (bucket objectPrefix token other : String)

theorem get?_afterStart (options : HealOptions) (forceStart : Bool) (now : Timestamp)
    (result : Except AdminError HealReceipt) :
    (table.afterStart bucket objectPrefix options forceStart now result).table.get? other =
      effects other (result.toOption.map fun receipt => Occurrence.started
        ⟨bucket, objectPrefix, options, forceStart, receipt, now⟩).toList (table.get? other) := by
  cases result with
  | error error => rfl
  | ok receipt =>
    by_cases ht : receipt.clientToken = other
    · simp [Table.afterStart, Except.toOption, Occurrence.effect, Launch.sequence, ht]
    · cases forceStart <;>
        simp [Table.afterStart, Table.without, Except.toOption, Occurrence.effect, ht]

theorem get?_afterForceStop (result : Except AdminError HealReceipt) :
    (table.afterForceStop bucket objectPrefix result).table.get? other =
      effects other (result.toOption.map Occurrence.forceStopped).toList (table.get? other) := by
  cases result with
  | error error => rfl
  | ok receipt => simp [Table.afterForceStop, Except.toOption, Occurrence.effect]

theorem get?_afterAnswer {s : Sequence} (hs : table.get? token = some s) (now : Timestamp)
    (result : Except AdminError TaskStatus) :
    (table.afterAnswer token s now result).table.get? other =
      effects other (Occurrence.ofStatus? token false now result).toList (table.get? other) := by
  cases result with
  | error error =>
    rw [(table.afterAnswer_error token s now error).2]
    cases error <;> simp [Occurrence.ofStatus?, Occurrence.effect]
  | ok status =>
    rw [(table.afterAnswer_ok token s now status).2]
    by_cases ho : token = other
    · subst ho
      by_cases h : status.summary ∈ endSummaries <;>
        simp [Occurrence.ofStatus?, Occurrence.effect, h, hs]
    · by_cases h : status.summary ∈ endSummaries <;>
        simp [Occurrence.ofStatus?, Occurrence.effect, h, ho]

theorem get?_afterStop (s : Sequence) (now : Timestamp) (result : Except AdminError TaskStatus) :
    (table.afterStop token s now result).table.get? other =
      effects other (Occurrence.ofStatus? token true now result).toList (table.get? other) := by
  cases result with
  | error error =>
    rw [Table.afterStop_error, (table.afterAnswer_error token s now error).2]
    cases error <;> simp [Occurrence.ofStatus?, Occurrence.effect]
  | ok status =>
    rw [(table.afterStop_ok token s now status).2]
    simp [Occurrence.ofStatus?, Occurrence.effect]

/-- Asking again and again adds up what the single answers tell. -/
theorem get?_pollUntilDone (script : Script) :
    (Table.pollUntilDone token table script).result.table.get? other =
      effects other
        ((answers (Table.pollUntilDone token table script).requests.length script).filterMap
          (Operation.pollUntilDone token).occurrence?)
        (table.get? other) := by
  refine table.pollUntilDone_induction token (motive := fun table script run =>
    run.result.table.get? other = effects other
      ((answers run.requests.length script).filterMap (Operation.pollUntilDone token).occurrence?)
      (table.get? other)) ?_ ?_ ?_ script
  · intro table script cause _
    rfl
  · intro table script s a hs _ ha _
    rw [List.length_singleton, filterMap_answers_one, ← ha]
    exact get?_afterAnswer table token other hs a.time (readStatus a.reply)
  · intro table a rest s status run hs _ hstatus hrun ih
    -- the status that is told first is the one that the table of the rest holds
    have hstep := get?_afterAnswer table token other hs a.time (.ok status)
    rw [(table.afterAnswer_ok token s a.time status).2, if_neg hrun] at hstep
    rw [List.length_cons, filterMap_answers_of_status hstatus, ih, hstep]
    rfl

end

theorem Operation.occurrences_of_asks {op : Operation} {table : Table} {script : Script}
    {request : Request} (h : (op.perform table script).requests = [request]) :
    op.occurrences table script = (op.occurrence? (nextArrival script)).toList := by
  rw [Operation.occurrences, h, List.length_singleton, filterMap_answers_one]

section
variable (table : Table) (script : Script) (bucket objectPrefix token : String)

/-- A start tells of a sequence exactly if it succeeds. -/
theorem occurrences_start_iff (options : HealOptions) (forceStart : Bool) (receipt : HealReceipt) :
    (Operation.start bucket objectPrefix options forceStart).occurrences table script =
        [.started ⟨bucket, objectPrefix, options, forceStart, receipt,
          (nextArrival script).time⟩] ↔
      ((Operation.start bucket objectPrefix options forceStart).perform table script).result.result
        = .ok (.receipt receipt) := by
  have hp := Operation.perform_start table script bucket objectPrefix options forceStart
  rw [Operation.occurrences_of_asks (by rw [hp]), hp, Operation.occurrence?]
  cases readReceipt (nextArrival script).reply with
  | error error => simp [Table.afterStart, Outcome.failed, Outcome.map, Except.map, Except.toOption]
  | ok receipt' => simp [Table.afterStart, Outcome.map, Except.map, Except.toOption]

theorem occurrences_forceStop_iff (receipt : HealReceipt) :
    (Operation.forceStop bucket objectPrefix).occurrences table script = [.forceStopped receipt] ↔
      ((Operation.forceStop bucket objectPrefix).perform table script).result.result =
        .ok (.receipt receipt) := by
  have hp := Operation.perform_forceStop table script bucket objectPrefix
  rw [Operation.occurrences_of_asks (by rw [hp]), hp, Operation.occurrence?]
  cases readReceipt (nextArrival script).reply with
  | error error =>
    simp [Table.afterForceStop, Outcome.failed, Outcome.map, Except.map, Except.toOption]
  | ok receipt' => simp [Table.afterForceStop, Outcome.map, Except.map, Except.toOption]

/-- A question tells of a failure exactly if it ends in an error that the server reports. -/
theorem occurrences_poll_iff (payload : ErrorPayload) :
    (Operation.poll token).occurrences table script = [.failed token payload] ↔
      ((Operation.poll token).perform table script).result.result = .error (.server payload) := by
  rcases Operation.perform_poll_cases token table script with ⟨cause, hp⟩ | ⟨s, hs, hp⟩
  · rw [Operation.occurrences, hp]
    simp [answers, Outcome.refused, Outcome.failed]
  · rw [Operation.occurrences_of_asks (by rw [hp]), hp, Operation.occurrence?]
    cases readStatus (nextArrival script).reply with
    | ok status =>
      simp [Occurrence.ofStatus?, Outcome.map, Except.map,
        (table.afterAnswer_ok token s _ status).1]
    | error error =>
      simp only [Outcome.map, (table.afterAnswer_error token s _ error).1]
      cases error <;> simp [Occurrence.ofStatus?, Except.map]

theorem occurrences_stop_iff (payload : ErrorPayload) :
    (Operation.stop token).occurrences table script = [.failed token payload] ↔
      ((Operation.stop token).perform table script).result.result = .error (.server payload) := by
  rcases Operation.perform_stop_cases token table script with ⟨cause, hp⟩ | ⟨s, hs, hp⟩
  · rw [Operation.occurrences, hp]
    simp [answers, Outcome.refused, Outcome.failed]
  · rw [Operation.occurrences_of_asks (by rw [hp]), hp, Operation.occurrence?]
    cases readStatus (nextArrival script).reply with
    | ok status =>
      simp [Occurrence.ofStatus?, Outcome.map, Except.map, (table.afterStop_ok token s _ status).1]
    | error error =>
      simp only [Outcome.map, Table.afterStop_error, (table.afterAnswer_error token s _ error).1]
      cases error <;> simp [Occurrence.ofStatus?, Except.map]

end

/-- The entry of a token after an operation depends on the occurrences alone. -/
theorem get?_perform (op : Operation) (table : Table) (script : Script) (token : String) :
    (op.perform table script).result.table.get? token =
      effects token (op.occurrences table script) (table.get? token) := by
  cases op with
  | start bucket objectPrefix options forceStart =>
    have hp := Operation.perform_start table script bucket objectPrefix options forceStart
    rw [Operation.occurrences_of_asks (by rw [hp]), hp]
    exact get?_afterStart table bucket objectPrefix token options forceStart _ _
  | poll owner =>
    rcases Operation.perform_poll_cases owner table script with ⟨cause, hp⟩ | ⟨s, hs, hp⟩
    · rw [Operation.occurrences, hp]
      rfl
    · rw [Operation.occurrences_of_asks (by rw [hp]), hp]
      exact get?_afterAnswer table owner token hs _ _
  | stop owner =>
    rcases Operation.perform_stop_cases owner table script with ⟨cause, hp⟩ | ⟨s, hs, hp⟩
    · rw [Operation.occurrences, hp]
      rfl
    · rw [Operation.occurrences_of_asks (by rw [hp]), hp]
      exact get?_afterStop table owner token s _ _
  | forceStop bucket objectPrefix =>
    have hp := Operation.perform_forceStop table script bucket objectPrefix
    rw [Operation.occurrences_of_asks (by rw [hp]), hp]
    exact get?_afterForceStop table bucket objectPrefix token _
  | pollUntilDone owner => exact get?_pollUntilDone table owner token script
  | get owner => rfl

/-- The entry of a token after a run depends on the history alone. -/
theorem get?_tableAfter (ops : List Operation) (table : Table) (script : Script)
    (token : String) :
    (tableAfter ops table script).get? token =
      effects token (history ops table script) (table.get? token) := by
  induction ops generalizing table script with
  | nil => rfl
  | cons op ops ih => rw [tableAfter_cons, ih, get?_perform, history, effects_append]

end HealControl.Session
