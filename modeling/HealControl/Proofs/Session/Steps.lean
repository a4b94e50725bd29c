import HealControl.Session.Operation

/-!
# What an operation can do

A start and a forced stop always send a request. A poll and a stop are refused for a token without
an entry, and for one that is empty; else they send one request, and the entry meets the answer.
-/
namespace HealControl.Session

open HealControl.Admin
open HealControl.Heal
open HealControl.Time (Timestamp)

def readReceipt : Reply → Except AdminError HealReceipt :=
  readReply (readBody HealReceipt.schema.codec)

def readStatus : Reply → Except AdminError TaskStatus :=
  readReply (readBody TaskStatus.schema.codec)

def endSummaries : List String :=
  [Summary.finished.text, Summary.stopped.text, Summary.failed.text]

def Sequence.request (s : Sequence) (token : String) (stopping : Bool) : Request :=
  (HealCall.mk s.bucket s.objectPrefix default token false stopping).request

theorem isTerminal_ofStatus (summary failureDetail : String) :
    (SequenceState.ofStatus summary failureDetail).isTerminal ↔ summary ∈ endSummaries := by
  simp only [SequenceState.ofStatus, endSummaries, List.mem_cons, List.not_mem_nil, or_false]
  split
  · simp [SequenceState.isTerminal, *]
  · split
    · split <;> simp [SequenceState.isTerminal, *]
    · split <;> simp [SequenceState.isTerminal, *]

theorem ofStatus_eq_running {summary : String} (failureDetail : String)
    (h : summary ∉ endSummaries) : SequenceState.ofStatus summary failureDetail = .running := by
  simp only [endSummaries, List.mem_cons, List.not_mem_nil, or_false, not_or] at h
  rw [SequenceState.ofStatus, if_neg h.1, if_neg h.2.1, if_neg h.2.2]

theorem isTerminal_afterStatus (s : Sequence) (status : TaskStatus) (now : Timestamp) :
    (s.afterStatus status now).state.isTerminal ↔ status.summary ∈ endSummaries :=
  isTerminal_ofStatus status.summary status.failureDetail

def nextArrival (script : Script) : Arrival :=
  script.headD Script.exhausted

theorem run_asks {β : Type} (request : Request) (next : Arrival → β) (script : Script) :
    (Plan.asks request next).run script =
      ⟨next (nextArrival script), [request], script.tail⟩ := by
  cases script <;> rfl

theorem run_settled {β : Type} (b : β) (script : Script) :
    (Plan.settled b).run script = ⟨b, [], script⟩ := rfl

namespace Table

variable (table : Table) (bucket objectPrefix : String) (token : String)

theorem start_eq (options : HealOptions) (forceStart : Bool) :
    table.start bucket objectPrefix options forceStart =
      .asks (HealCall.mk bucket objectPrefix options "" forceStart false).request fun a =>
        table.afterStart bucket objectPrefix options forceStart a.time (readReceipt a.reply) := by
  simp [start, startHeal, HealCall.send, Call.plan, readReceipt]

theorem forceStop_eq :
    table.forceStop bucket objectPrefix =
      .asks (HealCall.mk bucket objectPrefix default "" false true).request fun a =>
        table.afterForceStop bucket objectPrefix (readReceipt a.reply) := by
  simp [forceStop, forceStopHeal, HealCall.send, Call.plan, readReceipt]

theorem poll_eq :
    table.poll token =
      match table.get? token with
      | none => .settled (.refused table (.unknownSequence token))
      | some s =>
        if token.isEmpty then .settled (.refused table .tokenRequired)
        else .asks (s.request token false) fun a =>
          table.afterAnswer token s a.time (readStatus a.reply) := by
  cases hs : table.get? token with
  | none => rw [poll, hs]
  | some s =>
    cases he : token.isEmpty <;>
      simp [poll, hs, healStatus, he, HealCall.send, Call.plan, readStatus, Sequence.request]

theorem stop_eq :
    table.stop token =
      match table.get? token with
      | none => .settled (.refused table (.unknownSequence token))
      | some s =>
        if token.isEmpty then .settled (.refused table .tokenRequired)
        else .asks (s.request token true) fun a =>
          table.afterStop token s a.time (readStatus a.reply) := by
  cases hs : table.get? token with
  | none => rw [stop, hs]
  | some s =>
    cases he : token.isEmpty <;>
      simp [stop, hs, stopHeal, he, HealCall.send, Call.plan, readStatus, Sequence.request]

theorem poll_cases :
    (∃ cause, table.poll token = .settled (.refused table cause)) ∨
    ∃ s, table.get? token = some s ∧ token.isEmpty = false ∧
      table.poll token =
        .asks (s.request token false) fun a =>
          table.afterAnswer token s a.time (readStatus a.reply) := by
  rw [poll_eq]
  cases table.get? token with
  | none => exact Or.inl ⟨_, rfl⟩
  | some s =>
    cases token.isEmpty with
    | true => exact Or.inl ⟨_, rfl⟩
    | false => exact Or.inr ⟨s, rfl, rfl, rfl⟩

section
variable (s : Sequence) (now : Timestamp) {status : TaskStatus}

theorem afterAnswer_of_end (h : status.summary ∈ endSummaries) :
    table.afterAnswer token s now (.ok status) =
      ⟨.ok (s.afterStatus status now), table.erase token,
        [ended token (s.afterStatus status now)]⟩ := by
  rw [afterAnswer, if_pos ((isTerminal_afterStatus s status now).mpr h)]

theorem afterAnswer_of_running (h : status.summary ∉ endSummaries) :
    table.afterAnswer token s now (.ok status) =
      ⟨.ok (s.afterStatus status now), table.insert token (s.afterStatus status now), []⟩ := by
  rw [afterAnswer, if_neg (fun ht => h ((isTerminal_afterStatus s status now).mp ht))]

theorem afterStop_of_end (h : status.summary ∈ endSummaries) :
    table.afterStop token s now (.ok status) = table.afterAnswer token s now (.ok status) := by
  rw [afterStop, table.afterAnswer_of_end token s now h]
  exact if_pos ((isTerminal_afterStatus s status now).mpr h)

theorem afterStop_of_running (h : status.summary ∉ endSummaries) :
    table.afterStop token s now (.ok status) =
      ⟨.ok (s.afterStatus status now).stopped,
        (table.insert token (s.afterStatus status now)).erase token,
        [ended token (s.afterStatus status now).stopped]⟩ := by
  rw [afterStop, table.afterAnswer_of_running token s now h]
  exact if_neg (fun ht => h ((isTerminal_afterStatus s status now).mp ht))

end

theorem afterAnswer_ok (s : Sequence) (now : Timestamp) (status : TaskStatus) :
    (table.afterAnswer token s now (.ok status)).result = .ok (s.afterStatus status now) ∧
    (table.afterAnswer token s now (.ok status)).table =
      if status.summary ∈ endSummaries then table.erase token
      else table.insert token (s.afterStatus status now) := by
  by_cases h : status.summary ∈ endSummaries
  · rw [table.afterAnswer_of_end token s now h, if_pos h]
    exact ⟨rfl, rfl⟩
  · rw [table.afterAnswer_of_running token s now h, if_neg h]
    exact ⟨rfl, rfl⟩

/-- A stop that is answered with a status takes the entry out of the table. -/
theorem afterStop_ok (s : Sequence) (now : Timestamp) (status : TaskStatus) :
    (table.afterStop token s now (.ok status)).result =
      .ok (if status.summary ∈ endSummaries then s.afterStatus status now
        else (s.afterStatus status now).stopped) ∧
    ∀ other, (table.afterStop token s now (.ok status)).table.get? other =
      if token = other then none else table.get? other := by
  by_cases h : status.summary ∈ endSummaries
  · rw [table.afterStop_of_end token s now h, table.afterAnswer_of_end token s now h, if_pos h]
    refine ⟨rfl, ?_⟩
    intro other
    exact Dict.get?_erase table other token
  · rw [table.afterStop_of_running token s now h, if_neg h]
    refine ⟨rfl, ?_⟩
    intro other
    by_cases ho : token = other <;> simp [ho]

/-- An error that the server reports takes the entry out of the table; any other leaves the table
as it was. -/
theorem afterAnswer_error (s : Sequence) (now : Timestamp) (error : AdminError) :
    (table.afterAnswer token s now (.error error)).result = .error error ∧
    (table.afterAnswer token s now (.error error)).table =
      match error with
      | .server _ => table.erase token
      | _ => table := by
  cases error <;> exact ⟨rfl, rfl⟩

/-- Only a status after which the sequence still runs makes it worth to ask again. -/
theorem afterAnswer_isPending {s : Sequence} {now : Timestamp}
    {result : Except AdminError TaskStatus}
    (h : (table.afterAnswer token s now result).isPending) :
    ∃ status, result = .ok status ∧ status.summary ∉ endSummaries ∧
      table.afterAnswer token s now result =
        ⟨.ok (s.afterStatus status now), table.insert token (s.afterStatus status now), []⟩ := by
  cases result with
  | error error => simp [Outcome.isPending, (table.afterAnswer_error token s now error).1] at h
  | ok status =>
    by_cases hend : status.summary ∈ endSummaries
    · have ht := (isTerminal_afterStatus s status now).mpr hend
      rw [table.afterAnswer_of_end token s now hend] at h
      simp [Outcome.isPending, ht] at h
    · exact ⟨status, rfl, hend, table.afterAnswer_of_running token s now hend⟩

theorem afterStop_error (s : Sequence) (now : Timestamp) (error : AdminError) :
    table.afterStop token s now (.error error) = table.afterAnswer token s now (.error error) := by
  cases error <;> rfl

/-- To ask again and again: a refusal, an answer that is the last one, or a status of a running
sequence that goes into the table before the next question. -/
theorem pollUntilDone_induction {motive : Table → Script → Run (Outcome Sequence) → Prop}
    (refused : ∀ table script cause, table.poll token = .settled (.refused table cause) →
      motive table script ⟨.refused table cause, [], script⟩)
    (answered : ∀ (table : Table) (script : Script) (s : Sequence) (a : Arrival),
      table.get? token = some s → token.isEmpty = false → a = nextArrival script →
      (table.afterAnswer token s a.time (readStatus a.reply)).isPending = false →
      motive table script ⟨table.afterAnswer token s a.time (readStatus a.reply),
        [s.request token false], script.tail⟩)
    (pending : ∀ (table : Table) (a : Arrival) (rest : Script) (s : Sequence)
      (status : TaskStatus) (run : Run (Outcome Sequence)),
      table.get? token = some s → token.isEmpty = false → readStatus a.reply = .ok status →
      status.summary ∉ endSummaries →
      motive (table.insert token (s.afterStatus status a.time)) rest run →
      motive table (a :: rest) ⟨run.result, s.request token false :: run.requests, run.rest⟩)
    (script : Script) : motive table script (pollUntilDone token table script) := by
  induction script generalizing table with
  | nil =>
    rcases table.poll_cases token with ⟨cause, hp⟩ | ⟨s, hs, he, hp⟩
    · simp only [pollUntilDone, hp, run_settled]
      exact refused table [] cause hp
    · simp only [pollUntilDone, hp, run_asks]
      exact answered table [] s Script.exhausted hs he rfl rfl
  | cons a rest ih =>
    rcases table.poll_cases token with ⟨cause, hp⟩ | ⟨s, hs, he, hp⟩
    · simp only [pollUntilDone, hp]
      exact refused table (a :: rest) cause hp
    · simp only [pollUntilDone, hp]
      split
      · rename_i hpending
        obtain ⟨status, hstatus, hrun, ho⟩ := table.afterAnswer_isPending token hpending
        rw [ho]
        exact pending table a rest s status _ hs he hstatus hrun (ih _)
      · rename_i hsettled
        exact answered table (a :: rest) s a hs he rfl (Bool.eq_false_iff.mpr hsettled)

end Table

namespace Operation

variable (token : String) (table : Table) (script : Script)

theorem perform_start (bucket objectPrefix : String) (options : HealOptions) (forceStart : Bool) :
    (start bucket objectPrefix options forceStart).perform table script =
      ⟨(table.afterStart bucket objectPrefix options forceStart (nextArrival script).time
          (readReceipt (nextArrival script).reply)).map .receipt,
        [(HealCall.mk bucket objectPrefix options "" forceStart false).request], script.tail⟩ := by
  rw [perform, table.start_eq, run_asks]
  rfl

theorem perform_forceStop (bucket objectPrefix : String) :
    (forceStop bucket objectPrefix).perform table script =
      ⟨(table.afterForceStop bucket objectPrefix
          (readReceipt (nextArrival script).reply)).map .receipt,
        [(HealCall.mk bucket objectPrefix default "" false true).request], script.tail⟩ := by
  rw [perform, table.forceStop_eq, run_asks]
  rfl

theorem perform_poll :
    (poll token).perform table script =
      match table.get? token with
      | none => ⟨.refused table (.unknownSequence token), [], script⟩
      | some s =>
        if token.isEmpty then ⟨.refused table .tokenRequired, [], script⟩
        else ⟨(table.afterAnswer token s (nextArrival script).time
            (readStatus (nextArrival script).reply)).map .sequence,
          [s.request token false], script.tail⟩ := by
  rw [perform, table.poll_eq]
  cases table.get? token with
  | none => rfl
  | some s =>
    cases token.isEmpty with
    | true => rfl
    | false => exact congrArg (answering .sequence) (run_asks _ _ script)

theorem perform_stop :
    (stop token).perform table script =
      match table.get? token with
      | none => ⟨.refused table (.unknownSequence token), [], script⟩
      | some s =>
        if token.isEmpty then ⟨.refused table .tokenRequired, [], script⟩
        else ⟨(table.afterStop token s (nextArrival script).time
            (readStatus (nextArrival script).reply)).map .sequence,
          [s.request token true], script.tail⟩ := by
  rw [perform, table.stop_eq]
  cases table.get? token with
  | none => rfl
  | some s =>
    cases token.isEmpty with
    | true => rfl
    | false => exact congrArg (answering .sequence) (run_asks _ _ script)

theorem perform_poll_cases :
    (∃ cause, (poll token).perform table script = ⟨.refused table cause, [], script⟩) ∨
    ∃ s, table.get? token = some s ∧
      (poll token).perform table script =
        ⟨(table.afterAnswer token s (nextArrival script).time
            (readStatus (nextArrival script).reply)).map .sequence,
          [s.request token false], script.tail⟩ := by
  rw [perform_poll]
  cases table.get? token with
  | none => exact Or.inl ⟨_, rfl⟩
  | some s =>
    cases token.isEmpty with
    | true => exact Or.inl ⟨_, rfl⟩
    | false => exact Or.inr ⟨s, rfl, rfl⟩

theorem perform_stop_cases :
    (∃ cause, (stop token).perform table script = ⟨.refused table cause, [], script⟩) ∨
    ∃ s, table.get? token = some s ∧
      (stop token).perform table script =
        ⟨(table.afterStop token s (nextArrival script).time
            (readStatus (nextArrival script).reply)).map .sequence,
          [s.request token true], script.tail⟩ := by
  rw [perform_stop]
  cases table.get? token with
  | none => exact Or.inl ⟨_, rfl⟩
  | some s =>
    cases token.isEmpty with
    | true => exact Or.inl ⟨_, rfl⟩
    | false => exact Or.inr ⟨s, rfl, rfl⟩

end Operation

end HealControl.Session
