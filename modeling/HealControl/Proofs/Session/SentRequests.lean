import HealControl.Proofs.Admin.HealRequests
import HealControl.Proofs.Session.RepeatedPolls
import HealControl.Proofs.Session.Reports

/-!
# What is sent for a sequence

A request with a token is a question about the sequence of that token, or stops it. It is sent only
while the token has an entry, and goes to the path of the last start that returned the token. All
other requests start something or stop whatever runs on a path; they have no token, and options as
their content. An operation on a token without an entry sends nothing.
-/
namespace HealControl.Session

open HealControl.Admin
open HealControl.Heal
open HealControl.Time (Timestamp)

/-! ## The requests of starts -/

def Launch.request (l : Launch) : Request :=
  (HealCall.mk l.bucket l.objectPrefix l.options "" l.forced false).request

def Operation.startRequests (token : String) (op : Operation) (table : Table) (script : Script) :
    List Request :=
  match op, (op.perform table script).result.result with
  | .start _ _ _ _, .ok (.receipt receipt) =>
    if receipt.clientToken = token then (op.perform table script).requests else []
  | _, _ => []

def startRequests (token : String) : List Operation → Table → Script → List Request
  | [], _, _ => []
  | op :: rest, table, script =>
    let run := op.perform table script
    op.startRequests token table script ++ startRequests token rest run.result.table run.rest

def Occurrence.launch? (token : String) : Occurrence → Option Launch
  | .started l => if l.receipt.clientToken = token then some l else none
  | _ => none

theorem launch?_eq_none_of_not_starts {token : String} {o : Occurrence} (h : ¬ o.Starts token) :
    o.launch? token = none := by
  cases o with
  | started l => exact if_neg h
  | _ => rfl

theorem filterMap_launch?_eq_nil {token : String} {h : List Occurrence}
    (hstart : ∀ o ∈ h, ¬ o.Starts token) : h.filterMap (Occurrence.launch? token) = [] :=
  List.filterMap_eq_nil_iff.mpr fun o ho => launch?_eq_none_of_not_starts (hstart o ho)

theorem LastStart.getLast?_launches {token : String} {h later : List Occurrence} {l : Launch}
    (hl : LastStart token h l later) :
    (h.filterMap (Occurrence.launch? token)).getLast? = some l := by
  obtain ⟨before, rfl⟩ := hl.split
  have hlaunch : (Occurrence.started l).launch? token = some l := if_pos hl.returned
  rw [List.filterMap_append, List.filterMap_cons, hlaunch, filterMap_launch?_eq_nil hl.last]
  exact List.getLast?_concat

section
variable (token : String) (table : Table) (script : Script)

theorem startRequests_start (bucket objectPrefix : String) (options : HealOptions)
    (forceStart : Bool) :
    let op := Operation.start bucket objectPrefix options forceStart
    op.startRequests token table script =
      ((op.occurrences table script).filterMap (Occurrence.launch? token)).map Launch.request := by
  intro op
  have hp := Operation.perform_start table script bucket objectPrefix options forceStart
  have hsent : (op.perform table script).requests =
      [(HealCall.mk bucket objectPrefix options "" forceStart false).request] := by rw [hp]
  rw [Operation.occurrences_of_asks hsent, Operation.occurrence?]
  unfold Operation.startRequests
  rw [hsent, hp]
  cases readReceipt (nextArrival script).reply with
  | error error => rfl
  | ok receipt =>
    by_cases ht : receipt.clientToken = token <;>
      simp [op, Table.afterStart, Outcome.map, Except.map, Except.toOption, Occurrence.launch?,
        Launch.request, ht]

theorem startRequests_of_not_starts {op : Operation}
    (hop : op.startRequests token table script = [])
    (hstart : ∀ o ∈ op.occurrences table script, ¬ o.Starts token) :
    op.startRequests token table script =
      ((op.occurrences table script).filterMap (Occurrence.launch? token)).map Launch.request := by
  rw [hop, filterMap_launch?_eq_nil hstart, List.map_nil]

theorem startRequests_perform (op : Operation) :
    op.startRequests token table script =
      ((op.occurrences table script).filterMap (Occurrence.launch? token)).map Launch.request := by
  cases op with
  | start bucket objectPrefix options forceStart =>
    exact startRequests_start token table script bucket objectPrefix options forceStart
  | forceStop bucket objectPrefix =>
    refine startRequests_of_not_starts token table script rfl ?_
    intro o ho
    obtain ⟨a, -, hread⟩ := List.mem_filterMap.mp ho
    obtain ⟨receipt, -, rfl⟩ := Option.map_eq_some_iff.mp hread
    exact id
  | get owner => rfl
  | poll owner =>
    exact startRequests_of_not_starts token table script rfl (not_starts_of_mem_occurrences rfl)
  | stop owner =>
    exact startRequests_of_not_starts token table script rfl (not_starts_of_mem_occurrences rfl)
  | pollUntilDone owner =>
    exact startRequests_of_not_starts token table script rfl (not_starts_of_mem_occurrences rfl)

theorem startRequests_eq (ops : List Operation) :
    startRequests token ops table script =
      ((history ops table script).filterMap (Occurrence.launch? token)).map Launch.request := by
  induction ops generalizing table script with
  | nil => rfl
  | cons op ops ih =>
    rw [startRequests, history, startRequests_perform, ih, List.filterMap_append, List.map_append]

end

/-- The entry of a token is on the path of the last start that returned the token. -/
theorem path_of_get?_tableAfter {ops : List Operation} {script : Script} {token : String}
    {s : Sequence} (hs : (tableAfter ops .empty script).get? token = some s) :
    ∃ start, (startRequests token ops .empty script).getLast? = some start ∧
      start.path = healPath s.bucket s.objectPrefix := by
  obtain ⟨l, later, hl, -, rfl⟩ := (get?_tableAfter_eq_some_iff ops script token s).mp hs
  refine ⟨l.request, ?_, rfl⟩
  rw [startRequests_eq, List.getLast?_map, hl.getLast?_launches]
  rfl

/-! ## The requests of an operation -/

/-- A request for the entry of a token, sent after operations by the one that asks. -/
structure SentForEntry (ops : List Operation) (script : Script) (asking : Operation)
    (token : String) (request : Request) : Prop where
  asks : asking = .poll token ∨ asking = .stop token
  sent : (asking.perform (tableAfter ops .empty script)
    (scriptAfter ops .empty script)).requests = [request]
  entry : token ∈ (tableAfter ops .empty script).keys
  path : ∃ start, (startRequests token ops .empty script).getLast? = some start ∧
    request.path = start.path
  content : request.content = ""
  unforced : ∀ value, ("forceStart", value) ∉ request.query

def Operation.options : Operation → HealOptions
  | .start _ _ options _ => options
  | _ => default

theorem request_of_token {token : String} (he : token.isEmpty = false) (s : Sequence)
    (stopping : Bool) :
    s.request token stopping =
      ⟨healPath s.bucket s.objectPrefix,
        ("clientToken", token) :: if stopping then [("forceStop", "true")] else [], ""⟩ := by
  simp [Sequence.request, HealCall.request, HealCall.query, he]

theorem token_of_mem_query {token other : String} {s : Sequence} {stopping : Bool}
    (h : ("clientToken", other) ∈ (s.request token stopping).query) : other = token :=
  ((token_mem_query_iff _ other).mp h).1

theorem token_mem_query {token : String} (he : token.isEmpty = false) (s : Sequence)
    (stopping : Bool) : ("clientToken", token) ∈ (s.request token stopping).query :=
  (token_mem_query_iff _ token).mpr ⟨rfl, by simpa using he⟩

theorem token_not_mem_query (bucket objectPrefix : String) (options : HealOptions)
    (forceStart forceStop : Bool) (token : String) :
    ("clientToken", token) ∉
      (HealCall.mk bucket objectPrefix options "" forceStart forceStop).request.query :=
  fun h => ((token_mem_query_iff _ token).mp h).2 rfl

/-- What one operation sends at most: a request without a token and with its options, or one for
the entry of the token that it asks for. -/
theorem requests_perform_cases {op : Operation} (hop : ∀ token, op ≠ .pollUntilDone token)
    (table : Table) (script : Script) :
    (op.perform table script).requests = [] ∨
    (∃ request, (op.perform table script).requests = [request] ∧
      (∀ token, ("clientToken", token) ∉ request.query) ∧
      request.content = (HealOptions.schema.codec.encode op.options).render) ∨
    ∃ token s stopping, op = (if stopping then .stop token else .poll token) ∧
      table.get? token = some s ∧ token.isEmpty = false ∧
      (op.perform table script).requests = [s.request token stopping] := by
  cases op with
  | start bucket objectPrefix options forceStart =>
    rw [Operation.perform_start]
    exact Or.inr (Or.inl ⟨_, rfl, token_not_mem_query _ _ _ _ _, rfl⟩)
  | forceStop bucket objectPrefix =>
    rw [Operation.perform_forceStop]
    exact Or.inr (Or.inl ⟨_, rfl, token_not_mem_query _ _ _ _ _, rfl⟩)
  | poll token =>
    rw [Operation.perform_poll]
    cases hs : table.get? token with
    | none => exact Or.inl rfl
    | some s =>
      cases he : token.isEmpty with
      | true => exact Or.inl rfl
      | false => exact Or.inr (Or.inr ⟨token, s, false, rfl, hs, he, rfl⟩)
  | stop token =>
    rw [Operation.perform_stop]
    cases hs : table.get? token with
    | none => exact Or.inl rfl
    | some s =>
      cases he : token.isEmpty with
      | true => exact Or.inl rfl
      | false => exact Or.inr (Or.inr ⟨token, s, true, rfl, hs, he, rfl⟩)
  | pollUntilDone token => exact absurd rfl (hop token)
  | get token => exact Or.inl rfl

/-- The requests of asking until the end are those of the single questions. -/
theorem question_of_mem_requests (token : String) (table : Table) (script : Script) {i : Nat}
    {request : Request}
    (h : ((Operation.pollUntilDone token).perform table script).requests[i]? = some request) :
    (question token table script i).requests = [request] := by
  refine table.pollUntilDone_induction token (motive := fun table script run =>
    ∀ i request, run.requests[i]? = some request →
      (question token table script i).requests = [request]) ?_ ?_ ?_ script i request h
  · intro table script cause _ i request h
    cases h
  · intro table script s a hs he _ _ i request h
    cases i with
    | zero =>
      obtain rfl := Option.some.inj h
      rw [question_zero_of_get? hs he]
    | succ i => cases h
  · intro table a rest s status run hs he hstatus hrun ih i request h
    have hquestion := (question_zero_of_running hs he hstatus hrun rest).1
    cases i with
    | zero =>
      obtain rfl := Option.some.inj h
      rw [hquestion]
    | succ i =>
      rw [question_succ, hquestion]
      exact ih i request h

theorem sentForEntry_of_mem_query {ops : List Operation} {script : Script} {asking : Operation}
    {token : String} {request : Request}
    (hasking : ∀ owner, asking ≠ .pollUntilDone owner)
    (hsent : (asking.perform (tableAfter ops .empty script)
      (scriptAfter ops .empty script)).requests = [request])
    (htoken : ("clientToken", token) ∈ request.query) :
    SentForEntry ops script asking token request := by
  rcases requests_perform_cases hasking (tableAfter ops .empty script)
    (scriptAfter ops .empty script) with hnone | ⟨request', hone, hwithout, -⟩ |
      ⟨owner, s, stopping, rfl, hs, he, hone⟩
  · rw [hnone] at hsent
    cases hsent
  · obtain rfl := List.singleton_inj.mp (hone.symm.trans hsent)
    exact absurd htoken (hwithout token)
  · obtain rfl := List.singleton_inj.mp (hone.symm.trans hsent)
    obtain rfl := token_of_mem_query htoken
    obtain ⟨start, hstart, hpath⟩ := path_of_get?_tableAfter hs
    exact {
      asks := by cases stopping <;> simp
      sent := hone
      entry := (Dict.mem_keys_iff _ token).mpr ⟨s, hs⟩
      path := ⟨start, hstart, by rw [request_of_token he, hpath]⟩
      content := by rw [request_of_token he]
      unforced := by
        intro value
        rw [request_of_token he]
        cases stopping <;> simp }

theorem perform_of_not_mem_keys {op : Operation} {token : String} {table : Table}
    (hop : op.asked? = some token) (h : token ∉ table.keys) (script : Script) :
    op.perform table script = ⟨.refused table (.unknownSequence token), [], script⟩ := by
  have hnone : table.get? token = none := (Dict.get?_eq_none_iff table token).mpr h
  cases op with
  | poll owner =>
    obtain rfl : owner = token := Option.some.inj hop
    rw [Operation.perform_poll, hnone]
  | stop owner =>
    obtain rfl : owner = token := Option.some.inj hop
    rw [Operation.perform_stop, hnone]
  | pollUntilDone owner =>
    obtain rfl : owner = token := Option.some.inj hop
    have hp : table.poll owner = .settled (.refused table (.unknownSequence owner)) := by
      rw [Table.poll_eq, hnone]
    cases script <;> simp only [Operation.perform, Table.pollUntilDone, hp] <;> rfl
  | _ => cases hop

theorem length_requests_perform {op : Operation} (hop : ∀ token, op ≠ .pollUntilDone token)
    (table : Table) (script : Script) : (op.perform table script).requests.length ≤ 1 := by
  rcases requests_perform_cases hop table script with hnone | ⟨request, hone, -⟩ |
    ⟨token, s, stopping, -, -, -, hone⟩
  · simp [hnone]
  · simp [hone]
  · simp [hone]

theorem eq_singleton_of_getElem? {requests : List Request} {i : Nat} {request : Request}
    (hlength : requests.length ≤ 1) (h : requests[i]? = some request) :
    i = 0 ∧ requests = [request] := by
  obtain ⟨hi, hget⟩ := List.getElem?_eq_some_iff.mp h
  obtain rfl : i = 0 := by omega
  obtain ⟨first, rfl⟩ := List.length_eq_one_iff.mp (Nat.le_antisymm hlength hi)
  exact ⟨rfl, congrArg (fun r => [r]) hget⟩

theorem content_of_not_mem_query {op : Operation} (hop : ∀ token, op ≠ .pollUntilDone token)
    {table : Table} {script : Script} {request : Request}
    (hsent : (op.perform table script).requests = [request])
    (hwithout : ∀ token, ("clientToken", token) ∉ request.query) :
    request.content = (HealOptions.schema.codec.encode op.options).render := by
  rcases requests_perform_cases hop table script with hnone | ⟨request', hone, -, hcontent⟩ |
    ⟨token, s, stopping, -, -, he, hone⟩
  · rw [hnone] at hsent
    cases hsent
  · obtain rfl := List.singleton_inj.mp (hone.symm.trans hsent)
    exact hcontent
  · obtain rfl := List.singleton_inj.mp (hone.symm.trans hsent)
    exact absurd (token_mem_query he s stopping) (hwithout token)

/-- Of the requests of an operation after others, each one with a token is sent by a question about
the sequence of that token or by a stop of it, while the token has an entry, to the path of the last
start that returned it; all others have no token and the options of the operation. -/
theorem requests_of_run (ops : List Operation) (script : Script) (op : Operation) :
    let table := tableAfter ops .empty script
    let rest := scriptAfter ops .empty script
    let run := op.perform table rest
    (∀ i request, run.requests[i]? = some request →
      (∀ token, ("clientToken", token) ∈ request.query →
        ∃ asking, (op = asking ∨ op = .pollUntilDone token ∧ asking = .poll token) ∧
          SentForEntry (ops ++ polls token i) script asking token request) ∧
      ((∀ token, ("clientToken", token) ∉ request.query) →
        request.content = (HealOptions.schema.codec.encode op.options).render)) ∧
    (∀ token, op.asked? = some token → token ∉ table.keys →
      run = ⟨.refused table (.unknownSequence token), [], rest⟩) ∧
    ((∀ token, op ≠ .pollUntilDone token) → run.requests.length ≤ 1) := by
  intro table rest run
  refine ⟨?_, ?_, ?_⟩
  · intro i request hrequest
    by_cases huntil : ∃ owner, op = .pollUntilDone owner
    · -- each of its requests is that of a single question, asked after those before it
      obtain ⟨owner, rfl⟩ := huntil
      have hquestion := question_of_mem_requests owner table rest hrequest
      have hpoll : ∀ token, Operation.poll owner ≠ .pollUntilDone token := nofun
      constructor
      · intro token htoken
        rw [question, ← tableAfter_append, ← scriptAfter_append] at hquestion
        have hentry := sentForEntry_of_mem_query hpoll hquestion htoken
        obtain rfl : owner = token := by simpa using hentry.asks
        exact ⟨.poll owner, Or.inr ⟨rfl, rfl⟩, hentry⟩
      · exact content_of_not_mem_query hpoll hquestion
    · have hop : ∀ owner, op ≠ .pollUntilDone owner := fun owner h => huntil ⟨owner, h⟩
      obtain ⟨rfl, hsent⟩ := eq_singleton_of_getElem? (length_requests_perform hop table rest)
        hrequest
      constructor
      · intro token htoken
        have hentry := sentForEntry_of_mem_query hop hsent htoken
        exact ⟨op, Or.inl rfl, (List.append_nil ops).symm ▸ hentry⟩
      · exact content_of_not_mem_query hop hsent
  · intro token hop hmem
    exact perform_of_not_mem_keys hop hmem rest
  · intro hop
    exact length_requests_perform hop table rest

/-- A sequence is started and asked for until its end, and another token was never returned. -/
theorem requests_of_photoRun :
    let start := Operation.start "photos" "2021" default false
    let finished : TaskStatus := { photoStatus "b.png" with summary := Summary.finished.text }
    let script := [written HealReceipt.schema.codec photoLaunch.receipt,
      written TaskStatus.schema.codec (photoStatus "a.png"),
      written TaskStatus.schema.codec finished]
    let table := tableAfter [start] .empty script
    let rest := scriptAfter [start] .empty script
    let request : Request := ⟨"/hulk/admin/v3/heal/photos/2021", [("clientToken", "t1")], ""⟩
    ((Operation.pollUntilDone "t1").perform table rest).requests[1]? = some request ∧
    ("clientToken", "t1") ∈ request.query ∧
    SentForEntry ([start] ++ polls "t1" 1) script (.poll "t1") "t1" request ∧
    (start.perform .empty script).requests[0]? = some photoLaunch.request ∧
    (∀ token, ("clientToken", token) ∉ photoLaunch.request.query) ∧
    photoLaunch.request.content = (HealOptions.schema.codec.encode default).render ∧
    (Operation.stop "t2").asked? = some "t2" ∧ "t2" ∉ table.keys ∧
    (Operation.stop "t2").perform table rest = ⟨.refused table (.unknownSequence "t2"), [], rest⟩ ∧
    (∀ token, Operation.stop "t2" ≠ .pollUntilDone token) ∧
    ((Operation.stop "t2").perform table rest).requests.length ≤ 1 := by
  intro start finished script table rest request
  have hsent : ((Operation.pollUntilDone "t1").perform table rest).requests[1]? =
      some request := by decide +kernel
  have hkeys : table.keys = ["t1"] := by decide +kernel
  have hother : "t2" ∉ table.keys := by
    rw [hkeys]
    decide
  have hstart : (start.perform .empty script).requests[0]? = some photoLaunch.request :=
    congrArg (fun run => run.requests[0]?) (Operation.perform_start .empty script _ _ _ _)
  have hwithout := token_not_mem_query "photos" "2021" default false false
  have hstop : ∀ token, Operation.stop "t2" ≠ .pollUntilDone token := nofun
  obtain ⟨hasked, -, -⟩ := requests_of_run [start] script (.pollUntilDone "t1")
  obtain ⟨-, hrefused, hone⟩ := requests_of_run [start] script (.stop "t2")
  obtain ⟨asking, hcase, hentry⟩ := (hasked 1 request hsent).1 "t1" List.mem_cons_self
  obtain rfl : asking = .poll "t1" := by
    rcases hcase with rfl | ⟨-, rfl⟩
    · exact absurd hentry.asks (by simp)
    · rfl
  exact ⟨hsent, List.mem_cons_self, hentry, hstart, hwithout,
    ((requests_of_run [] script start).1 0 _ hstart).2 hwithout, rfl, hother,
    hrefused "t2" rfl hother, hstop, hone hstop⟩

end HealControl.Session
