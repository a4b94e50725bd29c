import HealControl.Proofs.Admin.Replies
import HealControl.Proofs.Session.Liveness

/-!
# Asking until the end

To ask for a sequence until it has ended is to ask once, and again, up to the first question that
fails or is answered with the record of a sequence that has ended. There is such a question for
every script, since the request that no arrival is left for fails. Arrivals after the last one that
is asked for do not matter, so the same is true where arrivals never end.
-/
namespace HealControl.Session

open HealControl.Admin
open HealControl.Heal
open HealControl.Time (Timestamp)

def polls (token : String) (n : Nat) : List Operation :=
  List.replicate n (.poll token)

def question (token : String) (table : Table) (script : Script) (n : Nat) : Run (Outcome Answer) :=
  (Operation.poll token).perform (tableAfter (polls token n) table script)
    (scriptAfter (polls token n) table script)

/-- An outcome after which nothing is asked again: a failure, or the record of a sequence that has
ended. -/
def Outcome.Settles (o : Outcome Answer) : Prop :=
  (∃ error, o.result = .error error) ∨
    ∃ s : Sequence, o.result = .ok (.sequence s) ∧ s.state.isTerminal = true

/-- The question after `n` others is the first one that settles the matter. -/
structure FirstSettled (token : String) (table : Table) (script : Script) (n : Nat) : Prop where
  settles : (question token table script n).result.Settles
  first : ∀ i < n, ¬ (question token table script i).result.Settles

/-- What operations come to that are carried out one after the other, with `last` at the end: the
answer of the last one, the table and the arrivals that are left, and all that was sent and told. -/
def ending (ops : List Operation) (last : Operation) (table : Table) (script : Script) :
    Run (Outcome Answer) :=
  let runs := performAll (ops ++ [last]) table script
  { result :=
      { result := (last.perform (tableAfter ops table script)
          (scriptAfter ops table script)).result.result
        table := tableAfter (ops ++ [last]) table script
        events := runs.flatMap fun run => run.result.events }
    requests := runs.flatMap Run.requests
    rest := scriptAfter (ops ++ [last]) table script }

theorem tableAfter_append (ops more : List Operation) (table : Table) (script : Script) :
    tableAfter (ops ++ more) table script =
      tableAfter more (tableAfter ops table script) (scriptAfter ops table script) := by
  induction ops generalizing table script with
  | nil => rfl
  | cons op ops ih => simp only [List.cons_append, tableAfter_cons, scriptAfter_cons, ih]

theorem scriptAfter_append (ops more : List Operation) (table : Table) (script : Script) :
    scriptAfter (ops ++ more) table script =
      scriptAfter more (tableAfter ops table script) (scriptAfter ops table script) := by
  induction ops generalizing table script with
  | nil => rfl
  | cons op ops ih => simp only [List.cons_append, tableAfter_cons, scriptAfter_cons, ih]

theorem ending_nil (last : Operation) (table : Table) (script : Script) :
    ending [] last table script = last.perform table script := by
  simp [ending, performAll, tableAfter, scriptAfter]

theorem ending_cons (op : Operation) (ops : List Operation) (last : Operation) (table : Table)
    (script : Script) :
    ending (op :: ops) last table script =
      let run := op.perform table script
      let more := ending ops last run.result.table run.rest
      ⟨⟨more.result.result, more.result.table, run.result.events ++ more.result.events⟩,
        run.requests ++ more.requests, more.rest⟩ := by
  simp only [ending, List.cons_append, tableAfter_cons, scriptAfter_cons, performAll,
    List.flatMap_cons]

section
variable {token : String} {table : Table} {script : Script}

theorem question_zero :
    question token table script 0 = (Operation.poll token).perform table script := rfl

theorem question_succ (n : Nat) :
    question token table script (n + 1) =
      question token (question token table script 0).result.table
        (question token table script 0).rest n := by
  simp only [question, polls, List.replicate_succ, tableAfter_cons, scriptAfter_cons]
  rfl

theorem FirstSettled.unique {m n : Nat} (hm : FirstSettled token table script m)
    (hn : FirstSettled token table script n) : m = n := by
  rcases Nat.lt_trichotomy m n with hlt | heq | hgt
  · exact absurd hm.settles (hn.first m hlt)
  · exact heq
  · exact absurd hn.settles (hm.first n hgt)

theorem firstSettled_zero (h : (question token table script 0).result.Settles) :
    FirstSettled token table script 0 :=
  ⟨h, fun _ hi => absurd hi (Nat.not_lt_zero _)⟩

theorem FirstSettled.succ {n : Nat} (h : ¬ (question token table script 0).result.Settles)
    (hn : FirstSettled token (question token table script 0).result.table
      (question token table script 0).rest n) :
    FirstSettled token table script (n + 1) := by
  constructor
  · rw [question_succ]
    exact hn.settles
  · intro i hi
    cases i with
    | zero => exact h
    | succ i =>
      rw [question_succ]
      exact hn.first i (Nat.lt_of_succ_lt_succ hi)

theorem settles_iff_not_isPending (o : Outcome Sequence) :
    (o.map Answer.sequence).Settles ↔ o.isPending = false := by
  obtain ⟨result, table, events⟩ := o
  cases result with
  | error error => simp [Outcome.Settles, Outcome.map, Outcome.isPending, Except.map]
  | ok s => simp [Outcome.Settles, Outcome.map, Outcome.isPending, Except.map]

/-- A question about an entry with a token that is not empty. -/
theorem question_zero_of_get? {s : Sequence} (hs : table.get? token = some s)
    (he : token.isEmpty = false) (script : Script) :
    question token table script 0 =
      ⟨(table.afterAnswer token s (nextArrival script).time
          (readStatus (nextArrival script).reply)).map .sequence,
        [s.request token false], script.tail⟩ := by
  rw [question_zero, Operation.perform_poll, hs]
  simp [he]

/-- A status of a sequence that still runs does not settle the matter: it goes into the entry. -/
theorem question_zero_of_running {a : Arrival} {s : Sequence} {status : TaskStatus}
    (hs : table.get? token = some s) (he : token.isEmpty = false)
    (hstatus : readStatus a.reply = .ok status) (hrun : status.summary ∉ endSummaries)
    (rest : Script) :
    question token table (a :: rest) 0 =
        ⟨⟨.ok (.sequence (s.afterStatus status a.time)),
          table.insert token (s.afterStatus status a.time), []⟩, [s.request token false], rest⟩ ∧
      ¬ (question token table (a :: rest) 0).result.Settles := by
  have hafter := table.afterAnswer_of_running token s a.time hrun
  have hquestion := question_zero_of_get? hs he (a :: rest)
  simp only [nextArrival, List.headD_cons, List.tail_cons, hstatus] at hquestion
  constructor
  · rw [hquestion, hafter]
    rfl
  · have hends : (s.afterStatus status a.time).state.isTerminal = false :=
      Bool.eq_false_iff.mpr fun ht => hrun ((isTerminal_afterStatus s status a.time).mp ht)
    rw [hquestion, settles_iff_not_isPending, hafter]
    simp [Outcome.isPending, hends]

theorem exists_firstSettled (token : String) (table : Table) (script : Script) :
    ∃ n ≤ script.length, FirstSettled token table script n ∧
      (Table.pollUntilDone token table script).requests.length ≤ n + 1 ∧
      (Operation.pollUntilDone token).perform table script =
        ending (polls token n) (.poll token) table script := by
  refine table.pollUntilDone_induction token (motive := fun table script run =>
    ∃ n ≤ script.length, FirstSettled token table script n ∧ run.requests.length ≤ n + 1 ∧
      answering .sequence run = ending (polls token n) (.poll token) table script) ?_ ?_ ?_ script
  · intro table script cause hp
    have hquestion : question token table script 0 = ⟨.refused table cause, [], script⟩ := by
      rw [question_zero, Operation.perform, hp]
      rfl
    refine ⟨0, Nat.zero_le _, firstSettled_zero ?_, Nat.zero_le _, ?_⟩
    · rw [hquestion]
      exact Or.inl ⟨_, rfl⟩
    · exact hquestion.symm.trans (ending_nil _ table script).symm
  · intro table script s a hs he ha hsettled
    subst ha
    have hquestion := question_zero_of_get? hs he script
    refine ⟨0, Nat.zero_le _, firstSettled_zero ?_, Nat.le_refl _, ?_⟩
    · rw [hquestion, settles_iff_not_isPending]
      exact hsettled
    · exact hquestion.symm.trans (ending_nil _ table script).symm
  · intro table a rest s status run hs he hstatus hrun ih
    obtain ⟨n, hn, hfirst, hlength, hending⟩ := ih
    obtain ⟨hquestion, hpending⟩ := question_zero_of_running hs he hstatus hrun rest
    refine ⟨n + 1, Nat.succ_le_succ hn, FirstSettled.succ hpending ?_, Nat.succ_le_succ hlength, ?_⟩
    · rw [hquestion]
      exact hfirst
    · -- the first of the questions sends its request and tells nothing
      rw [polls, List.replicate_succ, ending_cons, ← question_zero, hquestion]
      simp only [List.nil_append, List.singleton_append]
      rw [← polls, ← hending]
      rfl

/-- A question that is lost on the way, or answered with what cannot be read, leaves the table as
it was, with the entry of the token in it. -/
theorem question_of_failure {n : Nat} {error : AdminError}
    (hresult : (question token table script n).result.result = .error error)
    (hfailure : (∃ failure, error = .transport failure) ∨ ∃ fault, error = .decode fault) :
    (question token table script n).result.table = tableAfter (polls token n) table script ∧
      token ∈ (tableAfter (polls token n) table script).keys := by
  have hunreported : ¬ IsReported error := by
    rintro ⟨payload, rfl⟩
    rcases hfailure with ⟨_, h⟩ | ⟨_, h⟩ <;> cases h
  rcases Operation.perform_poll_cases token (tableAfter (polls token n) table script)
    (scriptAfter (polls token n) table script) with ⟨cause, hp⟩ | ⟨s, hs, hp⟩
  · rw [question, hp] at hresult
    obtain rfl := Except.error.inj hresult
    rcases hfailure with ⟨_, h⟩ | ⟨_, h⟩ <;> cases h
  · rw [question, hp] at hresult ⊢
    exact ⟨table_afterAnswer_of_error hunreported (map_eq_error hresult),
      (Dict.mem_keys_iff _ token).mpr ⟨s, hs⟩⟩

/-- What comes after the arrivals that were asked for does not matter. -/
theorem pollUntilDone_append (token : String) (table : Table) (script more : Script)
    (h : (Table.pollUntilDone token table script).requests.length ≤ script.length) :
    Table.pollUntilDone token table (script ++ more) =
      { Table.pollUntilDone token table script with
        rest := (Table.pollUntilDone token table script).rest ++ more } := by
  induction script generalizing table with
  | nil =>
    rcases table.poll_cases token with ⟨cause, hp⟩ | ⟨s, hs, he, hp⟩
    · cases more <;> simp [Table.pollUntilDone, hp, run_settled]
    · simp [Table.pollUntilDone, hp, run_asks] at h
  | cons a rest ih =>
    rw [List.cons_append]
    rcases table.poll_cases token with ⟨cause, hp⟩ | ⟨s, hs, he, hp⟩
    · simp [Table.pollUntilDone, hp]
    · simp only [Table.pollUntilDone, hp] at h ⊢
      split
      · rename_i hpending
        simp only [hpending, if_true, List.length_cons] at h
        rw [ih _ (Nat.le_of_succ_le_succ h)]
      · rfl

end

/-- Asking until the end is asking again and again, up to the first question that fails or is
answered with the record of a sequence that has ended. -/
theorem pollUntilDone_eq_polls (token : String) (table : Table) (script : Script) :
    let run := (Operation.pollUntilDone token).perform table script
    (∃ n ≤ script.length, FirstSettled token table script n) ∧
    ∀ n, FirstSettled token table script n →
      run = ending (polls token n) (.poll token) table script ∧
      (∀ answer, run.result.result = .ok answer →
        ∃ s : Sequence, answer = .sequence s ∧ s.state.isTerminal = true) ∧
      (∀ error, run.result.result = .error error →
        ((∃ failure, error = .transport failure) ∨ ∃ fault, error = .decode fault) →
        run.result.table = tableAfter (polls token n) table script ∧
          token ∈ run.result.table.keys) ∧
      (n < script.length → ∀ more,
        (Operation.pollUntilDone token).perform table (script ++ more) =
          { run with rest := run.rest ++ more }) := by
  intro run
  obtain ⟨n, hn, hfirst, hlength, hrun⟩ := exists_firstSettled token table script
  refine ⟨⟨n, hn, hfirst⟩, ?_⟩
  intro m hm
  obtain rfl := hfirst.unique hm
  have hresult : run.result.result = (question token table script n).result.result :=
    congrArg (fun r => r.result.result) hrun
  have htable : run.result.table = (question token table script n).result.table :=
    (congrArg (fun r => r.result.table) hrun).trans (tableAfter_concat _ _ table script)
  refine ⟨hrun, ?_, ?_, ?_⟩
  · intro answer hanswer
    rw [hresult] at hanswer
    rcases hfirst.settles with ⟨error, h⟩ | ⟨s, h, hends⟩
    · rw [h] at hanswer
      cases hanswer
    · rw [h, Except.ok.injEq] at hanswer
      exact ⟨s, hanswer.symm, hends⟩
  · intro error herror hfailure
    rw [hresult] at herror
    obtain ⟨hkept, hmem⟩ := question_of_failure herror hfailure
    rw [htable, hkept]
    exact ⟨rfl, hmem⟩
  · intro hlt more
    exact congrArg (answering .sequence)
      (pollUntilDone_append token table script more (Nat.le_trans hlength hlt))

theorem readStatus_written (status : TaskStatus) :
    readStatus (written TaskStatus.schema.codec status).reply = .ok status :=
  (readReply_of_ok rfl _ _).trans (readBody_of_ok (reads_taskStatus.ofBytes status))

/-- The second question about a sequence is answered with its end. -/
theorem pollUntilDone_photos :
    let finished : TaskStatus := { photoStatus "b.png" with summary := Summary.finished.text }
    let table : Table := Dict.empty.insert "t1" photoLaunch.sequence
    let script := [written TaskStatus.schema.codec (photoStatus "a.png"),
      written TaskStatus.schema.codec finished]
    let run := (Operation.pollUntilDone "t1").perform table script
    FirstSettled "t1" table script 1 ∧ 1 < script.length ∧
    run = ending (polls "t1" 1) (.poll "t1") table script ∧
    (Operation.pollUntilDone "t1").perform table (script ++ script) =
      { run with rest := run.rest ++ script } := by
  intro finished table script run
  have hs : table.get? "t1" = some photoLaunch.sequence := rfl
  obtain ⟨hquestion, hpending⟩ := question_zero_of_running hs rfl
    (readStatus_written (photoStatus "a.png")) (by decide)
    [written TaskStatus.schema.codec finished]
  have hfirst : FirstSettled "t1" table script 1 := by
    refine FirstSettled.succ hpending (firstSettled_zero ?_)
    have hentry := Dict.get?_insert table "t1" "t1"
      (photoLaunch.sequence.afterStatus (photoStatus "a.png") .epoch)
    rw [if_pos rfl] at hentry
    have hlast := question_zero_of_get? hentry rfl [written TaskStatus.schema.codec finished]
    simp only [nextArrival, List.headD_cons, readStatus_written] at hlast
    rw [Table.afterAnswer_of_end _ _ _ _ (by decide)] at hlast
    rw [hquestion]
    exact Or.inr ⟨_, congrArg (fun run => run.result.result) hlast, rfl⟩
  obtain ⟨-, hrun⟩ := pollUntilDone_eq_polls "t1" table script
  obtain ⟨heq, -, -, hmore⟩ := hrun 1 hfirst
  exact ⟨hfirst, by decide, heq, hmore (by decide) script⟩

end HealControl.Session
