import HealControl.Proofs.Session.Liveness

/-!
# What operations leave as it is

An operation that fails leaves the table as it was, except that an error which the server reports of
a sequence ends it. One that asks for a sequence, or stops it, acts on its entry alone: what it
answers and what becomes of the entry depend on nothing but the entry and the reply. So two of them
on different tokens come to the same in both orders.
-/
namespace HealControl.Session

open HealControl.Admin
open HealControl.Heal
open HealControl.Time (Timestamp)

/-- The token whose sequence an operation asks for with a single request. -/
def Operation.askedOnce? : Operation → Option String
  | .poll token | .stop token => some token
  | _ => none

/-- An operation that acts on the entry of a token alone. -/
structure Operation.ActsOn (op : Operation) (token : String) : Prop where
  frame : ∀ table script other, other ≠ token →
    (op.perform table script).result.table.get? other = table.get? other
  congr : ∀ table table' script script', table'.get? token = table.get? token →
    nextArrival script' = nextArrival script →
    (op.perform table' script').result.result = (op.perform table script).result.result ∧
    (op.perform table' script').result.table.get? token =
      (op.perform table script).result.table.get? token

/-- Two operations, each with arrivals of its own, come to the same in both orders. -/
def Operation.Commutes (first second : Operation) : Prop :=
  ∀ (table : Table) (script script' : Script),
    let early := first.perform table script
    let later := second.perform early.result.table script'
    let early' := second.perform table script'
    let later' := first.perform early'.result.table script
    later'.result.result = early.result.result ∧ later.result.result = early'.result.result ∧
    later.result.table = later'.result.table

/-! ## Failures -/

theorem table_perform_of_error {op : Operation} {table : Table} {script : Script}
    {error : AdminError} (hop : ∀ token, op ≠ .pollUntilDone token)
    (he : (op.perform table script).result.result = .error error)
    (hr : IsReported error → op.askedOnce? = none) :
    (op.perform table script).result.table = table := by
  cases op with
  | start bucket objectPrefix options forceStart =>
    rw [Operation.perform_start] at he ⊢
    exact table_afterStart_of_error (map_eq_error he)
  | poll token =>
    have hr' : ¬ IsReported error := fun h => Option.some_ne_none token (hr h)
    rcases Operation.perform_poll_cases token table script with ⟨cause, hp⟩ | ⟨s, hs, hp⟩
    · rw [hp]
      rfl
    · rw [hp] at he ⊢
      exact table_afterAnswer_of_error hr' (map_eq_error he)
  | stop token =>
    have hr' : ¬ IsReported error := fun h => Option.some_ne_none token (hr h)
    rcases Operation.perform_stop_cases token table script with ⟨cause, hp⟩ | ⟨s, hs, hp⟩
    · rw [hp]
      rfl
    · rw [hp] at he ⊢
      exact table_afterStop_of_error hr' (map_eq_error he)
  | forceStop bucket objectPrefix =>
    rw [Operation.perform_forceStop] at he ⊢
    exact table_afterForceStop_of_error (map_eq_error he)
  | pollUntilDone token => exact absurd rfl (hop token)
  | get token => rfl

/-! ## Starts and forced stops -/

section
variable {table : Table} {script : Script} {bucket objectPrefix : String} {receipt : HealReceipt}

theorem get?_perform_start {options : HealOptions} {forceStart : Bool}
    (he : ((Operation.start bucket objectPrefix options forceStart).perform table
      script).result.result = .ok (.receipt receipt)) (key : String) :
    ((Operation.start bucket objectPrefix options forceStart).perform table
      script).result.table.get? key =
      if receipt.clientToken = key then
        some (.started bucket objectPrefix options receipt (nextArrival script).time)
      else (table.get? key).filter fun s => !(forceStart && s.isOn bucket objectPrefix) := by
  have hoccurrences :=
    (occurrences_start_iff table script bucket objectPrefix options forceStart receipt).mpr he
  rw [get?_perform, hoccurrences, effects_cons, effects_nil, Occurrence.effect]
  cases forceStart with
  | false => cases table.get? key <;> simp [Launch.sequence, Option.filter_some]
  | true => rfl

theorem get?_perform_forceStop
    (he : ((Operation.forceStop bucket objectPrefix).perform table script).result.result =
      .ok (.receipt receipt)) (key : String) :
    ((Operation.forceStop bucket objectPrefix).perform table script).result.table.get? key =
      if receipt.clientToken = key then none else table.get? key := by
  have hoccurrences := (occurrences_forceStop_iff table script bucket objectPrefix receipt).mpr he
  rw [get?_perform, hoccurrences, effects_cons, effects_nil, Occurrence.effect]

end

/-! ## Questions and stops -/

def Table.afterReply (table : Table) (token : String) (stopping : Bool) (s : Sequence)
    (now : Timestamp) (result : Except AdminError TaskStatus) : Outcome Sequence :=
  match stopping with
  | false => table.afterAnswer token s now result
  | true => table.afterStop token s now result

section
variable (table : Table) (token : String)

theorem erase_insert (s : Sequence) : (table.insert token s).erase token = table.erase token := by
  apply Dict.ext_get?
  · by_cases h : token ∈ table.keys <;> simp [h]
  · intro key
    by_cases h : token = key <;> simp [h]

/-- An entry is left, taken out, or replaced. -/
theorem table_afterAnswer_cases (s : Sequence) (now : Timestamp)
    (result : Except AdminError TaskStatus) :
    (table.afterAnswer token s now result).table = table ∨
    (table.afterAnswer token s now result).table = table.erase token ∨
    ∃ next, (table.afterAnswer token s now result).table = table.insert token next := by
  cases result with
  | ok status =>
    rw [(table.afterAnswer_ok token s now status).2]
    split
    · exact Or.inr (Or.inl rfl)
    · exact Or.inr (Or.inr ⟨_, rfl⟩)
  | error error =>
    rw [(table.afterAnswer_error token s now error).2]
    cases error with
    | server payload => exact Or.inr (Or.inl rfl)
    | _ => exact Or.inl rfl

theorem table_afterReply_cases (stopping : Bool) (s : Sequence) (now : Timestamp)
    (result : Except AdminError TaskStatus) :
    (table.afterReply token stopping s now result).table = table ∨
    (table.afterReply token stopping s now result).table = table.erase token ∨
    ∃ next, (table.afterReply token stopping s now result).table = table.insert token next := by
  have hasked := table_afterAnswer_cases table token s now result
  cases stopping with
  | false => exact hasked
  | true =>
    cases result with
    | ok status =>
      rw [Table.afterReply]
      by_cases h : status.summary ∈ endSummaries
      · rw [table.afterStop_of_end token s now h]
        exact hasked
      · rw [table.afterStop_of_running token s now h]
        exact Or.inr (Or.inl (erase_insert table token _))
    | error error =>
      rw [Table.afterReply, Table.afterStop_error]
      exact hasked

theorem result_afterReply (table' : Table) (stopping : Bool) (s : Sequence) (now : Timestamp)
    (result : Except AdminError TaskStatus) :
    (table'.afterReply token stopping s now result).result =
      (table.afterReply token stopping s now result).result := by
  cases result with
  | ok status =>
    cases stopping with
    | false =>
      rw [Table.afterReply, Table.afterReply, (table.afterAnswer_ok token s now status).1,
        (table'.afterAnswer_ok token s now status).1]
    | true =>
      rw [Table.afterReply, Table.afterReply, (table.afterStop_ok token s now status).1,
        (table'.afterStop_ok token s now status).1]
  | error error =>
    have hasked := (table.afterAnswer_error token s now error).1
    have hasked' := (table'.afterAnswer_error token s now error).1
    cases stopping with
    | false => exact hasked'.trans hasked.symm
    | true =>
      rw [Table.afterReply, Table.afterReply, Table.afterStop_error, Table.afterStop_error]
      exact hasked'.trans hasked.symm

theorem get?_afterReply {s : Sequence} (hs : table.get? token = some s) (stopping : Bool)
    (now : Timestamp) (result : Except AdminError TaskStatus) :
    (table.afterReply token stopping s now result).table.get? token =
      effects token (Occurrence.ofStatus? token stopping now result).toList (some s) := by
  cases stopping with
  | false => exact hs ▸ get?_afterAnswer table token token hs now result
  | true => exact hs ▸ get?_afterStop table token token s now result

end

section
variable {op : Operation} {token : String}

theorem perform_of_askedOnce? (hop : op.askedOnce? = some token) :
    ∃ stopping, ∀ table script, op.perform table script =
      match table.get? token with
      | none => ⟨.refused table (.unknownSequence token), [], script⟩
      | some s =>
        if token.isEmpty then ⟨.refused table .tokenRequired, [], script⟩
        else ⟨(table.afterReply token stopping s (nextArrival script).time
            (readStatus (nextArrival script).reply)).map .sequence,
          [s.request token stopping], script.tail⟩ := by
  cases op with
  | poll owner =>
    obtain rfl : owner = token := Option.some.inj hop
    exact ⟨false, Operation.perform_poll owner⟩
  | stop owner =>
    obtain rfl : owner = token := Option.some.inj hop
    exact ⟨true, Operation.perform_stop owner⟩
  | _ => cases hop

/-- What asking for a sequence once can make of the table. -/
theorem table_perform_cases (hop : op.askedOnce? = some token) (table : Table) (script : Script) :
    (op.perform table script).result.table = table ∨
    (op.perform table script).result.table = table.erase token ∨
    ∃ s next, table.get? token = some s ∧
      (op.perform table script).result.table = table.insert token next := by
  obtain ⟨stopping, hperform⟩ := perform_of_askedOnce? hop
  rw [hperform]
  cases hs : table.get? token with
  | none => exact Or.inl rfl
  | some s =>
    cases token.isEmpty with
    | true => exact Or.inl rfl
    | false =>
      rcases table_afterReply_cases table token stopping s (nextArrival script).time
        (readStatus (nextArrival script).reply) with h | h | ⟨next, h⟩
      · exact Or.inl h
      · exact Or.inr (Or.inl h)
      · exact Or.inr (Or.inr ⟨s, next, rfl, h⟩)

theorem get?_perform_of_ne (hop : op.askedOnce? = some token) (table : Table) (script : Script)
    {other : String} (hne : other ≠ token) :
    (op.perform table script).result.table.get? other = table.get? other := by
  rcases table_perform_cases hop table script with h | h | ⟨s, next, -, h⟩
  · rw [h]
  · rw [h, Dict.get?_erase, if_neg (Ne.symm hne)]
  · rw [h, Dict.get?_insert, if_neg (Ne.symm hne)]

/-- No key is added, and the key of the entry is dropped exactly if the entry is. -/
theorem keys_perform (hop : op.askedOnce? = some token) (table : Table) (script : Script) :
    (op.perform table script).result.table.keys = table.keys.filter fun key =>
      key ≠ token || ((op.perform table script).result.table.get? token).isSome := by
  rcases table_perform_cases hop table script with h | h | ⟨s, next, hs, h⟩
  · rw [h, eq_comm, List.filter_eq_self]
    intro key hkey
    by_cases hk : key = token
    · subst hk
      obtain ⟨s, hs⟩ := (Dict.mem_keys_iff table key).mp hkey
      simp [hs]
    · simp [hk]
  · simp [h]
  · have hmem : token ∈ table.keys := (Dict.mem_keys_iff table token).mpr ⟨s, hs⟩
    rw [h, Dict.keys_insert, if_pos hmem, eq_comm, List.filter_eq_self]
    simp

theorem perform_congr (hop : op.askedOnce? = some token) {table table' : Table}
    {script script' : Script} (hentry : table'.get? token = table.get? token)
    (hnext : nextArrival script' = nextArrival script) :
    (op.perform table' script').result.result = (op.perform table script).result.result ∧
    (op.perform table' script').result.table.get? token =
      (op.perform table script).result.table.get? token := by
  obtain ⟨stopping, hperform⟩ := perform_of_askedOnce? hop
  rw [hperform, hperform, hentry, hnext]
  cases hs : table.get? token with
  | none => exact ⟨rfl, hentry⟩
  | some s =>
    have hs' : table'.get? token = some s := hentry.trans hs
    cases token.isEmpty with
    | true => exact ⟨rfl, hentry⟩
    | false =>
      constructor
      · exact congrArg (Except.map Answer.sequence)
          (result_afterReply table token table' stopping s _ _)
      · have hget := get?_afterReply table token hs stopping
        have hget' := get?_afterReply table' token hs' stopping
        exact (hget' _ _).trans (hget _ _).symm

theorem actsOn_of_askedOnce? (hop : op.askedOnce? = some token) : op.ActsOn token where
  frame table script _ hne := get?_perform_of_ne hop table script hne
  congr _ _ _ _ hentry hnext := perform_congr hop hentry hnext

end

theorem commutes_of_ne {first second : Operation} {a b : String}
    (hfirst : first.askedOnce? = some a) (hsecond : second.askedOnce? = some b) (hne : a ≠ b) :
    first.Commutes second := by
  intro table script script' early later early' later'
  -- each operation meets its entry as it would alone
  have hb : early.result.table.get? b = table.get? b :=
    get?_perform_of_ne hfirst table script (Ne.symm hne)
  have ha : early'.result.table.get? a = table.get? a :=
    get?_perform_of_ne hsecond table script' hne
  obtain ⟨hresult, hentry⟩ := perform_congr hsecond hb (Eq.refl (nextArrival script'))
  obtain ⟨hresult', hentry'⟩ := perform_congr hfirst ha (Eq.refl (nextArrival script))
  have hlater := keys_perform hsecond early.result.table script'
  have hlater' := keys_perform hfirst early'.result.table script
  refine ⟨hresult', hresult, Dict.ext_get? ?_ ?_⟩
  · rw [hlater, hlater', hentry, hentry', keys_perform hfirst table script,
      keys_perform hsecond table script', List.filter_filter, List.filter_filter]
    exact List.filter_congr fun key _ => Bool.and_comm _ _
  · intro key
    by_cases hka : key = a
    · subst hka
      exact (get?_perform_of_ne hsecond _ script' hne).trans hentry'.symm
    · rw [get?_perform_of_ne hfirst _ script hka]
      by_cases hkb : key = b
      · subst hkb
        exact hentry
      · rw [get?_perform_of_ne hsecond _ script' hkb, get?_perform_of_ne hfirst _ script hka,
          get?_perform_of_ne hsecond _ script' hkb]

/-- What operations leave as it is. A failure leaves the table, unless it is an error that the server
reports of the sequence that was asked for. A forced stop takes out the entry of the token that it
returned, and a start puts one in; a forced start drops the others on the same objects. What asks
for a sequence once acts on its entry alone, and on different tokens the order does not matter. -/
theorem perform_frame :
    (∀ (op : Operation) (table : Table) (script : Script) (error : AdminError),
      (∀ token, op ≠ .pollUntilDone token) →
      (op.perform table script).result.result = .error error →
      (IsReported error → op.askedOnce? = none) →
      (op.perform table script).result.table = table) ∧
    (∀ (bucket objectPrefix : String) (table : Table) (script : Script) (receipt : HealReceipt),
      let run := (Operation.forceStop bucket objectPrefix).perform table script
      run.result.result = .ok (.receipt receipt) →
      ∀ key, run.result.table.get? key =
        if receipt.clientToken = key then none else table.get? key) ∧
    (∀ (bucket objectPrefix : String) (options : HealOptions) (forceStart : Bool) (table : Table)
      (script : Script) (receipt : HealReceipt),
      let run := (Operation.start bucket objectPrefix options forceStart).perform table script
      run.result.result = .ok (.receipt receipt) →
      ∃ fresh : Sequence, fresh.state = .running ∧ fresh.items = [] ∧
        fresh.clientToken = receipt.clientToken ∧ fresh.isOn bucket objectPrefix ∧
        ∀ key, run.result.table.get? key =
          if receipt.clientToken = key then some fresh
          else (table.get? key).filter fun s => !(forceStart && s.isOn bucket objectPrefix)) ∧
    (∀ (op : Operation) (token : String), op.askedOnce? = some token → op.ActsOn token) ∧
    (∀ (first second : Operation) (a b : String), first.askedOnce? = some a →
      second.askedOnce? = some b → a ≠ b → first.Commutes second) := by
  refine ⟨?_, ?_, ?_, ?_, ?_⟩
  · intro op table script error hop he hr
    exact table_perform_of_error hop he hr
  · intro bucket objectPrefix table script receipt run he key
    exact get?_perform_forceStop he key
  · intro bucket objectPrefix options forceStart table script receipt run he
    have hon : (Sequence.started bucket objectPrefix options receipt
        (nextArrival script).time).isOn bucket objectPrefix := by
      simp [Sequence.isOn, Sequence.started]
    exact ⟨_, rfl, rfl, rfl, hon, get?_perform_start he⟩
  · intro op token hop
    exact actsOn_of_askedOnce? hop
  · intro first second a b hfirst hsecond hne
    exact commutes_of_ne hfirst hsecond hne

/-- A question that is lost, a forced stop of one of two sequences, a forced start in place of the
other, and a question and a stop in both orders. -/
theorem perform_frame_photos :
    let table := tableAfter photoRun .empty photoScript
    let lost := AdminError.transport ⟨.failed "no scripted response left", []⟩
    let stopped : HealReceipt := ⟨"t1", "node1", .epoch⟩
    let started : HealReceipt := ⟨"t3", "node3", .epoch⟩
    let asked := (Operation.poll "t1").perform table []
    let forced := (Operation.forceStop "photos" "2021").perform table
      [written HealReceipt.schema.codec stopped]
    let replaced := (Operation.start "videos" "" default true).perform table
      [written HealReceipt.schema.codec started]
    (asked.result.result = .error lost ∧ ¬ IsReported lost ∧ asked.result.table = table) ∧
    (forced.result.result = .ok (.receipt stopped) ∧
      forced.result.table.get? "t1" = none ∧
      forced.result.table.get? "t2" = table.get? "t2") ∧
    (replaced.result.result = .ok (.receipt started) ∧ (table.get? "t2").isSome ∧
      replaced.result.table.get? "t1" = table.get? "t1" ∧
      replaced.result.table.get? "t2" = none) ∧
    (Operation.poll "t1").ActsOn "t1" ∧
    (Operation.poll "t1").Commutes (.stop "t2") := by
  intro table lost stopped started asked forced replaced
  obtain ⟨hfailed, hforceStop, hstart, hactsOn, hcommutes⟩ := perform_frame
  have hlost : asked.result.result = .error lost := by decide +kernel
  have hr : ¬ IsReported lost := fun ⟨payload, h⟩ => by simp [lost] at h
  have hstopped : forced.result.result = .ok (.receipt stopped) := by decide +kernel
  have hstarted : replaced.result.result = .ok (.receipt started) := by decide +kernel
  have hothers := hforceStop "photos" "2021" table _ stopped hstopped
  obtain ⟨fresh, -, -, -, -, hreplaced⟩ := hstart "videos" "" default true table _ started hstarted
  have hfirst : table.get? "t1" = _ := get?_photos
  have hsecond : table.get? "t2" =
      some (.started "videos" "" default ⟨"t2", "node2", .epoch⟩ .epoch) := by decide +kernel
  refine ⟨⟨hlost, hr, ?_⟩, ⟨hstopped, ?_, ?_⟩, ⟨hstarted, ?_, ?_, ?_⟩, ?_, ?_⟩
  · exact hfailed (.poll "t1") table [] lost (fun _ => by simp) hlost fun h => absurd h hr
  · rw [hothers, if_pos rfl]
  · rw [hothers, if_neg (by decide)]
  · rw [hsecond]
    rfl
  · rw [hreplaced, if_neg (by decide), hfirst]
    rfl
  · rw [hreplaced, if_neg (by decide), hsecond]
    rfl
  · exact hactsOn (.poll "t1") "t1" rfl
  · exact hcommutes (.poll "t1") (.stop "t2") "t1" "t2" rfl rfl (by decide)

end HealControl.Session
