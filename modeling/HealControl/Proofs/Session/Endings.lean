import Mathlib.Data.List.Forall2
import HealControl.Proofs.Session.LastStart

/-!
# How sequences end

An entry that leaves the table is told once, and no other end is told. Whatever tells an operation
that a sequence has ended also puts it into the state in which it has ended, a forced stop apart:
there the entry leaves as it was, and the entries of a run are all running.
-/
namespace HealControl.Session

open HealControl.Admin
open HealControl.Heal
open HealControl.Time (Timestamp)

def Event.isEndOf (token : String) : Event → Bool
  | .ended owner _ _ _ => owner = token
  | _ => false

def ends (token : String) (events : List Event) : List Event :=
  events.filter (Event.isEndOf token)

/-- The entry of a token that an outcome takes out of a table: the token has no entry any more, or
the entry has made way for another sequence. -/
def Outcome.evicted? {α : Type} (o : Outcome α) (table : Table) (token : String)
    (makesWay : Sequence → Bool) : Option Sequence :=
  (table.get? token).filter fun s =>
    (o.table.get? token).isNone || (o.result.isOk && makesWay s)

def Operation.displaces (op : Operation) (s : Sequence) : Bool :=
  match op with
  | .start bucket objectPrefix _ true => s.isOn bucket objectPrefix
  | _ => false

def Operation.evicted? (op : Operation) (table : Table) (script : Script) (token : String) :
    Option Sequence :=
  (op.perform table script).result.evicted? table token op.displaces

def Operation.EndsIn : Operation → Sequence → SequenceState → Prop
  | .forceStop _ _, s, state => state = s.state
  | _, _, state => state.isTerminal

/-- The entry that an outcome takes out of a table is told as one that has ended, and no other. -/
def Outcome.TellsEnds {α : Type} (o : Outcome α) (table : Table) (token : String)
    (makesWay : Sequence → Bool) (endsIn : Sequence → SequenceState → Prop) : Prop :=
  List.Forall₂
    (fun s event => ∃ state, event = .ended token s.bucket s.objectPrefix state ∧ endsIn s state)
    (o.evicted? table token makesWay).toList (ends token o.events)

section
variable {α β : Type} {o : Outcome α} {table : Table} {token : String} {s : Sequence}
  {makesWay : Sequence → Bool} {endsIn : Sequence → SequenceState → Prop}

theorem ends_append (token : String) (events more : List Event) :
    ends token (events ++ more) = ends token events ++ ends token more :=
  List.filter_append events more

theorem evicted?_of_gone (hs : table.get? token = some s) (ho : o.table.get? token = none) :
    o.evicted? table token makesWay = some s := by
  simp [Outcome.evicted?, hs, ho]

theorem evicted?_of_kept (h : ∀ s, table.get? token = some s →
      (o.table.get? token).isSome ∧ (o.result.isOk && makesWay s) = false) :
    o.evicted? table token makesWay = none := by
  rw [Outcome.evicted?]
  cases hs : table.get? token with
  | none => rfl
  | some s =>
    obtain ⟨hkept, hway⟩ := h s hs
    have hsome : (o.table.get? token).isNone = false := by simpa using hkept
    rw [Option.filter_some, hsome, hway]
    rfl

theorem tellsEnds_of_gone {state : SequenceState} (hs : table.get? token = some s)
    (ho : o.table.get? token = none)
    (hends : ends token o.events = [.ended token s.bucket s.objectPrefix state])
    (hstate : endsIn s state) : o.TellsEnds table token makesWay endsIn := by
  rw [Outcome.TellsEnds, evicted?_of_gone hs ho, hends]
  exact .cons ⟨state, rfl, hstate⟩ .nil

theorem tellsEnds_of_kept (h : ∀ s, table.get? token = some s →
      (o.table.get? token).isSome ∧ (o.result.isOk && makesWay s) = false)
    (hends : ends token o.events = []) : o.TellsEnds table token makesWay endsIn := by
  rw [Outcome.TellsEnds, evicted?_of_kept h, hends]
  exact .nil

theorem tellsEnds_map (f : α → β) :
    (o.map f).TellsEnds table token makesWay endsIn ↔ o.TellsEnds table token makesWay endsIn := by
  obtain ⟨result, after, events⟩ := o
  cases result <;> rfl

theorem tellsEnds_failed (error : AdminError) :
    (Outcome.failed table error : Outcome α).TellsEnds table token makesWay endsIn := by
  refine tellsEnds_of_kept ?_ rfl
  intro s hs
  exact ⟨Option.isSome_of_eq_some hs, rfl⟩

end

/-! ## Answers -/

section
variable {α : Type} {o : Outcome α} {table : Table} {owner : String} {s : Sequence}
  {makesWay : Sequence → Bool} {endsIn : Sequence → SequenceState → Prop}

/-- Only the entry of the owner leaves, and its end is the only one that is told. -/
theorem tellsEnds_of_erase (final : Sequence) (hs : table.get? owner = some s)
    (hon : final.isOn s.bucket s.objectPrefix) (hfinal : endsIn s final.state)
    (hway : ∀ s, makesWay s = false)
    (htable : ∀ token, o.table.get? token = if owner = token then none else table.get? token)
    (hends : ∀ token, ends token o.events = ends token [Table.ended owner final])
    (token : String) : o.TellsEnds table token makesWay endsIn := by
  have htold : ends token o.events = if owner = token then [Table.ended owner final] else [] := by
    rw [hends]
    by_cases h : owner = token <;> simp [ends, Table.ended, Event.isEndOf, h]
  have hafter := htable token
  by_cases h : owner = token
  · subst h
    rw [if_pos rfl] at htold hafter
    rw [Sequence.isOn, Bool.and_eq_true, beq_iff_eq, beq_iff_eq] at hon
    rw [Table.ended, hon.1, hon.2] at htold
    exact tellsEnds_of_gone hs hafter htold hfinal
  · rw [if_neg h] at htold hafter
    refine tellsEnds_of_kept ?_ htold
    intro s hs
    rw [hafter, hway, Bool.and_false]
    exact ⟨Option.isSome_of_eq_some hs, rfl⟩

theorem tellsEnds_of_insert {next : Sequence} (hway : ∀ s, makesWay s = false)
    (htable : o.table = table.insert owner next) (hevents : o.events = []) (token : String) :
    o.TellsEnds table token makesWay endsIn := by
  refine tellsEnds_of_kept ?_ (by rw [hevents]; rfl)
  intro s hs
  rw [htable, Dict.get?_insert, hway, Bool.and_false]
  by_cases h : owner = token
  · rw [if_pos h]
    exact ⟨rfl, rfl⟩
  · rw [if_neg h]
    exact ⟨Option.isSome_of_eq_some hs, rfl⟩

end

theorem isOn_self (s : Sequence) : s.isOn s.bucket s.objectPrefix := by
  simp [Sequence.isOn]

section
variable (table : Table) (bucket objectPrefix token : String)

theorem tellsEnds_afterAnswer {owner : String} {s : Sequence} (hs : table.get? owner = some s)
    (now : Timestamp) (result : Except AdminError TaskStatus) :
    (table.afterAnswer owner s now result).TellsEnds table token (fun _ => false)
      fun _ state => state.isTerminal := by
  cases result with
  | ok status =>
    by_cases h : status.summary ∈ endSummaries
    · have hend : (s.afterStatus status now).state.isTerminal :=
        (isTerminal_afterStatus s status now).mpr h
      rw [table.afterAnswer_of_end owner s now h]
      refine tellsEnds_of_erase (s.afterStatus status now) hs (isOn_self s) hend (fun _ => rfl) ?_
        (fun _ => rfl) token
      intro other
      exact Dict.get?_erase table other owner
    · rw [table.afterAnswer_of_running owner s now h]
      exact tellsEnds_of_insert (fun _ => rfl) rfl rfl token
  | error error =>
    cases error with
    | server payload =>
      refine tellsEnds_of_erase (s.afterError (.server payload) now) hs (isOn_self s) rfl
        (fun _ => rfl) ?_ (fun _ => rfl) token
      intro other
      exact Dict.get?_erase table other owner
    | _ => exact tellsEnds_failed _

theorem tellsEnds_afterStop {owner : String} {s : Sequence} (hs : table.get? owner = some s)
    (now : Timestamp) (result : Except AdminError TaskStatus) :
    (table.afterStop owner s now result).TellsEnds table token (fun _ => false)
      fun _ state => state.isTerminal := by
  cases result with
  | ok status =>
    by_cases h : status.summary ∈ endSummaries
    · rw [table.afterStop_of_end owner s now h]
      exact tellsEnds_afterAnswer table token hs now (.ok status)
    · refine tellsEnds_of_erase (s.afterStatus status now).stopped hs (isOn_self s) rfl
        (fun _ => rfl) ?_ ?_ token
      · exact (table.afterStop_ok owner s now status).2
      · intro other
        rw [table.afterStop_of_running owner s now h]
  | error error =>
    rw [Table.afterStop_error]
    exact tellsEnds_afterAnswer table token hs now (.error error)

theorem tellsEnds_afterForceStop (result : Except AdminError HealReceipt) :
    (table.afterForceStop bucket objectPrefix result).TellsEnds table token (fun _ => false)
      fun s state => state = s.state := by
  cases result with
  | error error => exact tellsEnds_failed error
  | ok receipt =>
    cases hs : table.get? receipt.clientToken with
    | some s =>
      refine tellsEnds_of_erase s hs (isOn_self s) rfl (fun _ => rfl) ?_ ?_ token
      · intro other
        exact Dict.get?_erase table other receipt.clientToken
      · intro other
        rw [Table.afterForceStop, hs]
        rfl
    | none =>
      refine tellsEnds_of_kept ?_ ?_
      · intro s hother
        have hne : receipt.clientToken ≠ token := by
          rintro rfl
          rw [hs] at hother
          cases hother
        refine ⟨?_, rfl⟩
        rw [Table.afterForceStop, Dict.get?_erase, if_neg hne]
        exact Option.isSome_of_eq_some hother
      · rw [Table.afterForceStop, hs]
        rfl

theorem ends_replaced :
    ends token ((table.replaced bucket objectPrefix).map fun e => Table.ended e.1 e.2) =
      (((table.get? token).filter fun s => s.isOn bucket objectPrefix).map fun s =>
        Table.ended token s.stopped).toList := by
  have hkey := Dict.filter_key_entries (table.filter fun _ s => s.isOn bucket objectPrefix) token
  rw [Dict.get?_filter] at hkey
  have hends : ends token ((table.replaced bucket objectPrefix).map fun e => Table.ended e.1 e.2) =
      ((table.filter fun _ s => s.isOn bucket objectPrefix).entries.filter fun e => e.1 = token).map
        fun e => Table.ended e.1 e.2.stopped := by
    rw [ends, Table.replaced, List.map_map, List.filter_map]
    rfl
  rw [hends, hkey]
  cases (table.get? token).filter fun s => s.isOn bucket objectPrefix <;> rfl

theorem evicted?_afterStart_forced (options : HealOptions) (now : Timestamp)
    (receipt : HealReceipt) :
    (table.afterStart bucket objectPrefix options true now (.ok receipt)).evicted? table token
      (Operation.start bucket objectPrefix options true).displaces =
      (table.get? token).filter fun s => s.isOn bucket objectPrefix := by
  rw [Outcome.evicted?, get?_afterStart]
  cases hs : table.get? token with
  | none => rfl
  | some s =>
    by_cases hon : s.isOn bucket objectPrefix
    · simp [Operation.displaces, Option.filter, hon, Table.afterStart, Except.isOk, Except.toBool]
    · by_cases ht : receipt.clientToken = token <;>
        simp [Operation.displaces, Option.filter, hon, Occurrence.effect, Except.toOption, ht]

theorem tellsEnds_afterStart (options : HealOptions) (forceStart : Bool) (now : Timestamp)
    (result : Except AdminError HealReceipt) :
    (table.afterStart bucket objectPrefix options forceStart now result).TellsEnds table token
      (Operation.start bucket objectPrefix options forceStart).displaces
      fun _ state => state.isTerminal := by
  cases result with
  | error error => exact tellsEnds_failed error
  | ok receipt =>
    cases forceStart with
    | false =>
      refine tellsEnds_of_kept ?_ rfl
      intro s hs
      refine ⟨?_, rfl⟩
      -- the new entry may have the token of an old one, which then stays in use
      rw [Table.afterStart, Dict.get?_insert]
      by_cases h : receipt.clientToken = token
      · rw [if_pos h]
        rfl
      · rw [if_neg h]
        exact Option.isSome_of_eq_some hs
    | true =>
      have hends : ends token (table.afterStart bucket objectPrefix options true now
          (.ok receipt)).events = (((table.get? token).filter fun s =>
            s.isOn bucket objectPrefix).map fun s => Table.ended token s.stopped).toList := by
        rw [← ends_replaced, Table.afterStart]
        simp only [if_true, ends_append]
        exact List.append_nil _
      rw [Outcome.TellsEnds, evicted?_afterStart_forced, hends]
      cases (table.get? token).filter fun s => s.isOn bucket objectPrefix with
      | none => exact .nil
      | some s => exact .cons ⟨.stopped, rfl, rfl⟩ .nil

theorem tellsEnds_pollUntilDone (owner : String) (script : Script) :
    (Table.pollUntilDone owner table script).result.TellsEnds table token (fun _ => false)
      fun _ state => state.isTerminal := by
  refine table.pollUntilDone_induction owner (motive := fun table _ run =>
    run.result.TellsEnds table token (fun _ => false) fun _ state => state.isTerminal)
    ?_ ?_ ?_ script
  · intro table script cause _
    exact tellsEnds_failed _
  · intro table script s a hs _ _ _
    exact tellsEnds_afterAnswer table token hs a.time (readStatus a.reply)
  · intro table a rest s status run hs _ _ _ ih
    -- a status of a running sequence changes neither whether there is an entry nor its objects
    rw [Outcome.TellsEnds, Outcome.evicted?, Dict.get?_insert] at ih
    rw [Outcome.TellsEnds, Outcome.evicted?]
    by_cases h : owner = token
    · subst h
      rw [if_pos rfl, Option.filter_some] at ih
      rw [hs, Option.filter_some]
      generalize ends owner run.result.events = told at ih ⊢
      cases hgone : (run.result.table.get? owner).isNone with
      | true =>
        rw [hgone] at ih
        cases ih with
        | cons hfirst hrest => exact .cons hfirst hrest
      | false =>
        rw [hgone, Bool.and_false] at ih
        rw [Bool.and_false]
        exact ih
    · rw [if_neg h] at ih
      exact ih

end

/-! ## Runs -/

theorem tellsEnds_perform (op : Operation) (table : Table) (script : Script) (token : String) :
    (op.perform table script).result.TellsEnds table token op.displaces op.EndsIn := by
  cases op with
  | start bucket objectPrefix options forceStart =>
    rw [Operation.perform_start, tellsEnds_map]
    exact tellsEnds_afterStart table bucket objectPrefix token options forceStart _ _
  | poll owner =>
    rcases Operation.perform_poll_cases owner table script with ⟨cause, hp⟩ | ⟨s, hs, hp⟩
    · rw [hp]
      exact tellsEnds_failed _
    · rw [hp, tellsEnds_map]
      exact tellsEnds_afterAnswer table token hs _ _
  | stop owner =>
    rcases Operation.perform_stop_cases owner table script with ⟨cause, hp⟩ | ⟨s, hs, hp⟩
    · rw [hp]
      exact tellsEnds_failed _
    · rw [hp, tellsEnds_map]
      exact tellsEnds_afterStop table token hs _ _
  | forceStop bucket objectPrefix =>
    rw [Operation.perform_forceStop, tellsEnds_map]
    exact tellsEnds_afterForceStop table bucket objectPrefix token _
  | pollUntilDone owner =>
    rw [Operation.perform, answering, tellsEnds_map]
    exact tellsEnds_pollUntilDone table token owner script
  | get owner =>
    refine tellsEnds_of_kept ?_ rfl
    intro s hs
    exact ⟨Option.isSome_of_eq_some hs, rfl⟩

/-- The entries of a token that operations take out of the table, each with its operation. -/
def evictions (token : String) : List Operation → Table → Script → List (Operation × Sequence)
  | [], _, _ => []
  | op :: rest, table, script =>
    let run := op.perform table script
    ((op.evicted? table script token).map fun s => (op, s)).toList ++
      evictions token rest run.result.table run.rest

def endings (token : String) (ops : List Operation) (table : Table) (script : Script) :
    List Event :=
  (performAll ops table script).flatMap fun run => ends token run.result.events

/-- An event tells the end of an evicted entry, and says in its record how it has ended. -/
def TellsEnd (token : String) (eviction : Operation × Sequence) (event : Event) : Prop :=
  ∃ state, event = .ended token eviction.2.bucket eviction.2.objectPrefix state ∧
    event.record = ⟨.info, "heal sequence " ++ token ++ " on " ++ eviction.2.bucket ++ "/" ++
      eviction.2.objectPrefix ++ " ended: " ++ state.name⟩ ∧
    eviction.1.EndsIn eviction.2 state

theorem forall₂_evictions_endings (token : String) (ops : List Operation) (table : Table)
    (script : Script) :
    List.Forall₂ (TellsEnd token) (evictions token ops table script)
      (endings token ops table script) := by
  induction ops generalizing table script with
  | nil => exact .nil
  | cons op rest ih =>
    have hfirst := tellsEnds_perform op table script token
    have hrest := ih (op.perform table script).result.table (op.perform table script).rest
    rw [evictions, endings, performAll, List.flatMap_cons, Option.toList_map]
    refine List.rel_append ?_ hrest
    rw [List.forall₂_map_left_iff]
    refine List.Forall₂.imp ?_ hfirst
    rintro s event ⟨state, rfl, hstate⟩
    exact ⟨state, rfl, rfl, hstate⟩

theorem mem_evictions {token : String} {ops : List Operation} {table : Table} {script : Script}
    {e : Operation × Sequence} (he : e ∈ evictions token ops table script) :
    ∃ before, (tableAfter before table script).get? token = some e.2 := by
  induction ops generalizing table script with
  | nil => cases he
  | cons op rest ih =>
    rw [evictions, List.mem_append] at he
    rcases he with he | he
    · rw [Option.mem_toList, Option.map_eq_some_iff] at he
      obtain ⟨s, hs, rfl⟩ := he
      exact ⟨[], (Option.filter_eq_some_iff.mp hs).1⟩
    · obtain ⟨before, hget⟩ := ih he
      refine ⟨op :: before, ?_⟩
      rw [tableAfter_cons]
      exact hget

/-- In every run each eviction of an entry is told once, and the end of no other sequence is told.
The entry was running, and its end is told in a state in which it has ended; a forced stop tells that
it was running. -/
theorem endings_of_evictions (ops : List Operation) (script : Script) (token : String) :
    List.Forall₂ (TellsEnd token) (evictions token ops .empty script)
      (endings token ops .empty script) ∧
    ∀ e ∈ evictions token ops .empty script, e.2.state = .running := by
  refine ⟨forall₂_evictions_endings token ops .empty script, ?_⟩
  intro e he
  obtain ⟨before, hget⟩ := mem_evictions he
  obtain ⟨l, later, -, -, hrecord⟩ := (get?_tableAfter_eq_some_iff before script token e.2).mp hget
  rw [hrecord]
  rfl

/-- A forced stop of what has just been started. -/
theorem endings_forceStop :
    let ops := [.start "photos" "2021" default false, Operation.forceStop "photos" "2021"]
    let receipt := written HealReceipt.schema.codec photoLaunch.receipt
    endings "t1" ops .empty [receipt, receipt] = [.ended "t1" "photos" "2021" .running] ∧
    SequenceState.running.isTerminal = false := by
  intro ops receipt
  constructor
  · decide +kernel
  · rfl

end HealControl.Session
