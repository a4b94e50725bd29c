import HealControl.Log.Record
import HealControl.Session.Sequence

/-!
# The table of heal sequences

The sequences that one caller has started and that have not ended, by their client tokens. An
operation is a plan: it sends at most one request, and says what becomes of the table when the
reply comes. `pollUntilDone` repeats one of them until it fails or the sequence has ended.
-/
namespace HealControl.Session

open HealControl.Admin
open HealControl.Heal
open HealControl.Time (Timestamp)

abbrev Table := Dict Sequence

inductive Event
  | started (token bucket objectPrefix address : String)
  | failed (token : String) (error : AdminError)
  | forceStopped (token bucket objectPrefix : String)
  | ended (token bucket objectPrefix : String) (state : SequenceState)
deriving DecidableEq

def Event.record : Event → Log.Record
  | .started token bucket objectPrefix address =>
    ⟨.info, "heal sequence " ++ token ++ " started on " ++ bucket ++ "/" ++ objectPrefix ++
      " from " ++ address⟩
  | .failed token error => ⟨.warning, "heal sequence " ++ token ++ " failed: " ++ error.message⟩
  | .forceStopped token bucket objectPrefix =>
    ⟨.info, "heal sequence " ++ token ++ " on " ++ bucket ++ "/" ++ objectPrefix ++
      " force stopped"⟩
  | .ended token bucket objectPrefix state =>
    ⟨.info, "heal sequence " ++ token ++ " on " ++ bucket ++ "/" ++ objectPrefix ++
      " ended: " ++ state.name⟩

/-- What an operation comes to: its result, the table after it, and what is told of it. -/
structure Outcome (α : Type) where
  result : Except AdminError α
  table : Table
  events : List Event

def Outcome.failed {α : Type} (table : Table) (error : AdminError) : Outcome α :=
  ⟨.error error, table, []⟩

def Outcome.refused {α : Type} (table : Table) (cause : InvalidArgument) : Outcome α :=
  .failed table (.invalidArgument cause)

namespace Table

def ended (token : String) (s : Sequence) : Event :=
  .ended token s.bucket s.objectPrefix s.state

def replaced (table : Table) (bucket objectPrefix : String) : List (String × Sequence) :=
  (table.entries.filter fun e => e.2.isOn bucket objectPrefix).map fun e => (e.1, e.2.stopped)

def without (table : Table) (bucket objectPrefix : String) : Table :=
  table.filter fun _ s => !s.isOn bucket objectPrefix

/-- A forced start drops the sequences on the same objects, for the server has dropped them. -/
def afterStart (table : Table) (bucket objectPrefix : String) (options : HealOptions)
    (forceStart : Bool) (now : Timestamp) : Except AdminError HealReceipt → Outcome HealReceipt
  | .error error => .failed table error
  | .ok receipt =>
    let token := receipt.clientToken
    let kept := if forceStart then table.without bucket objectPrefix else table
    let dropped :=
      if forceStart then (table.replaced bucket objectPrefix).map fun e => ended e.1 e.2 else []
    { result := .ok receipt
      table := kept.insert token (.started bucket objectPrefix options receipt now)
      events := dropped ++ [.started token bucket objectPrefix receipt.clientAddress] }

def start (table : Table) (bucket objectPrefix : String) (options : HealOptions)
    (forceStart : Bool) : Plan (Outcome HealReceipt) :=
  (startHeal bucket objectPrefix options forceStart).plan (.refused table)
    fun now result => table.afterStart bucket objectPrefix options forceStart now result

/-- An error that the server reports ends the sequence of the entry `s`; any other failure leaves it
as it was, and the next answer will tell. -/
def afterAnswer (table : Table) (token : String) (s : Sequence) (now : Timestamp) :
    Except AdminError TaskStatus → Outcome Sequence
  | .ok status =>
    let s := s.afterStatus status now
    if s.state.isTerminal then ⟨.ok s, table.erase token, [ended token s]⟩
    else ⟨.ok s, table.insert token s, []⟩
  | .error (.server payload) =>
    let error := .server payload
    let s := s.afterError error now
    ⟨.error error, table.erase token, [.failed token error, ended token s]⟩
  | .error error => .failed table error

/-- A sequence whose status tells of no end has been stopped all the same. -/
def afterStop (table : Table) (token : String) (s : Sequence) (now : Timestamp)
    (result : Except AdminError TaskStatus) : Outcome Sequence :=
  let outcome := table.afterAnswer token s now result
  match outcome.result with
  | .error _ => outcome
  | .ok s =>
    if s.state.isTerminal then outcome
    else ⟨.ok s.stopped, outcome.table.erase token, outcome.events ++ [ended token s.stopped]⟩

def poll (table : Table) (token : String) : Plan (Outcome Sequence) :=
  match table.get? token with
  | none => .settled (.refused table (.unknownSequence token))
  | some s =>
    (healStatus s.bucket s.objectPrefix token).plan (.refused table) (table.afterAnswer token s)

def stop (table : Table) (token : String) : Plan (Outcome Sequence) :=
  match table.get? token with
  | none => .settled (.refused table (.unknownSequence token))
  | some s =>
    (stopHeal s.bucket s.objectPrefix token).plan (.refused table) (table.afterStop token s)

/-- The sequence of the receipt leaves the table, if it is there, in the state that it was last
known in. -/
def afterForceStop (table : Table) (bucket objectPrefix : String) :
    Except AdminError HealReceipt → Outcome HealReceipt
  | .error error => .failed table error
  | .ok receipt =>
    let token := receipt.clientToken
    { result := .ok receipt
      table := table.erase token
      events := .forceStopped token bucket objectPrefix ::
        ((table.get? token).map (ended token)).toList }

def forceStop (table : Table) (bucket objectPrefix : String) : Plan (Outcome HealReceipt) :=
  (forceStopHeal bucket objectPrefix).plan (.refused table)
    fun _ result => table.afterForceStop bucket objectPrefix result

end Table

def Outcome.isPending (o : Outcome Sequence) : Bool :=
  match o.result with
  | .ok s => !s.state.isTerminal
  | .error _ => false

/-- Asks for the status of a sequence until that fails or the sequence has ended. When no arrival
is left the request fails, so this comes to an end. -/
def Table.pollUntilDone (token : String) : Table → Script → Run (Outcome Sequence)
  | table, [] => (table.poll token).run []
  | table, a :: rest =>
    match table.poll token with
    | .settled o => ⟨o, [], a :: rest⟩
    | .asks request next =>
      let o := next a
      if o.isPending then
        let run := Table.pollUntilDone token o.table rest
        { run with
          result := { run.result with events := o.events ++ run.result.events }
          requests := request :: run.requests }
      else ⟨o, [request], rest⟩

end HealControl.Session
