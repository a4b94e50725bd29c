import HealControl.Session.Table

/-!
# Operations on the table

The operations of a caller as values, so that what a caller does can be spoken of as a list.
`perform` carries out one of them with the arrivals of a script.
-/
namespace HealControl.Session

open HealControl.Admin
open HealControl.Heal

inductive Operation
  | start (bucket objectPrefix : String) (options : HealOptions) (forceStart : Bool)
  | poll (token : String)
  | stop (token : String)
  | forceStop (bucket objectPrefix : String)
  | pollUntilDone (token : String)
  | get (token : String)
deriving DecidableEq

inductive Answer
  | receipt (receipt : HealReceipt)
  | sequence (s : Sequence)
  | entry (s : Option Sequence)
deriving DecidableEq

def Outcome.map {α β : Type} (f : α → β) (o : Outcome α) : Outcome β :=
  ⟨o.result.map f, o.table, o.events⟩

def answering {α : Type} (f : α → Answer) (run : Run (Outcome α)) : Run (Outcome Answer) :=
  ⟨run.result.map f, run.requests, run.rest⟩

def Operation.perform (op : Operation) (table : Table) (script : Script) :
    Run (Outcome Answer) :=
  match op with
  | .start bucket objectPrefix options forceStart =>
    answering .receipt ((table.start bucket objectPrefix options forceStart).run script)
  | .poll token => answering .sequence ((table.poll token).run script)
  | .stop token => answering .sequence ((table.stop token).run script)
  | .forceStop bucket objectPrefix =>
    answering .receipt ((table.forceStop bucket objectPrefix).run script)
  | .pollUntilDone token => answering .sequence (Table.pollUntilDone token table script)
  | .get token => ⟨⟨.ok (.entry (table.get? token)), table, []⟩, [], script⟩

/-- Carries out operations one after the other, each with the table and the arrivals that the one
before leaves. -/
def performAll : List Operation → Table → Script → List (Run (Outcome Answer))
  | [], _, _ => []
  | op :: rest, table, script =>
    let run := op.perform table script
    run :: performAll rest run.result.table run.rest

end HealControl.Session
