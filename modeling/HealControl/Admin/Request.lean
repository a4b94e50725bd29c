import HealControl.Admin.Error
import HealControl.Time.Timestamp

/-!
# Requests and replies

What is sent to a node and what comes back. A `Call` is refused at once or sends one request and
reads the reply. A `Plan` is a step of a larger activity that may need one reply; a `Script`
answers plans.
-/
namespace HealControl.Admin

open HealControl.Time (Timestamp)

structure Request where
  path : String
  query : List (String × String)
  content : String
deriving DecidableEq, Repr

def Request.method : String := "POST"

def Request.value? (r : Request) (key : String) : Option String :=
  (r.query.find? fun q => q.1 = key).map Prod.snd

inductive Reply
  | answer (status : HttpStatus) (body : List UInt8)
  | failure (failure : TransportFailure)
deriving DecidableEq

/-- A call of a node: refused at once, or a request and the reading of its reply. -/
inductive Call (α : Type)
  | refused (cause : InvalidArgument)
  | sends (request : Request) (read : Reply → Except AdminError α)

def Call.map {α β : Type} (f : α → β) : Call α → Call β
  | .refused cause => .refused cause
  | .sends request read => .sends request fun reply => (read reply).map f

structure Arrival where
  reply : Reply
  time : Timestamp

/-- A step that is settled at once, or goes on when the reply to a request arrives. -/
inductive Plan (β : Type)
  | settled (b : β)
  | asks (request : Request) (next : Arrival → β)

/-- The step that makes a call and goes on with its refusal, or with its result at the time at
which the reply came. -/
def Call.plan {α β : Type} (c : Call α) (refused : InvalidArgument → β)
    (next : Timestamp → Except AdminError α → β) : Plan β :=
  match c with
  | .refused cause => .settled (refused cause)
  | .sends request read => .asks request fun a => next a.time (read a.reply)

abbrev Script := List Arrival

def Script.exhausted : Arrival where
  reply := .failure ⟨.failed "no scripted response left", []⟩
  time := .epoch

/-- What was done: its result, the requests that were sent for it in order, and the arrivals that
are left. -/
structure Run (β : Type) where
  result : β
  requests : List Request
  rest : Script

def Plan.run {β : Type} (p : Plan β) (script : Script) : Run β :=
  match p with
  | .settled b => ⟨b, [], script⟩
  | .asks request next =>
    match script with
    | [] => ⟨next Script.exhausted, [request], []⟩
    | a :: rest => ⟨next a, [request], rest⟩

def Call.run {α : Type} (c : Call α) (script : Script) : Run (Except AdminError α) :=
  (c.plan (fun cause => .error (.invalidArgument cause)) fun _ result => result).run script

end HealControl.Admin
