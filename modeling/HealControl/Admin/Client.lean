import HealControl.Admin.Address
import HealControl.Admin.Request
import HealControl.Cluster.Status
import HealControl.Heal.Task

/-!
# Calls of the administration

The calls that start, watch and stop heal sequences, and the one that asks for the status of
background healing. A node may answer with success and still send an error, if it failed after it
had sent the status line; the calls of heal sequences look for one in an answer that is not what
they expect.
-/
namespace HealControl.Admin

open HealControl.Heal
open HealControl.Json

/-- Reads an answer that should be a success: what is expected, or else a reported error, or else
the fault that was found in what is expected. -/
def readBody {α : Type} (expected : Codec α) (body : List UInt8) : Except AdminError α :=
  match expected.ofBytes body with
  | .ok a => .ok a
  | .error fault =>
    match ErrorPayload.schema.codec.ofBytes body with
    | .ok payload => .error (.server payload)
    | .error _ => .error (.decode fault)

def readReply {α : Type} (read : List UInt8 → Except AdminError α) : Reply → Except AdminError α
  | .failure failure => .error (.transport failure)
  | .answer status body =>
    if status.code = 200 then read body else .error (.server (.ofAnswer status body))

/-- What a heal call asks for. With a client token it is about the sequence of that token,
otherwise about the objects of a bucket whose names start with `objectPrefix`. -/
structure HealCall where
  bucket : String
  objectPrefix : String
  options : HealOptions
  token : String
  forceStart : Bool
  forceStop : Bool

def healPath (bucket objectPrefix : String) : String :=
  apiPath ++ "/heal/" ++ bucket ++
    (if bucket.isEmpty || objectPrefix.isEmpty then "" else separator ++ objectPrefix)

namespace HealCall

def query (c : HealCall) : List (String × String) :=
  (if c.token.isEmpty then [] else [("clientToken", c.token)]) ++
    (if c.forceStart then [("forceStart", "true")]
      else if c.forceStop then [("forceStop", "true")] else [])

/-- Options go with the request only if there is no token, which identifies the sequence fully. -/
def request (c : HealCall) : Request where
  path := healPath c.bucket c.objectPrefix
  query := c.query
  content := if c.token.isEmpty then (HealOptions.schema.codec.encode c.options).render else ""

def send {α : Type} (c : HealCall) (expected : Codec α) : Call α :=
  if c.forceStart && c.forceStop then .refused .bothForced
  else .sends c.request (readReply (readBody expected))

end HealCall

/-- The answer to a heal call: a receipt if no token was sent, a status otherwise. -/
inductive HealResponse
  | started (receipt : HealReceipt)
  | status (status : TaskStatus)

def HealResponse.started? : HealResponse → Option HealReceipt
  | .started r => some r
  | .status _ => none

def HealResponse.status? : HealResponse → Option TaskStatus
  | .started _ => none
  | .status s => some s

/-- Starts a sequence, or asks for the status of the one of the token. Without a token `forceStop`
stops whatever runs on the objects. -/
def heal (c : HealCall) : Call HealResponse :=
  if c.token.isEmpty then (c.send HealReceipt.schema.codec).map .started
  else (c.send TaskStatus.schema.codec).map .status

def startHeal (bucket objectPrefix : String) (options : HealOptions) (forceStart : Bool) :
    Call HealReceipt :=
  (HealCall.mk bucket objectPrefix options "" forceStart false).send HealReceipt.schema.codec

def healStatus (bucket objectPrefix token : String) : Call TaskStatus :=
  if token.isEmpty then .refused .tokenRequired
  else (HealCall.mk bucket objectPrefix default token false false).send TaskStatus.schema.codec

def stopHeal (bucket objectPrefix token : String) : Call TaskStatus :=
  if token.isEmpty then .refused .tokenRequired
  else (HealCall.mk bucket objectPrefix default token false true).send TaskStatus.schema.codec

def forceStopHeal (bucket objectPrefix : String) : Call HealReceipt :=
  (HealCall.mk bucket objectPrefix default "" false true).send HealReceipt.schema.codec

def readBackgroundStatus : Reply → Except AdminError Cluster.ClusterStatus :=
  readReply fun body => (Cluster.ClusterStatus.schema.codec.ofBytes body).mapError .decode

/-- Asks for the status of background healing on a node, or on the whole cluster if the node asks
its peers. -/
def backgroundHealStatus : Call Cluster.ClusterStatus :=
  .sends ⟨apiPath ++ "/background-heal/status", [], ""⟩ readBackgroundStatus

end HealControl.Admin
