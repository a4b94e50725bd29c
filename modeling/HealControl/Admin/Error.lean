import HealControl.Admin.HttpStatus
import HealControl.Json.Record

/-!
# What can go wrong with a request

A request may be refused before it is sent, fail on its way, be answered with an error of the
server, or be answered with something that cannot be read.
-/
namespace HealControl.Admin

open HealControl.Json

structure ErrorPayload where
  code : String
  message : String
  bucketName : String
  key : String
  resource : String
  requestId : String
  hostId : String
  region : String
deriving DecidableEq, Repr

namespace ErrorPayload

/-- A code must be given, so that not every object is taken for an error. -/
def schema : Schema ErrorPayload where
  name := "ErrorResponse"
  fields := [
    .required "Code" .text,
    .optional "Message" .text "",
    .optional "BucketName" .text "",
    .optional "Key" .text "",
    .optional "Resource" .text "",
    .optional "RequestId" .text "",
    .optional "HostId" .text "",
    .optional "Region" .text ""]
  toRow e := (e.code, e.message, e.bucketName, e.key, e.resource, e.requestId, e.hostId,
    e.region, ())
  ofRow := fun (a, b, c, d, e, f, g, h, ()) => ⟨a, b, c, d, e, f, g, h⟩
  ofRow_toRow _ := rfl

instance : Inhabited ErrorPayload := ⟨⟨"", "", "", "", "", "", "", ""⟩⟩

def unreadable (status : HttpStatus) (fault : Fault) : ErrorPayload :=
  { (default : ErrorPayload) with
    code := status.text
    message := "Failed to parse server response (" ++ status.text ++ "): " ++ fault.message }

def ofAnswer (status : HttpStatus) (body : List UInt8) : ErrorPayload :=
  match schema.codec.ofBytes body with
  | .ok e => e
  | .error fault => unreadable status fault

end ErrorPayload

inductive InvalidArgument
  | bothForced
  | tokenRequired
  | unknownSequence (token : String)
deriving DecidableEq, Repr

def InvalidArgument.message : InvalidArgument → String
  | .bothForced => "forceStart and forceStop set to true is not allowed"
  | .tokenRequired => "client token is required"
  | .unknownSequence token => "unknown heal sequence '" ++ token ++ "'"

/-- What first went wrong on the way: a failure in the words of the carrier, time that ran out
while waiting, or an error of the client that carries requests, which knows of itself whether it
gave up in time. -/
inductive TransportCause
  | failed (message : String)
  | elapsed
  | carrier (message : String) (gaveUp : Bool)
deriving DecidableEq, Repr

def TransportCause.message : TransportCause → String
  | .failed message => message
  | .elapsed => "deadline has elapsed"
  | .carrier message _ => message

/-- A failure on the way: its cause, and the contexts in which it was reported, the last one
outermost. -/
structure TransportFailure where
  cause : TransportCause
  contexts : List String
deriving DecidableEq, Repr

def TransportFailure.message (f : TransportFailure) : String :=
  f.contexts.getLast?.getD f.cause.message

inductive ErrorLink
  | context (text : String)
  | cause (cause : TransportCause)
deriving DecidableEq, Repr

/-- A chain of errors, from the outermost one to the cause. -/
abbrev ErrorChain := List ErrorLink

def ErrorChain.wrap (chain : ErrorChain) (text : String) : ErrorChain :=
  .context text :: chain

/-- Walks a chain from the outside to the first error that is of the kind asked for. -/
def ErrorChain.first? {α : Type} (ofKind? : ErrorLink → Option α) (chain : ErrorChain) : Option α :=
  chain.findSome? ofKind?

def ErrorLink.elapsed? : ErrorLink → Option Unit
  | .cause .elapsed => some ()
  | _ => none

def ErrorLink.gaveUp? : ErrorLink → Option Bool
  | .cause (.carrier _ gaveUp) => some gaveUp
  | _ => none

def TransportFailure.chain (f : TransportFailure) : ErrorChain :=
  f.contexts.foldl ErrorChain.wrap [.cause f.cause]

/-- Whether time ran out, as far as the first error of either kind in the chain tells. -/
def TransportFailure.isTimeout (f : TransportFailure) : Bool :=
  (f.chain.first? ErrorLink.elapsed?).isSome || (f.chain.first? ErrorLink.gaveUp?).getD false

inductive AdminError
  | invalidArgument (cause : InvalidArgument)
  | transport (failure : TransportFailure)
  | server (payload : ErrorPayload)
  | decode (fault : Fault)
deriving DecidableEq, Repr

namespace AdminError

def message : AdminError → String
  | .invalidArgument cause => "Invalid arguments specified: " ++ cause.message
  | .transport failure => "transport error: " ++ failure.message
  | .server payload => "server error: " ++ payload.message
  | .decode fault => "decode error: " ++ fault.message

def isTimeout : AdminError → Bool
  | .transport failure => failure.isTimeout
  | _ => false

def serverCode? : AdminError → Option String
  | .server payload => some payload.code
  | _ => none

end AdminError

end HealControl.Admin
