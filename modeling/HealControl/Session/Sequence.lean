import HealControl.Admin.Client

/-!
# Heal sequences on the side of the caller

A sequence is what the caller knows of a heal that it started: where it runs, the results so far,
and the state that the last answer put it in.
-/
namespace HealControl.Session

open HealControl.Admin
open HealControl.Heal
open HealControl.Time (Timestamp)

inductive SequenceState
  | notStarted
  | running
  | completed
  | stopped
  | failed
deriving DecidableEq, Repr

inductive Summary
  | notStarted
  | running
  | stopped
  | finished
  | failed
deriving DecidableEq, Repr

def Summary.text : Summary → String
  | .notStarted => "not started"
  | .running => "running"
  | .stopped => "stopped"
  | .finished => "finished"
  | .failed => "failed"

def Summary.all : List Summary :=
  [.notStarted, .running, .stopped, .finished, .failed]

namespace SequenceState

def all : List SequenceState :=
  [.notStarted, .running, .completed, .stopped, .failed]

def name : SequenceState → String
  | .notStarted => "not_started"
  | .running => "running"
  | .completed => "completed"
  | .stopped => "stopped"
  | .failed => "failed"

def isTerminal : SequenceState → Bool
  | .notStarted | .running => false
  | .completed | .stopped | .failed => true

/-- A sequence that was stopped by an error carries the error as its detail. One that the server has
accepted but not started counts as running, and so does one with any other summary. -/
def ofStatus (summary failureDetail : String) : SequenceState :=
  if summary = Summary.finished.text then .completed
  else if summary = Summary.stopped.text then
    if failureDetail.isEmpty then .stopped else .failed
  else if summary = Summary.failed.text then .failed
  else .running

end SequenceState

/-- A heal sequence. Its items are the results of all answers so far, in the order in which they
came. -/
structure Sequence where
  bucket : String
  objectPrefix : String
  options : HealOptions
  clientToken : String
  clientAddress : String
  startTime : Timestamp
  state : SequenceState
  summary : String
  failureDetail : String
  items : List HealResult
  lastUpdate : Option Timestamp
deriving DecidableEq

namespace Sequence

def started (bucket objectPrefix : String) (options : HealOptions) (receipt : HealReceipt)
    (now : Timestamp) : Sequence where
  bucket := bucket
  objectPrefix := objectPrefix
  options := options
  clientToken := receipt.clientToken
  clientAddress := receipt.clientAddress
  startTime := receipt.startTime
  state := .running
  summary := Summary.running.text
  failureDetail := ""
  items := []
  lastUpdate := some now

def afterStatus (s : Sequence) (status : TaskStatus) (now : Timestamp) : Sequence :=
  { s with
    state := .ofStatus status.summary status.failureDetail
    summary := status.summary
    failureDetail := status.failureDetail
    items := s.items ++ status.items
    lastUpdate := some now }

def afterError (s : Sequence) (error : AdminError) (now : Timestamp) : Sequence :=
  { s with
    state := .failed
    failureDetail := error.message
    lastUpdate := some now }

def stopped (s : Sequence) : Sequence :=
  { s with state := .stopped }

def isOn (s : Sequence) (bucket objectPrefix : String) : Bool :=
  s.bucket == bucket && s.objectPrefix == objectPrefix

end Sequence

end HealControl.Session
