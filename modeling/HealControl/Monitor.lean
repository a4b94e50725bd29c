import HealControl.Admin.Client
import HealControl.Cluster.Merge
import HealControl.Time.Span

/-!
# Watching the nodes of a cluster

`collect` asks all nodes at once for their status and merges what they report. Answers come in the
order of their delays; each fills the slot of its node, and the slots are read in the order of the
nodes. A node that fails or does not answer in time counts as offline.
-/
namespace HealControl

open HealControl.Admin
open HealControl.Cluster
open HealControl.Time (Span)

inductive Reaction
  | replies (delay : Span) (reply : Reply)
  | hangs

structure Node where
  endpoint : String
  reaction : Reaction

abbrev NodeResult := Except AdminError ClusterStatus

/-- What ends the wait for one of the nodes, and when. -/
structure Completion where
  node : Nat
  time : Nat
  result : NodeResult

def timedOut : NodeResult :=
  .error (.transport ⟨.elapsed, []⟩)

/-- Whether an answer after `delay` is in time. One that comes at once always is. -/
def inTime (timeout delay : Span) : Bool :=
  delay.nanoseconds = 0 || delay.nanoseconds < timeout.nanoseconds

def Node.completion (timeout : Span) (n : Node) (number : Nat) : Completion :=
  match n.reaction with
  | .replies delay reply =>
    if inTime timeout delay then ⟨number, delay.nanoseconds, readBackgroundStatus reply⟩
    else ⟨number, timeout.nanoseconds, timedOut⟩
  | .hangs => ⟨number, timeout.nanoseconds, timedOut⟩

def completions (timeout : Span) (nodes : List Node) : List Completion :=
  (nodes.zipIdx.map fun n => n.1.completion timeout n.2).mergeSort fun c d => c.time ≤ d.time

def fill (slots : List (Option NodeResult)) (c : Completion) : List (Option NodeResult) :=
  slots.set c.node (some c.result)

def slots (timeout : Span) (nodes : List Node) : List (Option NodeResult) :=
  (completions timeout nodes).foldl fill (List.replicate nodes.length none)

/-- What a monitor tells: a node without a status, or a report that the merge leaves out. -/
inductive MonitorEvent
  | silent (endpoint : String) (timeout : Span)
  | unavailable (endpoint : String) (error : AdminError)
  | partialReport (report : PartialReport)

def MonitorEvent.record : MonitorEvent → Log.Record
  | .silent endpoint timeout =>
    ⟨.warning, endpoint ++ " did not report its heal status in " ++ timeout.text⟩
  | .unavailable endpoint error =>
    ⟨.warning, "unable to get heal status of " ++ endpoint ++ ": " ++ error.message⟩
  | .partialReport report => report.record

def snapshot? : Option NodeResult → Option ClusterStatus
  | some (.ok status) => some status
  | _ => none

def failure? : Option NodeResult → Option AdminError
  | some (.error error) => some error
  | _ => none

def offlineEvent (timeout : Span) (endpoint : String) (error : AdminError) : MonitorEvent :=
  if error.isTimeout then .silent endpoint timeout else .unavailable endpoint error

def offline (nodes : List Node) (slots : List (Option NodeResult)) :
    List (String × AdminError) :=
  (nodes.zip slots).filterMap fun (n, slot) => (failure? slot).map fun error => (n.endpoint, error)

/-- A cluster of which nothing is known but the nodes without a status. -/
def offlineStatus (endpoints : List String) : ClusterStatus :=
  { (default : ClusterStatus) with offlineNodes := endpoints }

structure Collected where
  status : ClusterStatus
  events : List MonitorEvent

/-- Asks all nodes for their status and merges their reports in the order of the nodes. -/
def collect (timeout : Span) (nodes : List Node) : Collected :=
  let slots := slots timeout nodes
  let failed := offline nodes slots
  let initial := offlineStatus (failed.map Prod.fst)
  let reports := slots.filterMap snapshot?
  { status := initial.merge reports
    events := (failed.map fun (endpoint, error) => offlineEvent timeout endpoint error) ++
      (initial.partialReports reports).map .partialReport }

end HealControl
