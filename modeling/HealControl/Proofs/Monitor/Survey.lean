import HealControl.Monitor
import HealControl.Proofs.Json.WireTypes

/-!
# Asking all nodes at once or one after the other

Whether a node is in time does not depend on the others, and each wait fills the slot of its own
node only. So the slots hold no trace of the order in which the waits ended, and what is collected
is what a loop finds that asks one node after the other.
-/
namespace HealControl

open HealControl.Admin
open HealControl.Cluster
open HealControl.Json
open HealControl.Time (Span)

/-- What is known of a node that is asked alone. -/
def Node.result (timeout : Span) (n : Node) : NodeResult :=
  match n.reaction with
  | .replies delay reply => if inTime timeout delay then readBackgroundStatus reply else timedOut
  | .hangs => timedOut

/-- What a loop over nodes has found: those without a status, and the reports of the others. -/
structure Survey where
  failed : List (String × AdminError)
  reports : List ClusterStatus

def Survey.visit (timeout : Span) (s : Survey) (n : Node) : Survey :=
  match n.result timeout with
  | .ok report => { s with reports := s.reports ++ [report] }
  | .error error => { s with failed := s.failed ++ [(n.endpoint, error)] }

def survey (timeout : Span) (nodes : List Node) : Survey :=
  nodes.foldl (Survey.visit timeout) ⟨[], []⟩

/-- Time ran out: in the wait for the node, or on the way of the request, in whatever contexts
this was reported. -/
inductive RanOut : AdminError → Prop
  | elapsed (contexts : List String) : RanOut (.transport ⟨.elapsed, contexts⟩)
  | carrier (message : String) (contexts : List String) :
      RanOut (.transport ⟨.carrier message true, contexts⟩)

section
variable {α : Type} {ofKind? : ErrorLink → Option α}
  (hcontext : ∀ text, ofKind? (.context text) = none)
include hcontext

theorem first?_wrap (chain : ErrorChain) (text : String) :
    (chain.wrap text).first? ofKind? = chain.first? ofKind? := by
  rw [ErrorChain.wrap, ErrorChain.first?, List.findSome?_cons, hcontext]
  rfl

theorem first?_foldl_wrap (contexts : List String) (chain : ErrorChain) :
    (contexts.foldl ErrorChain.wrap chain).first? ofKind? = chain.first? ofKind? := by
  induction contexts generalizing chain with
  | nil => rfl
  | cons text rest ih => rw [List.foldl_cons, ih, first?_wrap hcontext]

/-- An error that is no context is found behind all contexts, or not at all. -/
theorem first?_chain (failure : TransportFailure) :
    failure.chain.first? ofKind? = ofKind? (.cause failure.cause) := by
  rw [TransportFailure.chain, first?_foldl_wrap hcontext]
  exact List.findSome?_singleton

end

theorem isTimeout_failure (failure : TransportFailure) :
    failure.isTimeout =
      ((ErrorLink.elapsed? (.cause failure.cause)).isSome ||
        (ErrorLink.gaveUp? (.cause failure.cause)).getD false) := by
  rw [TransportFailure.isTimeout, first?_chain fun _ => rfl, first?_chain fun _ => rfl]

theorem isTimeout_iff (error : AdminError) : error.isTimeout ↔ RanOut error := by
  constructor
  · intro h
    cases error with
    | transport failure =>
      rw [AdminError.isTimeout, isTimeout_failure] at h
      obtain ⟨cause, contexts⟩ := failure
      cases cause with
      | failed message => cases h
      | elapsed => exact .elapsed contexts
      | carrier message gaveUp =>
        obtain rfl : gaveUp = true := h
        exact .carrier message contexts
    | _ => cases h
  · intro h
    cases h <;> exact isTimeout_failure _

instance (error : AdminError) : Decidable (RanOut error) :=
  decidable_of_iff _ (isTimeout_iff error)

def offlineWarning (timeout : Span) (endpoint : String) (error : AdminError) : Log.Record where
  level := .warning
  message :=
    if RanOut error then endpoint ++ " did not report its heal status in " ++ timeout.text
    else "unable to get heal status of " ++ endpoint ++ ": " ++ error.message

section
variable (timeout : Span)

theorem foldl_visit (nodes : List Node) (s : Survey) :
    nodes.foldl (Survey.visit timeout) s =
      ⟨s.failed ++ (survey timeout nodes).failed, s.reports ++ (survey timeout nodes).reports⟩ := by
  induction nodes generalizing s with
  | nil => simp [survey]
  | cons n rest ih =>
    have hs := ih (s.visit timeout n)
    have hempty := ih (Survey.visit timeout ⟨[], []⟩ n)
    rw [survey, List.foldl_cons, List.foldl_cons, hs, hempty]
    unfold Survey.visit
    split <;> simp

theorem survey_append (nodes more : List Node) :
    survey timeout (nodes ++ more) =
      ⟨(survey timeout nodes).failed ++ (survey timeout more).failed,
        (survey timeout nodes).reports ++ (survey timeout more).reports⟩ := by
  rw [survey, List.foldl_append, foldl_visit]
  rfl

theorem survey_cons_of_ok {n : Node} {report : ClusterStatus} (h : n.result timeout = .ok report)
    (rest : List Node) :
    survey timeout (n :: rest) =
      ⟨(survey timeout rest).failed, report :: (survey timeout rest).reports⟩ := by
  rw [survey, List.foldl_cons, Survey.visit, h, foldl_visit]
  rfl

theorem survey_cons_of_error {n : Node} {error : AdminError} (h : n.result timeout = .error error)
    (rest : List Node) :
    survey timeout (n :: rest) =
      ⟨(n.endpoint, error) :: (survey timeout rest).failed, (survey timeout rest).reports⟩ := by
  rw [survey, List.foldl_cons, Survey.visit, h, foldl_visit]
  rfl

theorem offline_map_result (nodes : List Node) :
    offline nodes (nodes.map fun n => some (n.result timeout)) = (survey timeout nodes).failed := by
  induction nodes with
  | nil => rfl
  | cons n rest ih =>
    rw [offline] at ih
    rw [offline, List.map_cons, List.zip_cons_cons, List.filterMap_cons, ih]
    cases h : n.result timeout with
    | ok report => rw [survey_cons_of_ok timeout h]; rfl
    | error error => rw [survey_cons_of_error timeout h]; rfl

theorem filterMap_snapshot?_map_result (nodes : List Node) :
    (nodes.map fun n => some (n.result timeout)).filterMap snapshot? =
      (survey timeout nodes).reports := by
  induction nodes with
  | nil => rfl
  | cons n rest ih =>
    rw [List.map_cons, List.filterMap_cons, ih]
    cases h : n.result timeout with
    | ok report => rw [survey_cons_of_ok timeout h]; rfl
    | error error => rw [survey_cons_of_error timeout h]; rfl

theorem length_survey (nodes : List Node) :
    (survey timeout nodes).failed.length + (survey timeout nodes).reports.length =
      nodes.length := by
  induction nodes with
  | nil => rfl
  | cons n rest ih =>
    cases h : n.result timeout with
    | ok report =>
      rw [survey_cons_of_ok timeout h]
      simp only [List.length_cons]
      omega
    | error error =>
      rw [survey_cons_of_error timeout h]
      simp only [List.length_cons]
      omega

end

/-! ## What nodes send -/

/-- The node answers with success and in time, and what it sends is a status. -/
def Node.Sends (timeout : Span) (n : Node) (report : ClusterStatus) : Prop :=
  ∃ delay status,
    n.reaction =
      .replies delay (.answer status (ClusterStatus.schema.codec.encode report).bytes) ∧
    status.code = 200 ∧ inTime timeout delay

theorem readBackgroundStatus_bytes {status : HttpStatus} (h : status.code = 200)
    (report : ClusterStatus) :
    readBackgroundStatus (.answer status (ClusterStatus.schema.codec.encode report).bytes) =
      .ok report := by
  rw [readBackgroundStatus, readReply, if_pos h, reads_clusterStatus.ofBytes]
  rfl

theorem Node.Sends.result {timeout : Span} {n : Node} {report : ClusterStatus}
    (h : n.Sends timeout report) : n.result timeout = .ok report := by
  obtain ⟨delay, status, hreaction, hstatus, hdelay⟩ := h
  simp only [Node.result, hreaction, hdelay, if_true]
  exact readBackgroundStatus_bytes hstatus report

/-- A status that a node sends is found in the place of the node. -/
theorem reports_survey_of_sends {timeout : Span} {n : Node} {report : ClusterStatus}
    (h : n.Sends timeout report) (before after : List Node) :
    (survey timeout (before ++ n :: after)).reports =
      (survey timeout before).reports ++ report :: (survey timeout after).reports := by
  rw [survey_append, survey_cons_of_ok timeout h.result]

/-! ## The order of the answers -/

def waits (timeout : Span) (nodes : List Node) : List Completion :=
  nodes.zipIdx.map fun n => n.1.completion timeout n.2

theorem node_completion (timeout : Span) (n : Node) (number : Nat) :
    (n.completion timeout number).node = number := by
  unfold Node.completion
  split
  · split <;> rfl
  · rfl

theorem result_completion (timeout : Span) (n : Node) (number : Nat) :
    (n.completion timeout number).result = n.result timeout := by
  unfold Node.completion Node.result
  cases n.reaction with
  | replies delay reply => by_cases h : inTime timeout delay <;> simp [h]
  | hangs => rfl

theorem length_foldl_fill (order : List Completion) (slots : List (Option NodeResult)) :
    (order.foldl fill slots).length = slots.length := by
  induction order generalizing slots with
  | nil => rfl
  | cons c rest ih => rw [List.foldl_cons, ih, fill, List.length_set]

theorem getElem?_foldl_fill_of_not_mem {order : List Completion} {i : Nat}
    (hi : i ∉ order.map Completion.node) (slots : List (Option NodeResult)) :
    (order.foldl fill slots)[i]? = slots[i]? := by
  induction order generalizing slots with
  | nil => rfl
  | cons c rest ih =>
    rw [List.map_cons, List.mem_cons, not_or] at hi
    rw [List.foldl_cons, ih hi.2, fill, List.getElem?_set_ne (Ne.symm hi.1)]

theorem getElem?_foldl_fill_of_mem {order : List Completion} {c : Completion}
    (hnodup : (order.map Completion.node).Nodup) (hc : c ∈ order)
    (slots : List (Option NodeResult)) (hlt : c.node < slots.length) :
    (order.foldl fill slots)[c.node]? = some (some c.result) := by
  induction order generalizing slots with
  | nil => cases hc
  | cons first rest ih =>
    rw [List.map_cons, List.nodup_cons] at hnodup
    rw [List.foldl_cons]
    rcases List.mem_cons.mp hc with rfl | hrest
    · -- no later wait is for the same node
      rw [getElem?_foldl_fill_of_not_mem hnodup.1, fill, List.getElem?_set_self hlt]
    · exact ih hnodup.2 hrest _ (by rwa [fill, List.length_set])

theorem nodup_node_waits (timeout : Span) (nodes : List Node) :
    ((waits timeout nodes).map Completion.node).Nodup := by
  have hnumbers : (waits timeout nodes).map Completion.node = nodes.zipIdx.map Prod.snd := by
    rw [waits, List.map_map]
    exact List.map_congr_left fun n _ => node_completion timeout n.1 n.2
  rw [hnumbers, List.zipIdx_map_snd]
  exact List.nodup_range'

/-- In whatever order the waits end, each slot holds the result of its node. -/
theorem foldl_fill_of_perm {timeout : Span} {nodes : List Node} {order : List Completion}
    (h : order.Perm (waits timeout nodes)) :
    order.foldl fill (List.replicate nodes.length none) =
      nodes.map fun n => some (n.result timeout) := by
  have hnodup : (order.map Completion.node).Nodup :=
    (h.map Completion.node).nodup_iff.mpr (nodup_node_waits timeout nodes)
  apply List.ext_getElem?
  intro i
  by_cases hi : i < nodes.length
  · have hnode : (nodes[i], i) ∈ nodes.zipIdx := by
      rw [List.mem_zipIdx_iff_getElem?]
      exact List.getElem?_eq_getElem hi
    have hmem : nodes[i].completion timeout i ∈ order := by
      rw [h.mem_iff]
      exact List.mem_map.mpr ⟨(nodes[i], i), hnode, rfl⟩
    have hslot := getElem?_foldl_fill_of_mem hnodup hmem (List.replicate nodes.length none)
      (by rwa [node_completion, List.length_replicate])
    rw [node_completion, result_completion] at hslot
    rw [hslot, List.getElem?_map, List.getElem?_eq_getElem hi, Option.map_some]
  · have hle : nodes.length ≤ i := Nat.le_of_not_lt hi
    rw [List.getElem?_eq_none (by rwa [length_foldl_fill, List.length_replicate]),
      List.getElem?_eq_none (by rwa [List.length_map])]

theorem slots_eq (timeout : Span) (nodes : List Node) :
    slots timeout nodes = nodes.map fun n => some (n.result timeout) :=
  foldl_fill_of_perm (List.mergeSort_perm _ _)

/-! ## What is collected -/

theorem status_collect (timeout : Span) (nodes : List Node) :
    (collect timeout nodes).status =
      (offlineStatus ((survey timeout nodes).failed.map Prod.fst)).merge
        (survey timeout nodes).reports := by
  rw [collect, slots_eq, offline_map_result, filterMap_snapshot?_map_result]

theorem status_collect_eq_with (timeout : Span) (nodes : List Node) :
    (collect timeout nodes).status =
      { (default : ClusterStatus).merge (survey timeout nodes).reports with
        offlineNodes := (survey timeout nodes).failed.map Prod.fst ++
          (survey timeout nodes).reports.flatMap ClusterStatus.offlineNodes } := by
  rw [status_collect]
  exact ClusterStatus.merge_withOffline default _ _

/-- A node without a status is listed in its place, and nothing is merged from it. -/
theorem status_collect_of_error {timeout : Span} {n : Node} {error : AdminError}
    (h : n.result timeout = .error error) (before after : List Node) :
    ∃ xs ys, (collect timeout (before ++ after)).status.offlineNodes = xs ++ ys ∧
      (collect timeout (before ++ n :: after)).status =
        { (collect timeout (before ++ after)).status with
          offlineNodes := xs ++ n.endpoint :: ys } := by
  refine ⟨(survey timeout before).failed.map Prod.fst,
    (survey timeout after).failed.map Prod.fst ++
      (survey timeout (before ++ after)).reports.flatMap ClusterStatus.offlineNodes, ?_, ?_⟩
  · rw [status_collect_eq_with, ← List.append_assoc, ← List.map_append, survey_append]
  · have hreports : (survey timeout (before ++ n :: after)).reports =
        (survey timeout (before ++ after)).reports := by
      rw [survey_append, survey_append, survey_cons_of_error timeout h]
    have hfailed : (survey timeout (before ++ n :: after)).failed.map Prod.fst =
        (survey timeout before).failed.map Prod.fst ++
          n.endpoint :: (survey timeout after).failed.map Prod.fst := by
      rw [survey_append, survey_cons_of_error timeout h, List.map_append, List.map_cons]
    rw [status_collect_eq_with, status_collect_eq_with, hreports, hfailed, List.append_assoc,
      List.cons_append]

theorem record_offlineEvent (timeout : Span) (endpoint : String) (error : AdminError) :
    (offlineEvent timeout endpoint error).record = offlineWarning timeout endpoint error := by
  unfold offlineEvent offlineWarning
  by_cases h : RanOut error
  · rw [if_pos ((isTimeout_iff error).mpr h), if_pos h]
    rfl
  · rw [if_neg (fun ht => h ((isTimeout_iff error).mp ht)), if_neg h]
    rfl

theorem warnings_collect (timeout : Span) (nodes : List Node) :
    ((collect timeout nodes).events.map MonitorEvent.record).filter (fun r => r.level = .warning) =
      (survey timeout nodes).failed.map fun e => offlineWarning timeout e.1 e.2 := by
  have hfailed : ∀ failed : List (String × AdminError),
      ((failed.map fun e => offlineEvent timeout e.1 e.2).map MonitorEvent.record).filter
        (fun r => r.level = .warning) =
      failed.map fun e => offlineWarning timeout e.1 e.2 := by
    intro failed
    rw [List.map_map, List.filter_eq_self.mpr]
    · exact List.map_congr_left fun e _ => record_offlineEvent timeout e.1 e.2
    · intro r hr
      obtain ⟨e, -, rfl⟩ := List.mem_map.mp hr
      rw [Function.comp_apply, record_offlineEvent]
      rfl
  have hpartial : ∀ reports : List PartialReport,
      ((reports.map MonitorEvent.partialReport).map MonitorEvent.record).filter
        (fun r => r.level = .warning) = [] := by
    intro reports
    rw [List.map_map, List.filter_eq_nil_iff]
    intro r hr
    obtain ⟨report, -, rfl⟩ := List.mem_map.mp hr
    simp [MonitorEvent.record, PartialReport.record]
  rw [collect, slots_eq, offline_map_result, List.map_append, List.filter_append, hpartial,
    List.append_nil]
  exact hfailed _

end HealControl
