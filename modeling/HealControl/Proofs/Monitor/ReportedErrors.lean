import HealControl.Proofs.Admin.Replies
import HealControl.Proofs.Monitor.Survey

/-!
# Nodes that report an error

An error that a node reports is found in an answer whose status is no success, and the node counts
as offline. In an answer of success it is not looked for: none of its fields is one of a status,
and every field of a status may be missing, so it reads as the status of a node without anything to
heal.
-/
namespace HealControl

open HealControl.Admin
open HealControl.Cluster
open HealControl.Json
open HealControl.Time (Span)

/-- A reported error reads as a status in which everything is missing. -/
theorem status_ofBytes_payload (payload : ErrorPayload) :
    ClusterStatus.schema.codec.ofBytes payload.bytes = .ok default :=
  ofBytes_payload ClusterStatus.schema (by decide) payload

theorem readBackgroundStatus_payload (status : HttpStatus) (payload : ErrorPayload) :
    readBackgroundStatus (.answer status payload.bytes) =
      if status.code = 200 then .ok default else .error (.server payload) := by
  rw [readBackgroundStatus, readReply, status_ofBytes_payload, ofAnswer_bytes]
  rfl

theorem run_backgroundHealStatus (reply : Reply) (time : Time.Timestamp) (rest : Script) :
    (backgroundHealStatus.run (⟨reply, time⟩ :: rest)).result = readBackgroundStatus reply := rfl

theorem result_of_payload {status : HttpStatus} (h : status.code ≠ 200) (payload : ErrorPayload)
    (timeout delay : Span) (endpoint : String) :
    ∃ error, (Node.mk endpoint (.replies delay (.answer status payload.bytes))).result timeout =
      .error error := by
  by_cases hin : inTime timeout delay
  · refine ⟨.server payload, ?_⟩
    simp only [Node.result, hin, if_true, readBackgroundStatus_payload, if_neg h]
  · exact ⟨_, by simp only [Node.result, hin]; rfl⟩

/-- An error that a node reports is told, and its node is listed as offline with nothing merged from
it, unless the status of the answer is that of a success; then it is taken for an empty status. -/
theorem reported_error_told_unless_ok (payload : ErrorPayload) (status : HttpStatus) :
    let reply := Reply.answer status payload.bytes
    (∀ (time : Time.Timestamp) (rest : Script),
      (backgroundHealStatus.run (⟨reply, time⟩ :: rest)).result =
        if status.code = 200 then .ok default else .error (.server payload)) ∧
    (status.code ≠ 200 → ∀ (timeout delay : Span) (endpoint : String) (before after : List Node),
      let others := (collect timeout (before ++ after)).status
      ∃ xs ys, others.offlineNodes = xs ++ ys ∧
        (collect timeout (before ++ ⟨endpoint, .replies delay reply⟩ :: after)).status =
          { others with offlineNodes := xs ++ endpoint :: ys }) := by
  intro reply
  constructor
  · intro time rest
    rw [run_backgroundHealStatus, readBackgroundStatus_payload]
  · intro h timeout delay endpoint before after
    obtain ⟨error, herror⟩ := result_of_payload h payload timeout delay endpoint
    exact status_collect_of_error herror before after

def unavailablePayload : ErrorPayload :=
  { (default : ErrorPayload) with code := "XHulkServerNotInitialized", message := "try again" }

theorem reported_error_told_503 :
    let status : HttpStatus := ⟨503, by decide⟩
    let reply := Reply.answer status unavailablePayload.bytes
    let nodes := [Node.mk "node1" .hangs, ⟨"node2", .replies ⟨3⟩ reply⟩]
    status.code ≠ 200 ∧
    (backgroundHealStatus.run [⟨reply, .epoch⟩]).result = .error (.server unavailablePayload) ∧
    "node2" ∈ (collect ⟨9⟩ nodes).status.offlineNodes := by
  intro status reply nodes
  have hne : status.code ≠ 200 := by decide
  obtain ⟨hresult, hoffline⟩ := reported_error_told_unless_ok unavailablePayload status
  obtain ⟨xs, ys, -, hstatus⟩ := hoffline hne ⟨9⟩ ⟨3⟩ "node2" [⟨"node1", .hangs⟩] []
  refine ⟨hne, ?_, ?_⟩
  · exact (hresult .epoch []).trans (if_neg hne)
  · have hcollected := congrArg ClusterStatus.offlineNodes hstatus
    rw [List.singleton_append] at hcollected
    rw [hcollected]
    exact List.mem_append_right xs List.mem_cons_self

theorem reported_error_taken_for_empty :
    let reply := Reply.answer .ok unavailablePayload.bytes
    (backgroundHealStatus.run [⟨reply, .epoch⟩]).result ≠ .error (.server unavailablePayload) ∧
    "node2" ∉ (collect ⟨9⟩ [⟨"node2", .replies ⟨3⟩ reply⟩]).status.offlineNodes := by
  intro reply
  have hread : readBackgroundStatus reply = .ok default :=
    readBackgroundStatus_payload .ok unavailablePayload
  have hnode : (Node.mk "node2" (.replies ⟨3⟩ reply)).result ⟨9⟩ = .ok default := hread
  constructor
  · rw [run_backgroundHealStatus, hread]
    exact nofun
  · rw [status_collect_eq_with, survey_cons_of_ok _ hnode]
    exact List.not_mem_nil

end HealControl
