import HealControl.Proofs.Admin.HealRequests
import HealControl.Proofs.Admin.Replies

/-!
# Calls that start, watch and stop

Each of them is a heal call with some of its values fixed, and comes to what the heal call comes to.
The answer needs no second look: a heal call is answered by a status exactly if it has a token.
-/
namespace HealControl.Admin

open HealControl.Heal
open HealControl.Json

variable {α : Type}

/-- A call sends what a heal call sends, and its outcome is the one of the heal call unwrapped. -/
structure Call.AgreesWith (call : Call α) (c : HealCall) (unwrap : HealResponse → Option α) :
    Prop where
  requests : ∀ script, (call.run script).requests = ((heal c).run script).requests
  rest : ∀ script, (call.run script).rest = ((heal c).run script).rest
  result : ∀ script, (call.run script).result.map some = ((heal c).run script).result.map unwrap

theorem agreesWith_of_map {call : Call α} {c : HealCall} {wrap : α → HealResponse}
    {unwrap : HealResponse → Option α} (hheal : heal c = call.map wrap)
    (hunwrap : ∀ a, unwrap (wrap a) = some a) : call.AgreesWith c unwrap where
  requests script := by rw [hheal, Call.run_map]
  rest script := by rw [hheal, Call.run_map]
  result script := by
    rw [hheal, Call.run_map]
    cases (call.run script).result with
    | error error => rfl
    | ok a => simp only [Except.map, hunwrap]

theorem agreesWith_send_of_empty {c : HealCall} (h : c.token = "") :
    (c.send HealReceipt.schema.codec).AgreesWith c HealResponse.started? :=
  agreesWith_of_map (heal_of_empty c h) fun _ => rfl

/-- What is sent with a token stands for the heal call with any options. -/
theorem agreesWith_send_of_token {c : HealCall} (h : c.token ≠ "") (options : HealOptions) :
    (c.send TaskStatus.schema.codec).AgreesWith { c with options := options }
      HealResponse.status? := by
  have hheal := heal_of_token { c with options := options } h
  rw [send_of_token c _ h] at hheal
  exact agreesWith_of_map hheal fun _ => rfl

theorem token_of_started {c : HealCall} {script : Script} {receipt : HealReceipt}
    (h : ((heal c).run script).result = .ok (.started receipt)) : c.token = "" := by
  by_contra ht
  rw [heal_of_token c ht, Call.run_map] at h
  cases hresult : ((c.send TaskStatus.schema.codec).run script).result with
  | error error => simp [hresult, Except.map] at h
  | ok status => simp [hresult, Except.map] at h

theorem token_of_status {c : HealCall} {script : Script} {status : TaskStatus}
    (h : ((heal c).run script).result = .ok (.status status)) : c.token ≠ "" := by
  intro ht
  rw [heal_of_empty c ht, Call.run_map] at h
  cases hresult : ((c.send HealReceipt.schema.codec).run script).result with
  | error error => simp [hresult, Except.map] at h
  | ok receipt => simp [hresult, Except.map] at h

/-- What the calls come to, that heal calls do not mix up their answers, and what is refused. -/
theorem agreesWith_healCalls (bucket objectPrefix : String) :
    (∀ options forceStart, (startHeal bucket objectPrefix options forceStart).AgreesWith
      ⟨bucket, objectPrefix, options, "", forceStart, false⟩ HealResponse.started?) ∧
    (forceStopHeal bucket objectPrefix).AgreesWith
      ⟨bucket, objectPrefix, default, "", false, true⟩ HealResponse.started? ∧
    (∀ token, token ≠ "" → ∀ options,
      (healStatus bucket objectPrefix token).AgreesWith
        ⟨bucket, objectPrefix, options, token, false, false⟩ HealResponse.status? ∧
      (stopHeal bucket objectPrefix token).AgreesWith
        ⟨bucket, objectPrefix, options, token, false, true⟩ HealResponse.status?) ∧
    (∀ (c : HealCall) script,
      (∀ receipt, ((heal c).run script).result = .ok (.started receipt) → c.token = "") ∧
      ∀ status, ((heal c).run script).result = .ok (.status status) → c.token ≠ "") ∧
    ∀ script,
      (healStatus bucket objectPrefix "").run script =
        ⟨.error (.invalidArgument .tokenRequired), [], script⟩ ∧
      (stopHeal bucket objectPrefix "").run script =
        ⟨.error (.invalidArgument .tokenRequired), [], script⟩ := by
  refine ⟨?_, agreesWith_send_of_empty rfl, ?_, ?_, fun script => ⟨rfl, rfl⟩⟩
  · intro options forceStart
    exact agreesWith_send_of_empty rfl
  · intro token htoken options
    have hne : ¬ token.isEmpty := by simpa using htoken
    rw [healStatus, stopHeal, if_neg hne, if_neg hne]
    exact ⟨agreesWith_send_of_token htoken options, agreesWith_send_of_token htoken options⟩
  · intro c script
    exact ⟨fun _ => token_of_started, fun _ => token_of_status⟩

/-- A start that is answered by a receipt, and what is asked and stopped with its token. -/
theorem agreesWith_healCalls_photos :
    let receipt : HealReceipt := ⟨"t1", "node1", .epoch⟩
    let reply : Reply := .answer .ok (HealReceipt.schema.codec.encode receipt).bytes
    let started := HealCall.mk "photos" "2021" default "" true false
    ((heal started).run [⟨reply, .epoch⟩]).result = .ok (.started receipt) ∧ started.token = "" ∧
    "t1" ≠ "" ∧
    ((stopHeal "photos" "2021" "t1").run []).requests =
      ((heal ⟨"photos", "2021", default, "t1", false, true⟩).run []).requests := by
  intro receipt reply started
  obtain ⟨-, -, hasked, htold, -⟩ := agreesWith_healCalls "photos" "2021"
  have htells : TellsApart HealReceipt.schema.codec HealResponse.started
      (((started.send HealReceipt.schema.codec).map HealResponse.started).resultOn .epoch []) :=
    tellsApart_map_send .epoch [] rfl reads_healReceipt receipt_ofBytes_payload HealResponse.started
  have hstarted : ((heal started).run [⟨reply, .epoch⟩]).result = .ok (.started receipt) := by
    rw [heal_of_empty started rfl]
    exact htells.written .ok receipt rfl
  exact ⟨hstarted, (htold started _).1 receipt hstarted, by decide,
    (hasked "t1" (by decide) default).2.requests []⟩

end HealControl.Admin
