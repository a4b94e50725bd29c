import HealControl.Admin.Client
import HealControl.Proofs.Json.WireTypes

/-!
# What heal calls make of replies

A heal call tells replies apart: a failure on the way, an error that the server reports, what was
asked for, and what cannot be read. An answer with another status than that of a success is an
error, whatever it holds. In a success a reported error is looked for only if the answer is not what
was asked for, and the two are never mixed up: what is asked for has a field that must be given and
that no reported error has.
-/
namespace HealControl.Admin

open HealControl.Heal
open HealControl.Json
open HealControl.Time (Timestamp)

/-! ## Reported errors on the wire -/

def ErrorPayload.bytes (payload : ErrorPayload) : List UInt8 :=
  (ErrorPayload.schema.codec.encode payload).bytes

theorem ofAnswer_bytes (status : HttpStatus) (payload : ErrorPayload) :
    ErrorPayload.ofAnswer status payload.bytes = payload := by
  rw [ErrorPayload.ofAnswer, ErrorPayload.bytes, reads_errorPayload.ofBytes]

/-- A record that has no field of a reported error finds none of its own fields in one. -/
theorem ofBytes_payload {ρ : Type} (s : Schema ρ)
    (hnames : ∀ name ∈ ErrorPayload.schema.fields.map Field.name, name ∉ s.fields.map Field.name)
    (payload : ErrorPayload) :
    s.codec.ofBytes payload.bytes =
      (Slots.row s.fields (Slots.none s.fields)).map s.ofRow := by
  have hunknown : ∀ w ∈ Row.fields ErrorPayload.schema.fields (ErrorPayload.schema.toRow payload),
      w.1 ∉ s.fields.map Field.name :=
    fun w hw => hnames w.1 (name_mem_of_mem_fields hw)
  have hslots := readAll_of_unknown hunknown (Slots.none s.fields)
  have hrow : s.row (ErrorPayload.schema.codec.encode payload).doc =
      Slots.row s.fields (Slots.none s.fields) := by
    simp only [Schema.codec, Value.doc, Schema.row, hslots, bind, Except.bind, ObjectEnd.fault?]
  rw [ErrorPayload.bytes, decode_bytes]
  simp only [Schema.codec] at hrow ⊢
  rw [hrow]

theorem receipt_ofBytes_payload (payload : ErrorPayload) :
    HealReceipt.schema.codec.ofBytes payload.bytes =
      .error (.unfit (.missingField "clientToken")) :=
  ofBytes_payload HealReceipt.schema (by decide) payload

theorem taskStatus_ofBytes_payload (payload : ErrorPayload) :
    TaskStatus.schema.codec.ofBytes payload.bytes = .error (.unfit (.missingField "summary")) :=
  ofBytes_payload TaskStatus.schema (by decide) payload

/-! ## Replies told apart -/

/-- A way of reading replies that tells them apart, where a success should hold a value of
`expected`, from which the answer is made. -/
structure TellsApart {α β : Type} (expected : Codec β) (answer : β → α)
    (read : Reply → Except AdminError α) : Prop where
  lost : ∀ failure, read (.failure failure) = .error (.transport failure)
  refused : ∀ status body, status.code ≠ 200 →
    ∃ payload, read (.answer status body) = .error (.server payload) ∧
      match ErrorPayload.schema.codec.ofBytes body with
      | .ok reported => payload = reported
      | .error _ => payload.code = status.text
  accepted : ∀ status body a, status.code = 200 →
    (read (.answer status body) = .ok a ↔ ∃ b, expected.ofBytes body = .ok b ∧ a = answer b)
  unexpected : ∀ status body fault, status.code = 200 → expected.ofBytes body = .error fault →
    read (.answer status body) =
      match ErrorPayload.schema.codec.ofBytes body with
      | .ok reported => .error (.server reported)
      | .error _ => .error (.decode fault)
  reported : ∀ status (payload : ErrorPayload),
    read (.answer status payload.bytes) = .error (.server payload)
  written : ∀ status b, status.code = 200 →
    read (.answer status (expected.encode b).bytes) = .ok (answer b)

section
variable {α β : Type} {expected : Codec β} {status : HttpStatus}

theorem readReply_of_ne (hne : status.code ≠ 200) (read : List UInt8 → Except AdminError β)
    (body : List UInt8) :
    readReply read (.answer status body) = .error (.server (.ofAnswer status body)) :=
  if_neg hne

theorem readReply_of_ok (hok : status.code = 200) (read : List UInt8 → Except AdminError β)
    (body : List UInt8) : readReply read (.answer status body) = read body :=
  if_pos hok

theorem readBody_of_ok {body : List UInt8} {b : β} (h : expected.ofBytes body = .ok b) :
    readBody expected body = .ok b := by
  rw [readBody, h]

theorem readBody_of_error {body : List UInt8} {fault : Fault}
    (h : expected.ofBytes body = .error fault) :
    readBody expected body =
      match ErrorPayload.schema.codec.ofBytes body with
      | .ok reported => .error (.server reported)
      | .error _ => .error (.decode fault) := by
  cases hpayload : ErrorPayload.schema.codec.ofBytes body with
  | ok reported => simp only [readBody, h, hpayload]
  | error _ => simp only [readBody, h, hpayload]

theorem readBody_eq_ok_iff (body : List UInt8) (b : β) :
    readBody expected body = .ok b ↔ expected.ofBytes body = .ok b := by
  constructor
  · intro h
    cases hbody : expected.ofBytes body with
    | ok b' =>
      rw [readBody_of_ok hbody, Except.ok.injEq] at h
      rw [h]
    | error fault =>
      rw [readBody_of_error hbody] at h
      cases hpayload : ErrorPayload.schema.codec.ofBytes body with
      | ok reported => simp [hpayload] at h
      | error _ => simp [hpayload] at h
  · exact readBody_of_ok

theorem ofAnswer_cases (status : HttpStatus) (body : List UInt8) :
    match ErrorPayload.schema.codec.ofBytes body with
    | .ok reported => ErrorPayload.ofAnswer status body = reported
    | .error _ => (ErrorPayload.ofAnswer status body).code = status.text := by
  unfold ErrorPayload.ofAnswer
  cases ErrorPayload.schema.codec.ofBytes body with
  | ok reported => rfl
  | error fault => rfl

/-- What a type reads back and does not find in a reported error is told apart from it. -/
theorem tellsApart_readReply {missing : Fault} (hreads : expected.Reads)
    (hpayload : ∀ payload : ErrorPayload, expected.ofBytes payload.bytes = .error missing)
    (answer : β → α) :
    TellsApart expected answer fun reply =>
      (readReply (readBody expected) reply).map answer where
  lost failure := rfl
  refused status body hne := by
    refine ⟨.ofAnswer status body, ?_, ofAnswer_cases status body⟩
    rw [readReply_of_ne hne]
    rfl
  accepted status body a hok := by
    rw [readReply_of_ok hok]
    constructor
    · intro h
      cases hbody : readBody expected body with
      | error error =>
        rw [hbody] at h
        cases h
      | ok b =>
        rw [hbody] at h
        exact ⟨b, (readBody_eq_ok_iff body b).mp hbody, (Except.ok.inj h).symm⟩
    · rintro ⟨b, hb, rfl⟩
      rw [readBody_of_ok hb]
      rfl
  unexpected status body fault hok hfault := by
    rw [readReply_of_ok hok, readBody_of_error hfault]
    cases ErrorPayload.schema.codec.ofBytes body with
    | ok reported => rfl
    | error _ => rfl
  reported status payload := by
    by_cases hok : status.code = 200
    · have hread : ErrorPayload.schema.codec.ofBytes payload.bytes = .ok payload :=
        reads_errorPayload.ofBytes payload
      rw [readReply_of_ok hok, readBody_of_error (hpayload payload), hread]
      rfl
    · rw [readReply_of_ne hok, ofAnswer_bytes]
      rfl
  written status b hok := by
    rw [readReply_of_ok hok, readBody_of_ok (hreads.ofBytes b)]
    rfl

end

/-! ## The calls -/

def Call.resultOn {α : Type} (call : Call α) (time : Timestamp) (rest : Script) (reply : Reply) :
    Except AdminError α :=
  (call.run (⟨reply, time⟩ :: rest)).result

section
variable {α β : Type} {c : HealCall} {missing : Fault} (time : Timestamp) (rest : Script)

theorem resultOn_send (h : (c.forceStart && c.forceStop) = false) (expected : Codec β) :
    (c.send expected).resultOn time rest = readReply (readBody expected) := by
  rw [HealCall.send, h]
  rfl

theorem resultOn_map (call : Call β) (f : β → α) :
    (call.map f).resultOn time rest = fun reply => (call.resultOn time rest reply).map f := by
  cases call with
  | refused cause => rfl
  | sends request read => rfl

theorem tellsApart_map_send (h : (c.forceStart && c.forceStop) = false) {expected : Codec β}
    (hreads : expected.Reads)
    (hpayload : ∀ payload : ErrorPayload, expected.ofBytes payload.bytes = .error missing)
    (answer : β → α) :
    TellsApart expected answer (((c.send expected).map answer).resultOn time rest) := by
  rw [resultOn_map, resultOn_send time rest h]
  exact tellsApart_readReply hreads hpayload answer

theorem tellsApart_send (h : (c.forceStart && c.forceStop) = false) {expected : Codec β}
    (hreads : expected.Reads)
    (hpayload : ∀ payload : ErrorPayload, expected.ofBytes payload.bytes = .error missing) :
    TellsApart expected id ((c.send expected).resultOn time rest) := by
  have htold := tellsApart_readReply hreads hpayload id
  simp only [Except.map_id, id] at htold
  rw [resultOn_send time rest h]
  exact htold

end

/-- Every heal call that is sent tells replies apart. It asks for a receipt if it has no token, and
for a status if it has one. -/
theorem tellsApart_healCalls (time : Timestamp) (rest : Script) :
    (∀ c : HealCall, (c.forceStart && c.forceStop) = false →
      (c.token = "" →
        TellsApart HealReceipt.schema.codec .started ((heal c).resultOn time rest)) ∧
      (c.token ≠ "" →
        TellsApart TaskStatus.schema.codec .status ((heal c).resultOn time rest))) ∧
    (∀ bucket objectPrefix options forceStart, TellsApart HealReceipt.schema.codec id
      ((startHeal bucket objectPrefix options forceStart).resultOn time rest)) ∧
    (∀ bucket objectPrefix token, token ≠ "" →
      TellsApart TaskStatus.schema.codec id
        ((healStatus bucket objectPrefix token).resultOn time rest) ∧
      TellsApart TaskStatus.schema.codec id
        ((stopHeal bucket objectPrefix token).resultOn time rest)) ∧
    ∀ bucket objectPrefix, TellsApart HealReceipt.schema.codec id
      ((forceStopHeal bucket objectPrefix).resultOn time rest) := by
  have hreceipt := receipt_ofBytes_payload
  have hstatus := taskStatus_ofBytes_payload
  refine ⟨?_, ?_, ?_, ?_⟩
  · intro c hallowed
    constructor
    · intro hempty
      have hcall : heal c = (c.send HealReceipt.schema.codec).map .started :=
        if_pos (by simp [hempty])
      rw [hcall]
      exact tellsApart_map_send time rest hallowed reads_healReceipt hreceipt _
    · intro htoken
      have hcall : heal c = (c.send TaskStatus.schema.codec).map .status :=
        if_neg (by simpa using htoken)
      rw [hcall]
      exact tellsApart_map_send time rest hallowed reads_taskStatus hstatus _
  · intro bucket objectPrefix options forceStart
    exact tellsApart_send time rest (Bool.and_false forceStart) reads_healReceipt hreceipt
  · intro bucket objectPrefix token htoken
    have hne : ¬ token.isEmpty := by simpa using htoken
    rw [healStatus, stopHeal, if_neg hne, if_neg hne]
    exact ⟨tellsApart_send time rest rfl reads_taskStatus hstatus,
      tellsApart_send time rest rfl reads_taskStatus hstatus⟩
  · intro bucket objectPrefix
    exact tellsApart_send time rest rfl reads_healReceipt hreceipt

/-- A question about a sequence that the server does not know, answered as one that succeeded, and a
receipt in an answer that is no success. -/
theorem tellsApart_healCalls_photos :
    let unknown : ErrorPayload := { (default : ErrorPayload) with code := "XHulkHealNoSuchProcess" }
    let receipt : HealReceipt := ⟨"t1", "node1", .epoch⟩
    let status : HttpStatus := ⟨502, by decide⟩
    let started := HealCall.mk "photos" "2021" default "" true false
    (started.forceStart && started.forceStop) = false ∧ started.token = "" ∧ "t1" ≠ "" ∧
    ((heal started).resultOn .epoch [] (.answer status
      (HealReceipt.schema.codec.encode receipt).bytes) ≠ .ok (.started receipt)) ∧
    (healStatus "photos" "2021" "t1").resultOn .epoch [] (.answer .ok unknown.bytes) =
      .error (.server unknown) := by
  intro unknown receipt status started
  obtain ⟨hheal, -, hasked, -⟩ := tellsApart_healCalls .epoch []
  have hstarted := (hheal started rfl).1 rfl
  obtain ⟨payload, hrefused, -⟩ :=
    hstarted.refused status (HealReceipt.schema.codec.encode receipt).bytes (by decide)
  refine ⟨rfl, rfl, by decide, ?_, ?_⟩
  · rw [hrefused]
    exact nofun
  · exact (hasked "photos" "2021" "t1" (by decide)).1.reported .ok unknown

end HealControl.Admin
