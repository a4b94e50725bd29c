import HealControl.Proofs.Admin.Paths
import HealControl.Proofs.Json.WireTypes

/-!
# Requests of heal calls

A heal call sends one request, or none if it is to start and to stop at once. The path comes from the
bucket and the prefix alone and tells them apart as long as the bucket is a single part of it. A
token takes the place of the options: the call with it is the same whatever the options are, and the
one without it carries them in a form in which they are found again.
-/
namespace HealControl.Admin

open HealControl.Heal
open HealControl.Json

/-! ## A call and its request -/

section
variable {α β : Type}

theorem Call.run_refused (cause : InvalidArgument) (script : Script) :
    (Call.refused cause : Call α).run script = ⟨.error (.invalidArgument cause), [], script⟩ := rfl

theorem Call.requests_run_sends (request : Request) (read : Reply → Except AdminError α)
    (script : Script) : ((Call.sends request read).run script).requests = [request] := by
  cases script with
  | nil => rfl
  | cons arrival rest => rfl

theorem Call.run_map (call : Call α) (f : α → β) (script : Script) :
    (call.map f).run script =
      ⟨(call.run script).result.map f, (call.run script).requests, (call.run script).rest⟩ := by
  cases call with
  | refused cause => rfl
  | sends request read =>
    cases script with
    | nil => rfl
    | cons arrival rest => rfl

end

section
variable (c : HealCall) (script : Script)

theorem heal_of_empty (h : c.token = "") :
    heal c = (c.send HealReceipt.schema.codec).map .started :=
  if_pos (by simp [h])

theorem heal_of_token (h : c.token ≠ "") : heal c = (c.send TaskStatus.schema.codec).map .status :=
  if_neg (by simpa using h)

theorem send_of_bothForced {α : Type} (expected : Codec α)
    (h : c.forceStart = true ∧ c.forceStop = true) : c.send expected = .refused .bothForced :=
  if_pos (by simpa using h)

theorem send_of_allowed {α : Type} (expected : Codec α)
    (h : ¬ (c.forceStart = true ∧ c.forceStop = true)) :
    c.send expected = .sends c.request (readReply (readBody expected)) :=
  if_neg (by simpa using h)

theorem heal_of_bothForced (h : c.forceStart = true ∧ c.forceStop = true) :
    heal c = .refused .bothForced := by
  by_cases ht : c.token = ""
  · rw [heal_of_empty c ht, send_of_bothForced c _ h]
    rfl
  · rw [heal_of_token c ht, send_of_bothForced c _ h]
    rfl

theorem requests_heal_of_allowed (h : ¬ (c.forceStart = true ∧ c.forceStop = true)) :
    ((heal c).run script).requests = [c.request] := by
  by_cases ht : c.token = ""
  · rw [heal_of_empty c ht, send_of_allowed c _ h, Call.run_map]
    exact Call.requests_run_sends c.request _ script
  · rw [heal_of_token c ht, send_of_allowed c _ h, Call.run_map]
    exact Call.requests_run_sends c.request _ script

theorem mem_requests_heal_iff (r : Request) :
    r ∈ ((heal c).run script).requests ↔
      r = c.request ∧ ¬ (c.forceStart = true ∧ c.forceStop = true) := by
  by_cases h : c.forceStart = true ∧ c.forceStop = true
  · rw [heal_of_bothForced c h, Call.run_refused]
    simp [h]
  · rw [requests_heal_of_allowed c script h]
    simp [h]

/-- With a token the options make no difference. -/
theorem send_of_token {α : Type} (expected : Codec α) (h : c.token ≠ "") (options : HealOptions) :
    HealCall.send { c with options := options } expected = c.send expected := by
  have hcontent : ¬ c.token.isEmpty := by simpa using h
  have hrequest : HealCall.request { c with options := options } = c.request := by
    simp only [HealCall.request, HealCall.query, if_neg hcontent]
  simp only [HealCall.send, hrequest]

theorem send_of_noBucket {α : Type} (expected : Codec α) (h : c.bucket = "")
    (objectPrefix : String) :
    HealCall.send { c with objectPrefix := objectPrefix } expected = c.send expected := by
  have hpath : healPath c.bucket objectPrefix = healPath c.bucket c.objectPrefix := by
    rw [h, healPath_empty, healPath_empty]
  simp only [HealCall.send, HealCall.request, HealCall.query, hpath]

/-! ## What the request holds -/

structure HealCall.SentAs (r : Request) : Prop where
  method : Request.method = "POST"
  path : r.path = healPath c.bucket c.objectPrefix
  keys : (r.query.map Prod.fst).Nodup
  query : ∀ key value, (key, value) ∈ r.query ↔
    (key = "clientToken" ∧ value = c.token ∧ c.token ≠ "") ∨
    (key = "forceStart" ∧ value = "true" ∧ c.forceStart = true) ∨
    (key = "forceStop" ∧ value = "true" ∧ c.forceStop = true)
  oneForce : ¬ ("forceStart" ∈ r.query.map Prod.fst ∧ "forceStop" ∈ r.query.map Prod.fst)
  withToken : c.token ≠ "" → r.content = ""
  withoutToken : c.token = "" →
    HealOptions.schema.codec.ofBytes (Text.Utf8.bytes r.content) = .ok c.options

theorem bytes_render (v : Value) : Text.Utf8.bytes v.render = v.bytes := by
  rw [Text.Utf8.bytes, Value.render, String.toList_ofList]
  rfl

theorem token_mem_query_iff (value : String) :
    ("clientToken", value) ∈ c.query ↔ value = c.token ∧ c.token ≠ "" := by
  by_cases ht : c.token = "" <;> cases hstart : c.forceStart <;> cases hstop : c.forceStop <;>
    simp [HealCall.query, ht, hstart, hstop]

theorem mem_query_iff (h : ¬ (c.forceStart = true ∧ c.forceStop = true)) (key value : String) :
    (key, value) ∈ c.query ↔
      (key = "clientToken" ∧ value = c.token ∧ c.token ≠ "") ∨
      (key = "forceStart" ∧ value = "true" ∧ c.forceStart = true) ∨
      (key = "forceStop" ∧ value = "true" ∧ c.forceStop = true) := by
  rw [HealCall.query, List.mem_append]
  refine or_congr ?_ ?_
  · by_cases ht : c.token = "" <;> simp [ht]
  · cases hstart : c.forceStart with
    | true =>
      -- a forced stop would be left out beside a forced start
      have hstop : c.forceStop ≠ true := fun hstop => h ⟨hstart, hstop⟩
      simp [hstop]
    | false => cases c.forceStop <;> simp

theorem nodup_keys_query : (c.query.map Prod.fst).Nodup := by
  cases ht : c.token.isEmpty <;> cases hstart : c.forceStart <;> cases hstop : c.forceStop <;>
    simp [HealCall.query, ht, hstart, hstop]

theorem content_of_token (h : c.token ≠ "") : c.request.content = "" :=
  if_neg (by simpa using h)

theorem ofBytes_content (h : c.token = "") :
    HealOptions.schema.codec.ofBytes (Text.Utf8.bytes c.request.content) = .ok c.options := by
  have hcontent : c.request.content = (HealOptions.schema.codec.encode c.options).render :=
    if_pos (by simp [h])
  rw [hcontent, bytes_render, reads_healOptions.ofBytes]

theorem sentAs_request (h : ¬ (c.forceStart = true ∧ c.forceStop = true)) :
    c.SentAs c.request where
  method := rfl
  path := rfl
  keys := nodup_keys_query c
  query := mem_query_iff c h
  oneForce := by
    rintro ⟨hstart, hstop⟩
    obtain ⟨⟨_, value⟩, hstart, rfl⟩ := List.mem_map.mp hstart
    obtain ⟨⟨_, value'⟩, hstop, rfl⟩ := List.mem_map.mp hstop
    have hstarts : value = "true" ∧ c.forceStart = true := by
      simpa using (mem_query_iff c h _ value).mp hstart
    have hstops : value' = "true" ∧ c.forceStop = true := by
      simpa using (mem_query_iff c h _ value').mp hstop
    exact h ⟨hstarts.2, hstops.2⟩
  withToken := content_of_token c
  withoutToken := ofBytes_content c

/-! ## The calls that are sent -/

structure HealCall.Sends : Prop where
  once : ((heal c).run script).requests.length ≤ 1
  none_iff : ((heal c).run script).requests = [] ↔ c.forceStart = true ∧ c.forceStop = true
  refused : c.forceStart = true → c.forceStop = true →
    (heal c).run script = ⟨.error (.invalidArgument .bothForced), [], script⟩
  shape : ∀ r ∈ ((heal c).run script).requests, c.SentAs r
  anyOptions : c.token ≠ "" → ∀ options,
    (heal { c with options := options }).run script = (heal c).run script
  anyPrefix : c.bucket = "" → ∀ objectPrefix,
    (heal { c with objectPrefix := objectPrefix }).run script = (heal c).run script

/-- The bucket of a call is a single part of a path. -/
structure HealCall.SinglePart : Prop where
  ne : c.bucket ≠ ""
  whole : '/' ∉ c.bucket.toList

theorem sends_heal : c.Sends script where
  once := by
    by_cases h : c.forceStart = true ∧ c.forceStop = true
    · rw [heal_of_bothForced c h, Call.run_refused]
      exact Nat.zero_le 1
    · rw [requests_heal_of_allowed c script h]
      exact Nat.le_refl 1
  none_iff := by
    rw [List.eq_nil_iff_forall_not_mem]
    simp only [mem_requests_heal_iff]
    constructor
    · intro hnone
      by_contra h
      exact hnone c.request ⟨rfl, h⟩
    · rintro h r ⟨-, hallowed⟩
      exact hallowed h
  refused hstart hstop := by
    rw [heal_of_bothForced c ⟨hstart, hstop⟩, Call.run_refused]
  shape r hr := by
    obtain ⟨rfl, hallowed⟩ := (mem_requests_heal_iff c script r).mp hr
    exact sentAs_request c hallowed
  anyOptions h options := by
    rw [heal_of_token c h, heal_of_token { c with options := options } h, send_of_token c _ h]
  anyPrefix h objectPrefix := by
    by_cases ht : c.token = ""
    · rw [heal_of_empty c ht, heal_of_empty { c with objectPrefix := objectPrefix } ht,
        send_of_noBucket c _ h]
    · rw [heal_of_token c ht, heal_of_token { c with objectPrefix := objectPrefix } ht,
        send_of_noBucket c _ h]

end

theorem eq_of_healPath_eq {c c' : HealCall} (h : c.SinglePart) (h' : c'.SinglePart)
    (hpath : healPath c.bucket c.objectPrefix = healPath c'.bucket c'.objectPrefix) :
    c.bucket = c'.bucket ∧ c.objectPrefix = c'.objectPrefix := by
  rcases healPath_eq_iff.mp hpath with hsame | ⟨hempty, -⟩ | hlonger | hlonger
  · exact hsame
  · exact absurd hempty h.ne
  -- the bucket that is longer would hold a separator
  · exact absurd hlonger.separator_mem h'.whole
  · exact absurd hlonger.separator_mem h.whole

/-- What heal calls send, and what the paths of two of them tell. -/
theorem shape_of_healRequests :
    (∀ (c : HealCall) (script : Script), c.Sends script) ∧
    ∀ (c c' : HealCall) (script script' : Script),
      ∀ r ∈ ((heal c).run script).requests, ∀ r' ∈ ((heal c').run script').requests,
        (c.bucket = c'.bucket → c.objectPrefix = c'.objectPrefix → r.path = r'.path) ∧
        (c.SinglePart → c'.SinglePart → r.path = r'.path →
          c.bucket = c'.bucket ∧ c.objectPrefix = c'.objectPrefix) := by
  refine ⟨sends_heal, ?_⟩
  intro c c' script script' r hr r' hr'
  have hpath := ((sends_heal c script).shape r hr).path
  have hpath' := ((sends_heal c' script').shape r' hr').path
  rw [hpath, hpath']
  constructor
  · intro hbucket hprefix
    rw [hbucket, hprefix]
  · exact eq_of_healPath_eq

/-- A start and a stop on two years of photos, what cannot be both, and a heal of the whole
server. -/
theorem shape_of_healRequests_photos :
    let started := HealCall.mk "photos" "2021" default "" true false
    let stopped := HealCall.mk "photos" "2022" default "t1" false true
    let both := HealCall.mk "photos" "2021" default "t1" true true
    let whole := HealCall.mk "" "2021" default "" false false
    started.request.path ≠ stopped.request.path ∧
    started.SentAs started.request ∧ stopped.SentAs stopped.request ∧
    (∀ options, (heal { stopped with options := options }).run [] = (heal stopped).run []) ∧
    (heal both).run [] = ⟨.error (.invalidArgument .bothForced), [], []⟩ ∧
    (heal { whole with objectPrefix := "2022" }).run [] = (heal whole).run [] := by
  intro started stopped both whole
  obtain ⟨hsends, hpaths⟩ := shape_of_healRequests
  have hstarted : started.request ∈ ((heal started).run []).requests := List.mem_singleton_self _
  have hstopped : stopped.request ∈ ((heal stopped).run []).requests := List.mem_singleton_self _
  refine ⟨?_, (hsends started []).shape _ hstarted, (hsends stopped []).shape _ hstopped,
    (hsends stopped []).anyOptions (by decide), (hsends both []).refused rfl rfl,
    (hsends whole []).anyPrefix rfl "2022"⟩
  intro hpath
  have hsame := (hpaths started stopped [] [] _ hstarted _ hstopped).2 ⟨by decide, by decide⟩
    ⟨by decide, by decide⟩ hpath
  exact absurd hsame.2 (by decide)

end HealControl.Admin
