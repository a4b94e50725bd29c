import Mathlib.Data.List.Induction
import HealControl.Proofs.Session.History

/-!
# The last start of a token

The entry of a token is what the last start of that token and the statuses since then come to, as
long as nothing has ended the sequence. `get?_tableAfter_eq_some_iff` says so of every run that
begins with an empty table; whatever came before the last start is forgotten.
-/
namespace HealControl.Session

open HealControl.Admin
open HealControl.Heal
open HealControl.Time (Timestamp)

namespace Occurrence

def Starts (token : String) : Occurrence → Prop
  | started l => l.receipt.clientToken = token
  | _ => False

/-- What ends the sequence of a token that was started on the given objects: a status that tells of
an end, any status that answers a stop, an error that the server reports of it, a forced stop that
returned the token, and a forced start of another sequence on exactly those objects. -/
def Ends (token bucket objectPrefix : String) : Occurrence → Prop
  | started l =>
    l.forced = true ∧ l.receipt.clientToken ≠ token ∧ l.bucket = bucket ∧
      l.objectPrefix = objectPrefix
  | told owner stopping status _ =>
    owner = token ∧ (stopping = true ∨ status.summary ∈ endSummaries)
  | failed owner _ => owner = token
  | forceStopped receipt => receipt.clientToken = token

def status? (token : String) : Occurrence → Option (TaskStatus × Timestamp)
  | told owner _ status time => if owner = token then some (status, time) else none
  | _ => none

end Occurrence

def heard (token : String) (h : List Occurrence) : List (TaskStatus × Timestamp) :=
  h.filterMap (Occurrence.status? token)

/-- The last start in a history that returned the token, and what happened later. -/
structure LastStart (token : String) (h : List Occurrence) (l : Launch)
    (later : List Occurrence) : Prop where
  returned : l.receipt.clientToken = token
  split : ∃ before, h = before ++ .started l :: later
  last : ∀ o ∈ later, ¬ o.Starts token

/-- What a start and the statuses since then come to while the sequence runs. -/
def Launch.record (l : Launch) (statuses : List (TaskStatus × Timestamp)) : Sequence :=
  { l.sequence with
    summary := (statuses.getLast?.map fun e => e.1.summary).getD Summary.running.text
    failureDetail := (statuses.getLast?.map fun e => e.1.failureDetail).getD ""
    items := statuses.flatMap fun e => e.1.items
    lastUpdate := some ((statuses.getLast?.map Prod.snd).getD l.time) }

@[simp] theorem record_nil (l : Launch) : l.record [] = l.sequence := rfl

theorem isOn_record (l : Launch) (statuses : List (TaskStatus × Timestamp))
    (bucket objectPrefix : String) :
    (l.record statuses).isOn bucket objectPrefix ↔
      bucket = l.bucket ∧ objectPrefix = l.objectPrefix := by
  rw [Sequence.isOn, Bool.and_eq_true, beq_iff_eq, beq_iff_eq]
  exact and_congr eq_comm eq_comm

theorem afterStatus_record (l : Launch) (statuses : List (TaskStatus × Timestamp))
    (status : TaskStatus) (time : Timestamp) (h : status.summary ∉ endSummaries) :
    (l.record statuses).afterStatus status time = l.record (statuses ++ [(status, time)]) := by
  simp [Launch.record, Launch.sequence, Sequence.started, Sequence.afterStatus,
    ofStatus_eq_running status.failureDetail h]

theorem heard_concat (token : String) (h : List Occurrence) (o : Occurrence) :
    heard token (h ++ [o]) = heard token h ++ (o.status? token).toList := by
  cases ho : o.status? token <;> simp [heard, ho]

section
variable {token : String} {o : Occurrence}

theorem effect_none (h : ¬ o.Starts token) : o.effect token none = none := by
  cases o with
  | started l =>
    have hl : l.receipt.clientToken ≠ token := h
    simp [Occurrence.effect, hl]
  | told owner stopping status time => simp [Occurrence.effect]
  | failed owner payload => simp [Occurrence.effect]
  | forceStopped receipt => simp [Occurrence.effect]

theorem effect_record_of_ends (l : Launch) (statuses : List (TaskStatus × Timestamp))
    (h : o.Ends token l.bucket l.objectPrefix) :
    o.effect token (some (l.record statuses)) = none := by
  cases o with
  | started l' =>
    obtain ⟨hforced, hne, hon⟩ := h
    rw [← isOn_record l statuses] at hon
    simp [Occurrence.effect, hne, hforced, hon, Option.filter]
  | told owner stopping status time =>
    obtain ⟨howner, hend⟩ := h
    simp [Occurrence.effect, howner, hend]
  | failed owner payload =>
    have howner : owner = token := h
    simp [Occurrence.effect, howner]
  | forceStopped receipt =>
    have htoken : receipt.clientToken = token := h
    simp [Occurrence.effect, htoken]

theorem effect_record (l : Launch) (statuses : List (TaskStatus × Timestamp))
    (hstart : ¬ o.Starts token) (hend : ¬ o.Ends token l.bucket l.objectPrefix) :
    o.effect token (some (l.record statuses)) =
      some (l.record (statuses ++ (o.status? token).toList)) := by
  cases o with
  | started l' =>
    have hne : l'.receipt.clientToken ≠ token := hstart
    cases hforced : l'.forced with
    | false => simp [Occurrence.effect, Occurrence.status?, hne, hforced]
    | true =>
      have hon : ¬ (l.record statuses).isOn l'.bucket l'.objectPrefix := by
        rw [isOn_record]
        exact fun h => hend ⟨hforced, hne, h⟩
      simp [Occurrence.effect, Occurrence.status?, hne, hforced, hon, Option.filter]
  | told owner stopping status time =>
    by_cases howner : owner = token
    · have hnot : ¬ (stopping = true ∨ status.summary ∈ endSummaries) := fun h => hend ⟨howner, h⟩
      rw [not_or] at hnot
      simp [Occurrence.effect, Occurrence.status?, howner, hnot.1, hnot.2,
        afterStatus_record l statuses status time hnot.2]
    · simp [Occurrence.effect, Occurrence.status?, howner]
  | failed owner payload =>
    have howner : owner ≠ token := hend
    simp [Occurrence.effect, Occurrence.status?, howner]
  | forceStopped receipt =>
    have htoken : receipt.clientToken ≠ token := hend
    simp [Occurrence.effect, Occurrence.status?, htoken]

end

section
variable {token : String} {later : List Occurrence}

theorem effects_none (h : ∀ o ∈ later, ¬ o.Starts token) : effects token later none = none := by
  induction later with
  | nil => rfl
  | cons o later ih =>
    obtain ⟨ho, hlater⟩ := List.forall_mem_cons.mp h
    rw [effects_cons, effect_none ho, ih hlater]

/-- While nothing ends it, a sequence is what its statuses make of it. -/
theorem effects_record (l : Launch) (hstart : ∀ o ∈ later, ¬ o.Starts token)
    (hend : ∀ o ∈ later, ¬ o.Ends token l.bucket l.objectPrefix) :
    effects token later (some l.sequence) = some (l.record (heard token later)) := by
  induction later using List.reverseRecOn with
  | nil => rfl
  | append_singleton later o ih =>
    rw [List.forall_mem_append, List.forall_mem_singleton] at hstart hend
    rw [effects_append, ih hstart.1 hend.1, effects_cons, effects_nil,
      effect_record l _ hstart.2 hend.2, heard_concat]

/-- Once something has ended it, no entry is left. -/
theorem effects_of_ends (l : Launch) (hstart : ∀ o ∈ later, ¬ o.Starts token)
    (hend : ∃ o ∈ later, o.Ends token l.bucket l.objectPrefix) :
    effects token later (some l.sequence) = none := by
  induction later using List.reverseRecOn with
  | nil => simp at hend
  | append_singleton later o ih =>
    rw [List.forall_mem_append, List.forall_mem_singleton] at hstart
    rw [effects_append, effects_cons, effects_nil]
    -- either an earlier occurrence has ended it, or the last one meets the running sequence
    by_cases hbefore : ∃ o ∈ later, o.Ends token l.bucket l.objectPrefix
    · rw [ih hstart.1 hbefore, effect_none hstart.2]
    · have ho : o.Ends token l.bucket l.objectPrefix := by
        obtain ⟨e, he, hends⟩ := hend
        rcases List.mem_append.mp he with he | he
        · exact absurd ⟨e, he, hends⟩ hbefore
        · exact List.mem_singleton.mp he ▸ hends
      have hrun : ∀ e ∈ later, ¬ e.Ends token l.bucket l.objectPrefix :=
        fun e he hends => hbefore ⟨e, he, hends⟩
      rw [effects_record l hstart.1 hrun, effect_record_of_ends l _ ho]

end

theorem lastStart_or_none (token : String) (h : List Occurrence) :
    (∃ l later, LastStart token h l later) ∨ ∀ o ∈ h, ¬ o.Starts token := by
  induction h with
  | nil => exact Or.inr (by simp)
  | cons o h ih =>
    rcases ih with ⟨l, later, hlast⟩ | hnone
    · obtain ⟨before, rfl⟩ := hlast.split
      exact Or.inl ⟨l, later, hlast.returned, ⟨o :: before, rfl⟩, hlast.last⟩
    · by_cases ho : o.Starts token
      · cases o with
        | started l => exact Or.inl ⟨l, h, ho, ⟨[], rfl⟩, hnone⟩
        | _ => exact ho.elim
      · exact Or.inr (List.forall_mem_cons.mpr ⟨ho, hnone⟩)

theorem LastStart.effects_eq {token : String} {h later : List Occurrence} {l : Launch}
    (hl : LastStart token h l later) (entry : Option Sequence) :
    effects token h entry = effects token later (some l.sequence) := by
  obtain ⟨before, rfl⟩ := hl.split
  rw [effects_append, effects_cons, Occurrence.effect, if_pos hl.returned]

theorem effects_none_eq_some_iff (token : String) (h : List Occurrence) (s : Sequence) :
    effects token h none = some s ↔
      ∃ l later, LastStart token h l later ∧
        (∀ o ∈ later, ¬ o.Ends token l.bucket l.objectPrefix) ∧
        s = l.record (heard token later) := by
  constructor
  · intro he
    rcases lastStart_or_none token h with ⟨l, later, hl⟩ | hnone
    · rw [hl.effects_eq] at he
      have hend : ∀ o ∈ later, ¬ o.Ends token l.bucket l.objectPrefix := by
        intro o ho hends
        rw [effects_of_ends l hl.last ⟨o, ho, hends⟩] at he
        cases he
      rw [effects_record l hl.last hend] at he
      exact ⟨l, later, hl, hend, (Option.some.inj he).symm⟩
    · rw [effects_none hnone] at he
      cases he
  · rintro ⟨l, later, hl, hend, rfl⟩
    rw [hl.effects_eq, effects_record l hl.last hend]

theorem get?_tableAfter_eq_some_iff (ops : List Operation) (script : Script) (token : String)
    (s : Sequence) :
    (tableAfter ops .empty script).get? token = some s ↔
      ∃ l later, LastStart token (history ops .empty script) l later ∧
        (∀ o ∈ later, ¬ o.Ends token l.bucket l.objectPrefix) ∧
        s = l.record (heard token later) := by
  rw [get?_tableAfter, Dict.get?_empty, effects_none_eq_some_iff]

/-! ## A run

Two sequences are started. The first is asked for twice, and the second question is lost on the
way; one more status of it is still to come. -/

def photoRun : List Operation :=
  [.start "photos" "2021" default false, .start "videos" "" default true, .poll "t1", .poll "t1"]

def photoStatus (object : String) : TaskStatus :=
  { (default : TaskStatus) with
    summary := Summary.running.text
    items := [{ (default : HealResult) with object := object }] }

def photoLaunch : Launch :=
  ⟨"photos", "2021", default, false, ⟨"t1", "node1", .epoch⟩, .epoch⟩

def written {α : Type} (codec : Json.Codec α) (a : α) : Arrival :=
  ⟨.answer .ok (codec.encode a).bytes, .epoch⟩

def photoScript : Script :=
  [written HealReceipt.schema.codec photoLaunch.receipt,
    written HealReceipt.schema.codec ⟨"t2", "node2", .epoch⟩,
    written TaskStatus.schema.codec (photoStatus "a.png"),
    ⟨.failure ⟨.failed "connection reset by peer", []⟩, .epoch⟩,
    written TaskStatus.schema.codec (photoStatus "b.png")]

theorem get?_photos : (tableAfter photoRun .empty photoScript).get? "t1" =
    some (photoLaunch.record [(photoStatus "a.png", .epoch)]) := by decide +kernel

end HealControl.Session
