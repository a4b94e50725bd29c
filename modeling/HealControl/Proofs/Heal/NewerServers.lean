import HealControl.Proofs.Json.Members
import HealControl.Proofs.Json.WireTypes

/-!
# Documents of newer servers

A newer server may send fields that are not known here, and kinds of items and states of drives that
are not known either. A field of an unknown name, in whatever record and whatever it holds, changes
nothing of what a document is read as. A kind or a state that is not known is read as unknown, and
nothing around it depends on it.
-/
namespace HealControl

open HealControl.Heal
open HealControl.Json

/-! ## Unknown fields -/

/-- A field with a name that the record does not have and with any value is put somewhere among the
fields of an object. -/
inductive FieldAdded : FieldsChange
  | intro {ρ : Type} {s : Schema ρ} {before after : List (Doc × Doc)} {key value : Doc}
      {name : String} {bytes : List UInt8} (hkey : key.key = .ok name)
      (hname : name ∉ s.fields.map Field.name) (hvalue : value.WrittenAs bytes) :
      FieldAdded s (before ++ after) (before ++ (key, value) :: after)

theorem readField_of_unknown {fs : List Field} {key value : Doc} {name : String}
    {bytes : List UInt8} (hkey : key.key = .ok name) (hname : name ∉ fs.map Field.name)
    (hvalue : value.WrittenAs bytes) (slots : Slots fs) :
    Slots.readField fs slots (key, value) = .ok slots := by
  rw [Slots.readField, hkey]
  simp only [bind, Except.bind, read?_eq_none hname, hvalue.skip]
  rfl

theorem keeps_fieldAdded : FieldsChange.Keeps FieldAdded := by
  intro ρ s fields fields' h ending row hrow
  obtain ⟨hkey, hname, hvalue⟩ := h
  rename_i before after key value name bytes
  obtain ⟨hending, slots, hread, hslots⟩ := (row_object_eq_ok_iff s).mp hrow
  refine (row_object_eq_ok_iff s).mpr ⟨hending, slots, ?_, hslots⟩
  rw [List.foldlM_append] at hread ⊢
  obtain ⟨first, hbefore, hafter⟩ := bind_eq_ok_iff.mp hread
  rw [hbefore]
  -- The added field leaves the slots as they are, so those behind it are read as before.
  change ((key, value) :: after).foldlM (Slots.readField s.fields) first = .ok slots
  rw [List.foldlM_cons, readField_of_unknown hkey hname hvalue first]
  exact hafter

/-! ## Kinds and states -/

theorem Heal.ItemKind.decode_text {l : Literal} {name : String} (h : l.text = .ok name) :
    ItemKind.codec.decode (.text l) = .ok (.ofName name) := by
  change (malformed l.text).map _ = _
  rw [h]
  rfl

theorem Heal.DriveState.decode_text {l : Literal} {name : String} (h : l.text = .ok name) :
    DriveState.codec.decode (.text l) = .ok (.ofName name) := by
  change (malformed l.text).map _ = _
  rw [h]
  rfl

/-- Every variant has its own name, and a name of no variant is unknown. -/
structure TellsNames {α : Type} (toName : α → String) (ofName : String → α) (unknown : α) : Prop where
  known : ∀ a, ofName (toName a) = a
  others : ∀ name, (∀ a, toName a ≠ name) → ofName name = unknown

theorem Heal.ItemKind.tellsNames : TellsNames ItemKind.name ItemKind.ofName .unknown where
  known kind := by cases kind <;> rfl
  others name h := by
    unfold ItemKind.ofName
    split
    · exact absurd rfl (h .metadata)
    · exact absurd rfl (h .bucket)
    · exact absurd rfl (h .bucketMetadata)
    · exact absurd rfl (h .object)
    · rfl

theorem Heal.DriveState.tellsNames : TellsNames DriveState.name DriveState.ofName .unknown where
  known state := by cases state <;> decide
  others name h := by
    have hnone : DriveState.ofName? name = none :=
      List.find?_eq_none.mpr fun state _ => by simpa using h state
    rw [DriveState.ofName, hnone]
    rfl

/-! ## Items and drives -/

namespace Heal

def TaskStatus.itemsMember :
    TaskStatus.schema.Member (.omitting "items" (.nullAs [] (.list HealResult.schema.codec)) [])
    where
  place := .there (.there (.there (.there .here)))
  first := by simp [Field.In.First, Field.optional, Field.omitting, Field.required]
  get s := s.items
  set items s := { s with items := items }
  get_ofRow _ := rfl
  set_ofRow _ _ := rfl

def HealResult.kindMember : HealResult.schema.Member (.optional "type" ItemKind.codec .object) where
  place := .there .here
  first := by simp [Field.In.First, Field.optional]
  get r := r.kind
  set kind r := { r with kind := kind }
  get_ofRow _ := rfl
  set_ofRow _ _ := rfl

def HealResult.beforeMember :
    HealResult.schema.Member (.optional "before" DriveList.schema.codec ⟨[]⟩) where
  place := .there (.there (.there (.there (.there (.there (.there (.there (.there (.there
    .here)))))))))
  first := by simp [Field.In.First, Field.optional, Field.omitting]
  get r := r.before
  set drives r := { r with before := drives }
  get_ofRow _ := rfl
  set_ofRow _ _ := rfl

def HealResult.afterMember :
    HealResult.schema.Member (.optional "after" DriveList.schema.codec ⟨[]⟩) where
  place := .there (.there (.there (.there (.there (.there (.there (.there (.there (.there (.there
    .here))))))))))
  first := by simp [Field.In.First, Field.optional, Field.omitting]
  get r := r.after
  set drives r := { r with after := drives }
  get_ofRow _ := rfl
  set_ofRow _ _ := rfl

def DriveList.drivesMember :
    DriveList.schema.Member (.optional "drives" (.nullAs [] (.list DriveReport.schema.codec)) [])
    where
  place := .here
  first := by simp [Field.In.First]
  get d := d.drives
  set drives _ := ⟨drives⟩
  get_ofRow _ := rfl
  set_ofRow _ _ := rfl

def DriveReport.stateMember :
    DriveReport.schema.Member (.optional "state" DriveState.codec .unknown) where
  place := .there (.there .here)
  first := by simp [Field.In.First, Field.optional]
  get d := d.state
  set state d := { d with state := state }
  get_ofRow _ := rfl
  set_ofRow _ _ := rfl

def DriveList.withState (j : Nat) (state : DriveState) (d : DriveList) : DriveList :=
  ⟨d.drives.modify j fun drive => { drive with state := state }⟩

/-- Statuses whose items at place `i` are related, and that are the same otherwise. -/
def ItemChanged (i : Nat) (R : Doc → Doc → Prop) : Doc → Doc → Prop :=
  TaskStatus.itemsMember.Differs (ItemDiffers i R)

def KindGiven (l : Literal) : Doc → Doc → Prop :=
  HealResult.kindMember.Differs (ReplacedBy (.text l))

def StateGiven (j : Nat) (l : Literal) : Doc → Doc → Prop :=
  DriveList.drivesMember.Differs
    (ItemDiffers j (DriveReport.stateMember.Differs (ReplacedBy (.text l))))

variable {l : Literal} {name : String}

theorem TaskStatus.tracks_itemChanged {R : Doc → Doc → Prop} {g : HealResult → HealResult} (i : Nat)
    (h : HealResult.schema.codec.Tracks R g) :
    schema.codec.Tracks (ItemChanged i R) fun s => { s with items := s.items.modify i g } :=
  itemsMember.tracks (h.nullAsItem i [])

theorem HealResult.tracks_kindGiven (hl : l.text = .ok name) :
    schema.codec.Tracks (KindGiven l) fun r => { r with kind := .ofName name } :=
  kindMember.tracks (tracks_replacedBy (ItemKind.decode_text hl))

theorem DriveList.tracks_stateGiven (j : Nat) (hl : l.text = .ok name) :
    schema.codec.Tracks (StateGiven j l) (withState j (.ofName name)) := by
  have hstate := DriveReport.stateMember.tracks (tracks_replacedBy (DriveState.decode_text hl))
  exact drivesMember.tracks (hstate.nullAsItem j [])

end Heal

/-! ## Documents -/

/-- Fields of unknown names change nothing of what a document is read as, in whatever records they
stand. Another kind of an item or another state of a drive is read as the one of that name, or as
unknown, and changes nothing else of a status. -/
theorem ofBytes_of_newerServer (bytes bytes' : List UInt8) :
    (∀ (t : WireType) (v : t.Values), t.codec.ofBytes bytes = .ok v →
      Rewritten (Changed FieldAdded t.codec) bytes bytes' → t.codec.ofBytes bytes' = .ok v) ∧
    (∀ (s : TaskStatus) (i : Nat) (l : Literal) (name : String),
      TaskStatus.schema.codec.ofBytes bytes = .ok s → l.text = .ok name →
        (Rewritten (ItemChanged i (KindGiven l)) bytes bytes' →
          TaskStatus.schema.codec.ofBytes bytes' = .ok
            { s with items := s.items.modify i fun r => { r with kind := .ofName name } }) ∧
        ∀ j, (Rewritten (ItemChanged i (HealResult.beforeMember.Differs (StateGiven j l)))
              bytes bytes' →
            TaskStatus.schema.codec.ofBytes bytes' = .ok
              { s with items := s.items.modify i fun r =>
                { r with before := r.before.withState j (.ofName name) } }) ∧
          (Rewritten (ItemChanged i (HealResult.afterMember.Differs (StateGiven j l)))
              bytes bytes' →
            TaskStatus.schema.codec.ofBytes bytes' = .ok
              { s with items := s.items.modify i fun r =>
                { r with after := r.after.withState j (.ofName name) } })) ∧
    TellsNames ItemKind.name ItemKind.ofName .unknown ∧
    TellsNames DriveState.name DriveState.ofName .unknown := by
  refine ⟨fun t v hv hadded => ?_, fun s i l name hs hl => ⟨fun hkind => ?_, fun j =>
    ⟨fun hbefore => ?_, fun hafter => ?_⟩⟩, ItemKind.tellsNames, DriveState.tellsNames⟩
  · exact (tracks_changed keeps_fieldAdded).ofBytes hadded hv
  · exact (TaskStatus.tracks_itemChanged i (HealResult.tracks_kindGiven hl)).ofBytes hkind hs
  · have hdrives := HealResult.beforeMember.tracks (DriveList.tracks_stateGiven j hl)
    exact (TaskStatus.tracks_itemChanged i hdrives).ofBytes hbefore hs
  · have hdrives := HealResult.afterMember.tracks (DriveList.tracks_stateGiven j hl)
    exact (TaskStatus.tracks_itemChanged i hdrives).ofBytes hafter hs

def driveValue (state : String) (added : List (String × Value)) : Value :=
  .object (("state", .text state) :: added)

def itemValue (kind : String) (drive : Value) : Value :=
  .object [("type", .text kind), ("after", .object [("drives", .list [drive])])]

def oneItemValue (item : Value) : Value :=
  .object [("summary", .text "running"), ("items", .list [item])]

def oneItem (kind : ItemKind) (state : DriveState) : TaskStatus :=
  { (default : TaskStatus) with
    summary := "running"
    items := [{ (default : HealResult) with kind := kind, after := ⟨[⟨"", "", state⟩]⟩ }] }

theorem differAt_oneItemValue (item item' : Value) : DifferAt TaskStatus.itemsMember.place
    (some (Value.list [item]).doc) (some (Value.list [item']).doc) (oneItemValue item).doc
      (oneItemValue item').doc :=
  differAt_object [("summary", .text "running")] [] _ _

theorem itemChanged_oneItemValue {R : Doc → Doc → Prop} {item item' : Value}
    (h : R item.doc item'.doc) :
    ItemChanged 0 R (oneItemValue item).doc (oneItemValue item').doc :=
  ⟨_, _, ⟨_, _, h, differAtItem_list [] [] _ _⟩, differAt_oneItemValue item item'⟩

theorem differAt_drives (kind : String) (drive drive' : Value) :
    ∃ x x', DifferAt DriveList.drivesMember.place (some (Value.list [drive]).doc)
        (some (Value.list [drive']).doc) x x' ∧
      DifferAt HealResult.afterMember.place (some x) (some x') (itemValue kind drive).doc
        (itemValue kind drive').doc :=
  ⟨_, _, differAt_object [] [] _ _, differAt_object [("type", .text kind)] [] _ _⟩

theorem changed_queue : Changed FieldAdded TaskStatus.schema.codec
    (oneItemValue (itemValue "bucket" (driveValue "ok" []))).doc
    (oneItemValue (itemValue "bucket" (driveValue "ok" [("queue", .list [.null])]))).doc := by
  have hvalue := writtenAs_of_spelledAs (spelledAs_value (.list [.null]))
  have hadded : FieldAdded DriveReport.schema (fieldDocs [("state", .text "ok")] ++ [])
      (fieldDocs [("state", .text "ok")] ++ fieldDocs [("queue", .list [.null])]) :=
    .intro (key_ofText "queue") (by decide) hvalue
  have hdrive : Changed FieldAdded DriveReport.schema.codec (driveValue "ok" []).doc
      (driveValue "ok" [("queue", .list [.null])]).doc := .here hadded
  obtain ⟨x, x', hdrives, hitem⟩ := differAt_drives "bucket" (driveValue "ok" [])
    (driveValue "ok" [("queue", .list [.null])])
  have hlist := Changed.field DriveList.drivesMember.first
    (.nullAs (.item hdrive (differAtItem_list [] [] _ _))) hdrives
  exact .field TaskStatus.itemsMember.first
    (.nullAs (.item (.field HealResult.afterMember.first hlist hitem) (differAtItem_list [] [] _ _)))
    (differAt_oneItemValue _ _)

theorem itemChanged_kind : ItemChanged 0 (KindGiven (.ofText "versioned-object"))
    (oneItemValue (itemValue "bucket" (driveValue "ok" []))).doc
    (oneItemValue (itemValue "versioned-object" (driveValue "ok" []))).doc :=
  itemChanged_oneItemValue ⟨_, _, rfl, differAt_object []
    [("after", .object [("drives", .list [driveValue "ok" []])])] (.text "bucket")
      (.text "versioned-object")⟩

theorem itemChanged_state : ItemChanged 0
    (HealResult.afterMember.Differs (StateGiven 0 (.ofText "permission-denied")))
    (oneItemValue (itemValue "bucket" (driveValue "ok" []))).doc
    (oneItemValue (itemValue "bucket" (driveValue "permission-denied" []))).doc := by
  obtain ⟨x, x', hdrives, hitem⟩ := differAt_drives "bucket" (driveValue "ok" [])
    (driveValue "permission-denied" [])
  have hstate : DriveReport.stateMember.Differs (ReplacedBy (.text (.ofText "permission-denied")))
      (driveValue "ok" []).doc (driveValue "permission-denied" []).doc :=
    ⟨_, _, rfl, differAt_object [] [] (.text "ok") (.text "permission-denied")⟩
  exact itemChanged_oneItemValue ⟨x, x', ⟨_, _, ⟨_, _, hstate, differAtItem_list [] [] _ _⟩, hdrives⟩,
    hitem⟩

theorem ofBytes_of_newerServer_bucket :
    TaskStatus.schema.codec.ofBytes
        (oneItemValue (itemValue "bucket" (driveValue "ok" [("queue", .list [.null])]))).bytes =
          .ok (oneItem .bucket .ok) ∧
      TaskStatus.schema.codec.ofBytes
        (oneItemValue (itemValue "versioned-object" (driveValue "ok" []))).bytes =
          .ok (oneItem .unknown .ok) ∧
      TaskStatus.schema.codec.ofBytes
        (oneItemValue (itemValue "bucket" (driveValue "permission-denied" []))).bytes =
          .ok (oneItem .bucket .permissionDenied) := by
  have hknown : TaskStatus.schema.codec.ofBytes
      (oneItemValue (itemValue "bucket" (driveValue "ok" []))).bytes =
        .ok (oneItem .bucket .ok) := by
    decide +kernel
  refine ⟨?_, ?_, ?_⟩
  · exact (ofBytes_of_newerServer _ _).1 .taskStatus _ hknown (rewritten_bytes changed_queue)
  · exact ((ofBytes_of_newerServer _ _).2.1 _ 0 _ _ hknown (text_ofText _)).1
      (rewritten_bytes itemChanged_kind)
  · exact (((ofBytes_of_newerServer _ _).2.1 _ 0 _ _ hknown (text_ofText _)).2 0).2
      (rewritten_bytes itemChanged_state)

end HealControl
