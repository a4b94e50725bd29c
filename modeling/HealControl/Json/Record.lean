import HealControl.Json.Codec
import HealControl.Json.Reader

/-!
# Records as documents

A schema lists the fields of a record in the order in which they are written. A record is read
from an object, whose fields may come in any order and among others that are passed over, or from
a list of its fields in the order of the schema. Each field is read at most once; one that is
missing takes its value for that case, if it has one.
-/
namespace HealControl.Json

/-- A field of a record: its name, how it is read and written, its value when it is missing, and
the values for which it is left out. -/
structure Field where
  type : Type
  name : String
  codec : Codec type
  missing : Option type
  omitted : type → Bool

def Field.required {α : Type} (name : String) (codec : Codec α) : Field :=
  ⟨α, name, codec, none, fun _ => false⟩

def Field.optional {α : Type} (name : String) (codec : Codec α) (missing : α) : Field :=
  ⟨α, name, codec, some missing, fun _ => false⟩

/-- A field that is not written when it has the value that it takes when it is not given. -/
def Field.omitting {α : Type} [DecidableEq α] (name : String) (codec : Codec α) (missing : α) :
    Field :=
  ⟨α, name, codec, some missing, fun a => decide (a = missing)⟩

def Row : List Field → Type
  | [] => Unit
  | f :: fs => f.type × Row fs

/-- The values of a list of fields that have been read so far. -/
def Slots : List Field → Type
  | [] => Unit
  | f :: fs => Option f.type × Slots fs

def Slots.none : (fs : List Field) → Slots fs
  | [] => ()
  | _ :: fs => (Option.none, Slots.none fs)

def Slots.read? : (fs : List Field) → String → Doc → Slots fs →
    Option (Except Fault (Slots fs))
  | [], _, _, _ => Option.none
  | f :: fs, name, value, (slot, slots) =>
    if f.name = name then
      some <|
        match slot with
        | some _ => .error (.unfit (.duplicateField name))
        | Option.none => (f.codec.decode value).map fun a => (some a, slots)
    else (Slots.read? fs name value slots).map fun r => r.map fun slots => (slot, slots)

def Slots.readAll (fs : List Field) : List (Doc × Doc) → Slots fs → Except Fault (Slots fs)
  | [], slots => .ok slots
  | (key, value) :: rest, slots => do
    let name ← key.key
    match Slots.read? fs name value slots with
    | some result => Slots.readAll fs rest (← result)
    | Option.none => do
      malformed value.skip
      Slots.readAll fs rest slots

def Field.value (f : Field) (slot : Option f.type) : Except Fault f.type :=
  match slot.or f.missing with
  | some a => .ok a
  | none => .error (.unfit (.missingField f.name))

def Slots.row : (fs : List Field) → Slots fs → Except Fault (Row fs)
  | [], _ => .ok ()
  | f :: fs, (slot, slots) => do
    let a ← f.value slot
    return (a, ← Slots.row fs slots)

/-- The end of a list from which a record was read, and of which `rest` is left. -/
def recordEnd (rest : List Doc) (ending : ListEnd) : Except Fault Unit :=
  match rest, ending with
  | [], .closed => .ok ()
  | [], .dangling => .error (.malformed .trailingComma)
  | [], .cut => .error (.malformed .endOfList)
  | _, _ => .error (.malformed .trailingCharacters)

def Row.missing (record : String) (count given : Nat) : (fs : List Field) → Except Fault (Row fs)
  | [] => .ok ()
  | f :: fs =>
    match f.missing with
    | none => .error (.unfit (.tooShort given record count))
    | some a => do return (a, ← Row.missing record count (given + 1) fs)

def Row.ofItems (record : String) (count : Nat) (ending : ListEnd) :
    (fs : List Field) → Nat → List Doc → Except Fault (Row fs)
  | [], _, items => do
    recordEnd items ending
    return ()
  | f :: fs, given, items =>
    match items with
    | [] =>
      match ending.fault? with
      | some fault => .error (.malformed fault)
      | none => Row.missing record count given (f :: fs)
    | d :: rest => do
      let a ← f.codec.decode d
      return (a, ← Row.ofItems record count ending fs (given + 1) rest)

def Row.fields : (fs : List Field) → Row fs → List (String × Value)
  | [], _ => []
  | f :: fs, (a, row) =>
    if f.omitted a then Row.fields fs row
    else (f.name, f.codec.encode a) :: Row.fields fs row

structure Schema (ρ : Type) where
  name : String
  fields : List Field
  toRow : ρ → Row fields
  ofRow : Row fields → ρ
  ofRow_toRow : ∀ r, ofRow (toRow r) = r

namespace Schema

variable {ρ : Type}

def row (s : Schema ρ) : Doc → Except Fault (Row s.fields)
  | .object fields ending => do
    let slots ← Slots.readAll s.fields fields (Slots.none s.fields)
    match ending.fault? with
    | some fault => .error (.malformed fault)
    | none => Slots.row s.fields slots
  | .list items ending => Row.ofItems s.name s.fields.length ending s.fields 0 items
  | d => mismatch (.record s.name) d

def codec (s : Schema ρ) : Codec ρ where
  decode d := (s.row d).map s.ofRow
  encode r := .object (Row.fields s.fields (s.toRow r))

end Schema

/-- Reads a type from the bytes of a document, after which nothing may follow but blanks. -/
def Codec.ofBytes {α : Type} (c : Codec α) (bytes : List UInt8) : Except Fault α := do
  let document := Document.ofBytes bytes
  let a ← c.decode document.root
  if document.trailing then .error (.malformed .trailingCharacters) else .ok a

end HealControl.Json
