import HealControl.Dict
import HealControl.Json.Doc
import HealControl.Json.Value
import HealControl.Time.Rfc3339

/-!
# Codecs

A codec reads a type from documents and writes it as values.
-/
namespace HealControl.Json

open HealControl.Time (Timestamp)

structure Codec (α : Type) where
  decode : Doc → Except Fault α
  encode : α → Value

def malformed {α : Type} (r : Except SyntaxFault α) : Except Fault α :=
  r.mapError .malformed

def mismatch {α : Type} (wanted : Wanted) (d : Doc) : Except Fault α := do
  let found ← malformed d.found
  .error (.unfit (.wrongType found wanted))

def Doc.key : Doc → Except Fault String
  | .text l => malformed l.text
  | _ => .error (.malformed .keyNotText)

namespace Codec

variable {α β : Type}

def via (c : Codec α) (ofBase : α → β) (toBase : β → α) : Codec β where
  decode d := (c.decode d).map ofBase
  encode b := c.encode (toBase b)

def bool : Codec Bool where
  decode
    | .bool b => .ok b
    | d => mismatch .boolean d
  encode := .bool

def text : Codec String where
  decode
    | .text l => malformed l.text
    | d => mismatch .text d
  encode := .text

def integer (wanted : Wanted) (low high : Int) : Codec Int where
  decode
    | .number n =>
      match n.integer? with
      | none => mismatch wanted (.number n)
      | some i =>
        if low ≤ i ∧ i ≤ high then .ok i else .error (.unfit (.wrongValue i wanted))
    | d => mismatch wanted d
  encode := .int

def byte : Codec UInt8 :=
  (integer .byte 0 255).via (fun i => UInt8.ofNat i.toNat) (fun n => n.toNat)

def word64 : Codec UInt64 :=
  (integer .word64 0 18446744073709551615).via (fun i => UInt64.ofNat i.toNat) (fun n => n.toNat)

def size : Codec UInt64 :=
  (integer .size 0 18446744073709551615).via (fun i => UInt64.ofNat i.toNat) (fun n => n.toNat)

def int64 : Codec Int64 :=
  (integer .int64 (-9223372036854775808) 9223372036854775807).via Int64.ofInt Int64.toInt

def int32 : Codec Int32 :=
  (integer .int32 (-2147483648) 2147483647).via Int32.ofInt Int32.toInt

def timestamp : Codec Timestamp where
  decode
    | .text l => do
      match Timestamp.ofText (← malformed l.text).toList with
      | .ok t => .ok t
      | .error fault => .error (.unfit (.timestamp fault))
    | d => mismatch .timestamp d
  encode t := .text (String.ofList t.text)

def option (c : Codec α) : Codec (Option α) where
  decode
    | .null => .ok none
    | d => (c.decode d).map some
  encode
    | none => .null
    | some a => c.encode a

/-- A value that may be given as `null`, which stands for `empty`. -/
def nullAs (empty : α) (c : Codec α) : Codec α where
  decode
    | .null => .ok empty
    | d => c.decode d
  encode := c.encode

def list (c : Codec α) : Codec (List α) where
  decode
    | .list items ending => do
      let as ← items.mapM c.decode
      match ending.fault? with
      | some fault => .error (.malformed fault)
      | none => .ok as
    | d => mismatch .list d
  encode as := .list (as.map c.encode)

def insertField (c : Codec α) (dict : Dict α) (field : Doc × Doc) : Except Fault (Dict α) := do
  let key ← field.1.key
  return dict.insert key (← c.decode field.2)

/-- A key may be given again; its last value counts. -/
def dict (c : Codec α) : Codec (Dict α) where
  decode
    | .object fields ending => do
      let dict ← fields.foldlM (insertField c) .empty
      match ending.fault? with
      | some fault => .error (.malformed fault)
      | none => .ok dict
    | d => mismatch .map d
  encode d := .object (d.entries.map fun e => (e.1, c.encode e.2))

/-- A name may also be given as the only key of an object whose value is `null`. -/
def variant (ofName : String → α) (toName : α → String) : Codec α where
  decode
    | .text l => (malformed l.text).map ofName
    | .object ((key, value) :: rest) ending => do
      let a ← key.key.map ofName
      match value with
      | .null =>
        match rest, ending with
        | [], .closed => .ok a
        | [], .cut => .error (.malformed .endOfObject)
        | _, _ => .error (.malformed .expectedValue)
      | value => mismatch .unit value
    | .object [] .cut => .error (.malformed .endOfObject)
    | .object [] _ => .error (.malformed .keyNotText)
    | .absent fault => .error (.malformed fault)
    | _ => .error (.malformed .expectedValue)
  encode a := .text (toName a)

end Codec

end HealControl.Json
