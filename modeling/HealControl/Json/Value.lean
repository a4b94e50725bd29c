import HealControl.Decimal.Digits
import HealControl.Text.Utf8

/-!
# Values as documents

A value is what a record is written as. Its text has no blanks, and its fields stand in the order
in which they are given.
-/
namespace HealControl.Json

inductive Value
  | null
  | bool (b : Bool)
  | int (n : Int)
  | text (s : String)
  | list (items : List Value)
  | object (fields : List (String × Value))

instance : Inhabited Value := ⟨.null⟩

def hexDigit (n : Nat) : Char :=
  Char.ofNat (if n < 10 then 0x30 + n else 0x57 + n)

def escapeChar (c : Char) : List Char :=
  if c = '"' then ['\\', '"']
  else if c = '\\' then ['\\', '\\']
  else if c = '\n' then ['\\', 'n']
  else if c = '\r' then ['\\', 'r']
  else if c = '\t' then ['\\', 't']
  else if c.toNat = 8 then ['\\', 'b']
  else if c.toNat = 12 then ['\\', 'f']
  else if c.toNat < 32 then
    ['\\', 'u', '0', '0', hexDigit (c.toNat / 16), hexDigit (c.toNat % 16)]
  else [c]

def literal (s : String) : List Char :=
  '"' :: s.toList.flatMap escapeChar ++ ['"']

mutual

def Value.chars : Value → List Char
  | .null => ['n', 'u', 'l', 'l']
  | .bool true => ['t', 'r', 'u', 'e']
  | .bool false => ['f', 'a', 'l', 's', 'e']
  | .int n => Decimal.signed n
  | .text s => literal s
  | .list items => '[' :: itemsChars items
  | .object fields => '\x7b' :: fieldsChars fields

def itemsChars : List Value → List Char
  | [] => [']']
  | v :: rest => v.chars ++ moreItemsChars rest

def moreItemsChars : List Value → List Char
  | [] => [']']
  | v :: rest => ',' :: v.chars ++ moreItemsChars rest

def fieldsChars : List (String × Value) → List Char
  | [] => ['\x7d']
  | f :: rest => fieldChars f ++ moreFieldsChars rest

def moreFieldsChars : List (String × Value) → List Char
  | [] => ['\x7d']
  | f :: rest => ',' :: fieldChars f ++ moreFieldsChars rest

def fieldChars : String × Value → List Char
  | (k, v) => literal k ++ ':' :: v.chars

end

def Value.render (v : Value) : String :=
  String.ofList v.chars

def Value.bytes (v : Value) : List UInt8 :=
  Text.Utf8.encode v.chars

end HealControl.Json
