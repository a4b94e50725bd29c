import HealControl.Text.Utf8

/-!
# Percent encoding

A character that cannot stand for itself in some part of a URL is written as its bytes, each a
percent sign and two hexadecimal digits. The parts differ in which characters those are.
-/
namespace HealControl.Url

open HealControl.Text (Utf8.encodeChar)

def upperHexDigit (n : Nat) : Char :=
  Char.ofNat (if n < 10 then 0x30 + n else 0x37 + n)

def percentByte (b : UInt8) : List Char :=
  ['%', upperHexDigit (b.toNat / 16), upperHexDigit (b.toNat % 16)]

/-- Controls and characters outside ASCII are encoded everywhere. -/
def isControl (c : Char) : Bool :=
  c.toNat < 0x20 || 0x7F ≤ c.toNat

def inFragmentSet (c : Char) : Bool :=
  isControl c || c == ' ' || c == '"' || c == '<' || c == '>' || c.toNat == 0x60

def inQuerySet (c : Char) : Bool :=
  isControl c || c == ' ' || c == '"' || c == '#' || c == '<' || c == '>'

def inSpecialQuerySet (c : Char) : Bool :=
  inQuerySet c || c.toNat == 0x27

def inPathSet (c : Char) : Bool :=
  inFragmentSet c || c == '#' || c == '?' || c == '\x7b' || c == '\x7d'

def inUserSet (c : Char) : Bool :=
  inPathSet c || c == '/' || c == ':' || c == ';' || c == '=' || c == '@' || c == '[' ||
    c == '\\' || c == ']' || c == '^' || c == '|'

def percentChar (set : Char → Bool) (c : Char) : List Char :=
  if set c then (Utf8.encodeChar c).flatMap percentByte else [c]

def percentEncode (set : Char → Bool) (cs : List Char) : List Char :=
  cs.flatMap (percentChar set)

def isFormChar (c : Char) : Bool :=
  let n := c.toNat
  (0x30 ≤ n && n ≤ 0x39) || (0x41 ≤ n && n ≤ 0x5A) || (0x61 ≤ n && n ≤ 0x7A) ||
    c == '*' || c == '-' || c == '.' || c == '_'

/-- A character of the values of a form. A space is written as a plus sign. -/
def formChar (c : Char) : List Char :=
  if isFormChar c then [c]
  else if c = ' ' then ['+']
  else (Utf8.encodeChar c).flatMap percentByte

def formEncode (s : String) : List Char :=
  s.toList.flatMap formChar

def hexValue? (c : Char) : Option Nat :=
  let n := c.toNat
  if 0x30 ≤ n ∧ n ≤ 0x39 then some (n - 0x30)
  else if 0x41 ≤ n ∧ n ≤ 0x46 then some (n - 0x37)
  else if 0x61 ≤ n ∧ n ≤ 0x66 then some (n - 0x57)
  else none

def percentDecode : List Char → List UInt8
  | [] => []
  | '%' :: a :: b :: rest =>
    match hexValue? a, hexValue? b with
    | some x, some y => UInt8.ofNat (16 * x + y) :: percentDecode rest
    | _, _ => 0x25 :: percentDecode (a :: b :: rest)
  | c :: rest => Utf8.encodeChar c ++ percentDecode rest

end HealControl.Url
