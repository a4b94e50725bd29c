import HealControl.Json.Fault
import HealControl.Text.Utf8

/-!
# Text literals of a document

A literal is kept as its pieces, bytes and escaped code units, and the way it ends. What it spells
is worked out when a text is asked for; a literal that is passed over only has to end well.
-/
namespace HealControl.Json

open HealControl.Text (Utf8.encodeChar Utf8.text?)

/-- A byte of a literal, or a code unit of 16 bits given as `\u` and four hexadecimal digits. -/
inductive Piece
  | byte (b : UInt8)
  | unit (n : Nat)
deriving DecidableEq, Repr

/-- How a literal ends: with its quotation mark, with the end of the text, or with a fault. -/
inductive Closing
  | closed
  | cut
  | control
  | unknownEscape
  | badHex
deriving DecidableEq, Repr

structure Literal where
  pieces : List Piece
  closing : Closing
deriving DecidableEq, Repr

def Closing.fault? : Closing → Option SyntaxFault
  | .closed => none
  | .cut => some .endOfText
  | .control => some .controlCharacter
  | .unknownEscape => some .invalidEscape
  | .badHex => some .invalidEscape

def isLeading (n : Nat) : Bool :=
  0xD800 ≤ n && n ≤ 0xDBFF

def isTrailing (n : Nat) : Bool :=
  0xDC00 ≤ n && n ≤ 0xDFFF

def pairValue (lead trail : Nat) : Nat :=
  0x10000 + (lead - 0xD800) * 0x400 + (trail - 0xDC00)

def Closing.afterLeading : Closing → SyntaxFault
  | .cut => .endOfText
  | .badHex => .invalidEscape
  | _ => .endOfHexEscape

/-- A unit that belongs to a pair must stand in one. -/
def spell (closing : Closing) : List Piece → Except SyntaxFault (List UInt8)
  | [] =>
    match closing.fault? with
    | some fault => .error fault
    | none => .ok []
  | .byte b :: rest => do return b :: (← spell closing rest)
  | .unit n :: rest =>
    if isTrailing n then .error .loneLeadingSurrogate
    else if isLeading n then
      match rest with
      | [] => .error closing.afterLeading
      | .byte _ :: _ => .error .endOfHexEscape
      | .unit m :: rest =>
        if isTrailing m then do
          return Utf8.encodeChar (Char.ofNat (pairValue n m)) ++ (← spell closing rest)
        else .error .loneLeadingSurrogate
    else do return Utf8.encodeChar (Char.ofNat n) ++ (← spell closing rest)

def Literal.text (l : Literal) : Except SyntaxFault String := do
  match Utf8.text? (← spell l.closing l.pieces) with
  | some s => .ok s
  | none => .error .invalidCodePoint

def Literal.skip (l : Literal) : Except SyntaxFault Unit :=
  match l.closing.fault? with
  | some fault => .error fault
  | none => .ok ()

end HealControl.Json
