import HealControl.Decimal.Digits
import HealControl.Text.Quoted
import HealControl.Time.Rfc3339

/-!
# Faults of a document

A document is malformed when its text breaks the grammar, and unfit when it is a document but not
one of the type that was asked for. A malformed text that ends too early is told apart from the
others.
-/
namespace HealControl.Json

open HealControl.Time (TimestampFault)

inductive SyntaxFault
  | endOfList
  | endOfObject
  | endOfText
  | endOfValue
  | expectedColon
  | expectedListCommaOrEnd
  | expectedObjectCommaOrEnd
  | expectedWord
  | expectedValue
  | invalidEscape
  | invalidNumber
  | numberOutOfRange
  | invalidCodePoint
  | controlCharacter
  | keyNotText
  | loneLeadingSurrogate
  | trailingComma
  | trailingCharacters
  | endOfHexEscape
deriving DecidableEq, Repr

def SyntaxFault.isEnd : SyntaxFault → Bool
  | .endOfList | .endOfObject | .endOfText | .endOfValue => true
  | _ => false

def SyntaxFault.message : SyntaxFault → String
  | .endOfList => "EOF while parsing a list"
  | .endOfObject => "EOF while parsing an object"
  | .endOfText => "EOF while parsing a string"
  | .endOfValue => "EOF while parsing a value"
  | .expectedColon => "expected `:`"
  | .expectedListCommaOrEnd => "expected `,` or `]`"
  | .expectedObjectCommaOrEnd => "expected `,` or `\x7d`"
  | .expectedWord => "expected ident"
  | .expectedValue => "expected value"
  | .invalidEscape => "invalid escape"
  | .invalidNumber => "invalid number"
  | .numberOutOfRange => "number out of range"
  | .invalidCodePoint => "invalid unicode code point"
  | .controlCharacter => "control character (\\u0000-\\u001F) found while parsing a string"
  | .keyNotText => "key must be a string"
  | .loneLeadingSurrogate => "lone leading surrogate in hex escape"
  | .trailingComma => "trailing comma"
  | .trailingCharacters => "trailing characters"
  | .endOfHexEscape => "unexpected end of hex escape"

inductive Found
  | null
  | boolean (b : Bool)
  | integer (n : Int)
  | float (text : String)
  | text (s : String)
  | list
  | map
deriving DecidableEq, Repr

def Found.message : Found → String
  | .null => "null"
  | .boolean b => "boolean `" ++ (if b then "true" else "false") ++ "`"
  | .integer n => "integer `" ++ Decimal.intText n ++ "`"
  | .float t => "floating point `" ++ t ++ "`"
  | .text s => "string " ++ Text.quoted s
  | .list => "sequence"
  | .map => "map"

inductive Wanted
  | boolean
  | text
  | byte
  | int32
  | int64
  | word64
  | size
  | list
  | map
  | unit
  | timestamp
  | record (name : String)
deriving DecidableEq, Repr

def Wanted.message : Wanted → String
  | .boolean => "a boolean"
  | .text => "a string"
  | .byte => "u8"
  | .int32 => "i32"
  | .int64 => "i64"
  | .word64 => "u64"
  | .size => "usize"
  | .list => "a sequence"
  | .map => "a map"
  | .unit => "unit"
  | .timestamp => "an RFC 3339 formatted date and time string"
  | .record name => "struct " ++ name

inductive DataFault
  | wrongType (found : Found) (wanted : Wanted)
  | wrongValue (n : Int) (wanted : Wanted)
  | tooShort (length : Nat) (record : String) (fields : Nat)
  | missingField (name : String)
  | duplicateField (name : String)
  | timestamp (fault : TimestampFault)
deriving DecidableEq, Repr

def DataFault.message : DataFault → String
  | .wrongType found wanted =>
    "invalid type: " ++ found.message ++ ", expected " ++ wanted.message
  | .wrongValue n wanted =>
    "invalid value: " ++ (Found.integer n).message ++ ", expected " ++ wanted.message
  | .tooShort length record fields =>
    "invalid length " ++ Decimal.natText length ++ ", expected struct " ++ record ++
      " with " ++ Decimal.natText fields ++
      (if fields = 1 then " element" else " elements")
  | .missingField name => "missing field `" ++ name ++ "`"
  | .duplicateField name => "duplicate field `" ++ name ++ "`"
  | .timestamp fault => fault.message

inductive Fault
  | malformed (fault : SyntaxFault)
  | unfit (fault : DataFault)
deriving DecidableEq, Repr

/-- The three kinds of fault: a text that ends too early, another breach of the grammar, and a
misfit. -/
inductive FaultKind
  | ending
  | grammar
  | data
deriving DecidableEq, Repr

def Fault.kind : Fault → FaultKind
  | .malformed fault => if fault.isEnd then .ending else .grammar
  | .unfit _ => .data

def Fault.message : Fault → String
  | .malformed fault => fault.message
  | .unfit fault => fault.message

end HealControl.Json
