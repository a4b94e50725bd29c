import HealControl.Text.Blank
import HealControl.Time.Span

/-!
# Spans from text

A span is written as a sequence of amounts, each a number and a unit: `1h 30min`, `1.5 s`. The
reader takes one character at a time. It keeps the sum of the amounts read so far, refuses sums
beyond 64 bits of seconds, and refuses fractions that are not whole in the unit they are counted
in.
-/
namespace HealControl.Time

open HealControl.Text (isBlank)
open HealControl.Decimal (isDigit digitValue natText)

inductive TimeUnit
  | nanosecond
  | microsecond
  | millisecond
  | second
  | minute
  | hour
  | day
  | week
  | month
  | year
deriving DecidableEq, Repr

def TimeUnit.ofName? : String → Option TimeUnit
  | "nanos" | "nsec" | "ns" => some .nanosecond
  | "usec" | "us" | "µs" => some .microsecond
  | "millis" | "msec" | "ms" => some .millisecond
  | "seconds" | "second" | "secs" | "sec" | "s" => some .second
  | "minutes" | "minute" | "min" | "mins" | "m" => some .minute
  | "hours" | "hour" | "hrs" | "hr" | "h" => some .hour
  | "days" | "day" | "d" => some .day
  | "weeks" | "week" | "wk" | "wks" | "w" => some .week
  | "months" | "month" | "M" => some .month
  | "years" | "year" | "yr" | "yrs" | "y" => some .year
  | _ => none

/-- What an amount of a unit is counted in: nanoseconds or seconds, and how many of them. -/
inductive UnitSize
  | nanoseconds (n : Nat)
  | seconds (n : Nat)

def TimeUnit.size : TimeUnit → UnitSize
  | .nanosecond => .nanoseconds 1
  | .microsecond => .nanoseconds 1000
  | .millisecond => .nanoseconds 1000000
  | .second => .seconds 1
  | .minute => .seconds 60
  | .hour => .seconds 3600
  | .day => .seconds 86400
  | .week => .seconds 604800
  | .month => .seconds 2630016
  | .year => .seconds 31557600

def TimeUnit.fractionSize? : TimeUnit → Option UnitSize
  | .nanosecond => none
  | .second => some (.nanoseconds 1000000000)
  | .minute => some (.nanoseconds 60000000000)
  | unit => some unit.size

inductive SpanFault
  | empty
  | numberExpected (offset : Nat)
  | invalidCharacter (offset : Nat)
  | unitNeeded (amount : Nat)
  | unknownUnit (name : String)
  | notRepresentable
deriving DecidableEq, Repr

def SpanFault.message : SpanFault → String
  | .empty => "value was empty"
  | .numberExpected offset => "expected number at " ++ natText offset
  | .invalidCharacter offset => "invalid character at " ++ natText offset
  | .unitNeeded amount =>
    let n := natText amount
    "time unit needed, for example " ++ n ++ "sec or " ++ n ++ "ms"
  | .unknownUnit name =>
    "unknown time unit \"" ++ name ++ "\", supported units: ns, us/µs, ms, sec, min, hours, " ++
      "days, weeks, months, years (and few variations)"
  | .notRepresentable =>
    "number is too large or cannot be represented without a lack of precision " ++
      "(values below 1ns are not supported)"

namespace SpanReader

def word? (n : Nat) : Option Nat :=
  if n < UInt64.size then some n else none

structure Fraction where
  numerator : Nat
  denominator : Nat

/-- A leading zero only adds to the denominator. -/
def Fraction.push? (f : Fraction) (digit : Nat) : Option Fraction := do
  let denominator ← word? (f.denominator * 10)
  let numerator ← word? (f.numerator * 10 + digit)
  some ⟨numerator, denominator⟩

def Fraction.of? (f : Fraction) (n : Nat) : Option Nat := do
  let product ← word? (f.numerator * n)
  if product % f.denominator = 0 then some (product / f.denominator) else none

structure Total where
  seconds : Nat
  nanoseconds : Nat

def Total.add? (t : Total) (seconds nanoseconds : Nat) : Option Total := do
  let sum ← word? (t.nanoseconds + nanoseconds)
  let whole ← word? (seconds + sum / 1000000000)
  let whole ← word? (t.seconds + whole)
  some ⟨whole, sum % 1000000000⟩

def Total.addSize? (t : Total) (size : UnitSize) (count : Nat → Option Nat) : Option Total :=
  match size with
  | .nanoseconds n => do t.add? 0 (← count n)
  | .seconds n => do t.add? (← count n) 0

def Total.addAmount? (t : Total) (amount : Nat) (fraction : Option Fraction) (unit : TimeUnit) :
    Option Total := do
  let t ← t.addSize? unit.size fun n => word? (amount * n)
  match fraction with
  | none => some t
  | some f => t.addSize? (← unit.fractionSize?) f.of?

/-- What the reader is in the middle of. `start` looks for the first digit of an amount and knows
where it began to look; `point` has read a decimal point and remembers the place to blame if no
digit follows; a unit is kept with its last letter first. -/
inductive Phase
  | start (origin : Nat)
  | whole (amount : Nat)
  | point (amount : Nat) (blame : Nat)
  | fraction (amount : Nat) (fraction : Fraction)
  | unit (amount : Nat) (fraction : Option Fraction) (letters : List Char)

structure State where
  offset : Nat
  total : Option Total
  phase : Phase

def isUnitLetter (c : Char) : Bool :=
  (97 ≤ c.toNat && c.toNat ≤ 122) || (65 ≤ c.toNat && c.toNat ≤ 90) || c.toNat == 0xB5

def representable {α : Type} : Option α → Except SpanFault α
  | some a => .ok a
  | none => .error .notRepresentable

def close (total : Option Total) (amount : Nat) (fraction : Option Fraction)
    (letters : List Char) : Except SpanFault (Option Total) :=
  match TimeUnit.ofName? (String.ofList letters.reverse) with
  | some unit => do
    let t := total.getD ⟨0, 0⟩
    return some (← representable (t.addAmount? amount fraction unit))
  | none =>
    if letters.isEmpty then .error (.unitNeeded amount)
    else .error (.unknownUnit (String.ofList letters.reverse))

def advance (total : Option Total) (phase : Phase) (offset : Nat) (c : Char) :
    Except SpanFault (Option Total × Phase) :=
  match phase with
  | .start origin =>
    if isDigit c then .ok (total, .whole (digitValue c))
    else if isBlank c then .ok (total, .start origin)
    else .error (.numberExpected origin)
  | .whole n =>
    if isDigit c then return (total, .whole (← representable (word? (n * 10 + digitValue c))))
    else if isBlank c then .ok (total, .whole n)
    else if isUnitLetter c then .ok (total, .unit n none [c])
    else if c = '.' then .ok (total, .point n offset)
    else .error (.invalidCharacter offset)
  | .point n blame =>
    if isDigit c then
      return (total, .fraction n (← representable (Fraction.push? ⟨0, 1⟩ (digitValue c))))
    else if isBlank c then .ok (total, .point n (offset + c.utf8Size))
    else .error (.invalidCharacter blame)
  | .fraction n f =>
    if isDigit c then return (total, .fraction n (← representable (f.push? (digitValue c))))
    else if isBlank c then .ok (total, .fraction n f)
    else if isUnitLetter c then .ok (total, .unit n (some f) [c])
    else .error (.invalidCharacter offset)
  | .unit n f letters =>
    if isDigit c then return (← close total n f letters, .whole (digitValue c))
    else if isBlank c then return (← close total n f letters, .start (offset + c.utf8Size))
    else if isUnitLetter c then .ok (total, .unit n f (c :: letters))
    else .error (.invalidCharacter offset)

def step (s : State) (c : Char) : Except SpanFault State := do
  let (total, phase) ← advance s.total s.phase s.offset c
  return ⟨s.offset + c.utf8Size, total, phase⟩

def finish (s : State) : Except SpanFault Span := do
  let total ← match s.phase with
    | .start _ => .ok s.total
    | .whole n => close s.total n none []
    | .point _ blame => .error (.invalidCharacter blame)
    | .fraction n f => close s.total n (some f) []
    | .unit n f letters => close s.total n f letters
  match total with
  | some t => .ok ⟨t.seconds * 1000000000 + t.nanoseconds⟩
  | none => .error .empty

end SpanReader

/-- The text `0` needs no unit. -/
def Span.ofText (s : String) : Except SpanFault Span :=
  if s = "0" then .ok ⟨0⟩
  else do SpanReader.finish (← s.toList.foldlM SpanReader.step ⟨0, none, .start 0⟩)

end HealControl.Time
