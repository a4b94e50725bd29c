import HealControl.Decimal.Digits
import HealControl.Text.Blank
import HealControl.Time.Timestamp

/-!
# Timestamps as text

`Timestamp.text` writes a timestamp in the form of RFC 3339 with `Z` as its offset, and the fewest
of 0, 3, 6 or 9 fraction digits that lose nothing. `Timestamp.ofText` reads that form and looser
ones: short numbers, blanks around the parts, a space in place of `T`, any offset of less than a
day.
-/
namespace HealControl.Time

open HealControl.Text (isBlank)
open HealControl.Decimal

inductive TimestampFault
  | tooShort
  | invalid
  | outOfRange
  | trailing
  | outOfCalendar
deriving DecidableEq, Repr

def TimestampFault.message : TimestampFault → String
  | .tooShort => "premature end of input"
  | .invalid => "input contains invalid characters"
  | .outOfRange => "input is out of range"
  | .trailing => "trailing input"
  | .outOfCalendar => "no possible date and time matching input"

/-- Reads a run of at least one and at most `most` digits. No number may exceed `2 ^ 63 - 1`. -/
def readDigits (most : Nat) (cs : List Char) : Except TimestampFault (List Char × List Char) :=
  let run := (cs.take most).takeWhile isDigit
  if run.isEmpty then .error (if cs.isEmpty then .tooShort else .invalid)
  else if Nat.pow 2 63 ≤ ofDigits run then .error .outOfRange
  else .ok (run, cs.drop run.length)

def readPart (low high : Nat) (cs : List Char) : Except TimestampFault (Nat × List Char) := do
  let (run, rest) ← readDigits 2 (cs.dropWhile isBlank)
  let n := ofDigits run
  if low ≤ n ∧ n ≤ high then .ok (n, rest) else .error .outOfRange

/-- Reads a year after blanks: up to four digits, or any number of them after a sign. It must fit
into 32 bits. -/
def readYear (cs : List Char) : Except TimestampFault (Int × List Char) := do
  let fits (n : Int) (rest : List Char) : Except TimestampFault (Int × List Char) :=
    if Int32.minValue.toInt ≤ n ∧ n ≤ Int32.maxValue.toInt then .ok (n, rest) else .error .outOfRange
  match cs.dropWhile isBlank with
  | '-' :: rest => do
    let (run, rest) ← readDigits rest.length rest
    fits (-(ofDigits run : Int)) rest
  | '+' :: rest => do
    let (run, rest) ← readDigits rest.length rest
    fits (ofDigits run) rest
  | rest => do
    let (run, rest) ← readDigits 4 rest
    fits (ofDigits run) rest

def readMark (c : Char) (cs : List Char) : Except TimestampFault (List Char) :=
  match cs.dropWhile isBlank with
  | [] => .error .tooShort
  | d :: rest => if d = c then .ok rest else .error .invalid

def readDivider : List Char → Except TimestampFault (List Char)
  | [] => .error .tooShort
  | c :: rest => if c = 'T' ∨ c = 't' ∨ c = ' ' then .ok rest else .error .invalid

/-- Reads an optional fraction of a second as nanoseconds; digits beyond the ninth are dropped. -/
def readFraction : List Char → Except TimestampFault (Nat × List Char)
  | '.' :: rest => do
    let (run, rest) ← readDigits 9 rest
    .ok (ofDigits run * Nat.pow 10 (9 - run.length), rest.dropWhile isDigit)
  | rest => .ok (0, rest)

def isShort : List Char → Bool
  | [] => true
  | [c] => c.toNat < 0x80
  | _ => false

def readOffsetHours (cs : List Char) : Except TimestampFault (Nat × List Char) :=
  if isShort cs then .error .tooShort
  else match cs with
    | a :: b :: rest =>
      if isDigit a ∧ isDigit b then .ok (ofDigits [a, b], rest) else .error .invalid
    | _ => .error .invalid

def readOffsetMinutes (cs : List Char) : Except TimestampFault (Nat × List Char) := do
  let (n, rest) ← readOffsetHours cs
  if n < 60 then .ok (n, rest) else .error .outOfRange

/-- Reads hours and minutes, with any colons and blanks between them, as minutes. -/
def readOffsetSize (cs : List Char) : Except TimestampFault (Nat × List Char) := do
  let (hours, rest) ← readOffsetHours cs
  let (minutes, rest) ← readOffsetMinutes (rest.dropWhile fun c => c = ':' || isBlank c)
  .ok (60 * hours + minutes, rest)

def isUtc (a b c : Char) : Bool :=
  (a = 'U' || a = 'u') && (b = 'T' || b = 't') && (c = 'C' || c = 'c')

def readOffset (cs : List Char) : Except TimestampFault (Int × List Char) :=
  let signed : Except TimestampFault (Int × List Char) :=
    match cs with
    | [] => .error .tooShort
    | c :: rest =>
      if c = 'Z' ∨ c = 'z' then .ok (0, rest)
      else if c = '+' then do
        let (n, rest) ← readOffsetSize rest
        .ok ((n : Int), rest)
      else if c = '-' ∨ c = '\u2212' then do
        let (n, rest) ← readOffsetSize rest
        .ok (-(n : Int), rest)
      else .error .invalid
  match cs with
  | a :: b :: c :: rest => if isUtc a b c then .ok (0, rest) else signed
  | _ => signed

/-- The parts of a timestamp as they stand in a text, each in its own range. -/
structure LocalParts where
  year : Int
  month : Nat
  day : Nat
  hour : Nat
  minute : Nat
  second : Nat
  nanosecond : Nat
  offset : Int

def LocalParts.ofText (cs : List Char) : Except TimestampFault LocalParts := do
  let (year, cs) ← readYear cs
  let (month, cs) ← readPart 1 12 (← readMark '-' cs)
  let (day, cs) ← readPart 1 31 (← readMark '-' cs)
  let (hour, cs) ← readPart 0 23 (← readDivider cs)
  let (minute, cs) ← readPart 0 59 (← readMark ':' cs)
  let (second, cs) ← readPart 0 60 (← readMark ':' cs)
  let (nanosecond, cs) ← readFraction cs
  let (offset, cs) ← readOffset (cs.dropWhile isBlank)
  if (cs.dropWhile isBlank).isEmpty then
    .ok ⟨year, month, day, hour, minute, second, nanosecond, offset⟩
  else .error .trailing

def LocalParts.instant (p : LocalParts) : Except TimestampFault Timestamp :=
  match Date.of? p.year p.month p.day with
  | none => .error .outOfRange
  | some date =>
    if p.offset.natAbs < 1440 then
      match toUniversal? date p.hour p.minute p.offset with
      | none => .error .outOfCalendar
      | some (date, clock) =>
        if h : p.second ≤ 60 ∧ p.nanosecond < 1000000000 then
          .ok { date
                hour := clock.hour
                minute := clock.minute
                second := p.second
                nanosecond := p.nanosecond
                hour_lt := clock.hour_lt
                minute_lt := clock.minute_lt
                second_le := h.1
                nanosecond_lt := h.2 }
        else .error .outOfRange
    else .error .outOfRange

def Timestamp.ofText (cs : List Char) : Except TimestampFault Timestamp := do
  (← LocalParts.ofText cs).instant

/-- A year: four digits, or a sign and at least four digits if it is not one of 0 to 9999. -/
def yearText (year : Int) : List Char :=
  if 0 ≤ year ∧ year ≤ 9999 then padded 4 year.natAbs
  else (if year < 0 then '-' else '+') :: padded 4 year.natAbs

def fractionText (nanosecond : Nat) : List Char :=
  if nanosecond = 0 then []
  else if nanosecond % 1000000 = 0 then '.' :: padded 3 (nanosecond / 1000000)
  else if nanosecond % 1000 = 0 then '.' :: padded 6 (nanosecond / 1000)
  else '.' :: padded 9 nanosecond

def Timestamp.text (t : Timestamp) : List Char :=
  yearText t.date.year ++ '-' :: padded 2 t.date.month ++ '-' :: padded 2 t.date.day ++
    'T' :: padded 2 t.hour ++ ':' :: padded 2 t.minute ++ ':' :: padded 2 t.second ++
    fractionText t.nanosecond ++ ['Z']

end HealControl.Time
