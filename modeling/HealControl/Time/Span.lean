import HealControl.Decimal.Digits

/-!
# Spans of time

A span is a whole number of nanoseconds.
-/
namespace HealControl.Time

open HealControl.Decimal (digits padded)

structure Span where
  nanoseconds : Nat
deriving DecidableEq, Repr, Inhabited

namespace Span

def milliseconds (n : Nat) : Span := ⟨n * 1000000⟩

def seconds (n : Nat) : Span := ⟨n * 1000000000⟩

def secondsPerMinute : Nat := 60

def minutes (n : Nat) : Span := .seconds (secondsPerMinute * n)

def wholeSeconds (s : Span) : Nat := s.nanoseconds / 1000000000

def subsecond (s : Span) : Nat := s.nanoseconds % 1000000000

def decimalText (n places : Nat) : List Char :=
  let fraction := (padded places (n % Nat.pow 10 places)).reverse.dropWhile (· == '0')
  digits (n / Nat.pow 10 places) ++ (if fraction.isEmpty then [] else '.' :: fraction.reverse)

/-- A span in its largest fitting unit of seconds, milliseconds, microseconds and nanoseconds. -/
def text (s : Span) : String :=
  let n := s.nanoseconds
  String.ofList <|
    if 1000000000 ≤ n then decimalText n 9 ++ ['s']
    else if 1000000 ≤ n then decimalText n 6 ++ ['m', 's']
    else if 1000 ≤ n then decimalText n 3 ++ ['µ', 's']
    else decimalText n 0 ++ ['n', 's']

end Span

end HealControl.Time
