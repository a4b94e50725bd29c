/-!
# Calendar dates

Days of the proleptic Gregorian calendar from the year -262143 to the year 262142. A `Date` is a
day that exists; its neighbours are `next?` and `previous?`, absent only at the two ends of the
calendar.
-/
namespace HealControl.Time

def isLeapYear (year : Int) : Bool :=
  year % 4 == 0 && (year % 100 != 0 || year % 400 == 0)

def daysInMonth (year : Int) (month : Nat) : Nat :=
  match month with
  | 1 | 3 | 5 | 7 | 8 | 10 | 12 => 31
  | 4 | 6 | 9 | 11 => 30
  | 2 => if isLeapYear year then 29 else 28
  | _ => 0

/-- The day exists and the calendar reaches it. -/
def InCalendar (year : Int) (month day : Nat) : Prop :=
  -262143 ≤ year ∧ year ≤ 262142 ∧ 1 ≤ day ∧ day ≤ daysInMonth year month

instance (year : Int) (month day : Nat) : Decidable (InCalendar year month day) :=
  inferInstanceAs (Decidable (_ ∧ _ ∧ _ ∧ _))

structure Date where
  year : Int
  month : Nat
  day : Nat
  inCalendar : InCalendar year month day
deriving DecidableEq

def Date.of? (year : Int) (month day : Nat) : Option Date :=
  if h : InCalendar year month day then some ⟨year, month, day, h⟩ else none

def Date.next? (d : Date) : Option Date :=
  (Date.of? d.year d.month (d.day + 1)).or
    ((Date.of? d.year (d.month + 1) 1).or (Date.of? (d.year + 1) 1 1))

def Date.previous? (d : Date) : Option Date :=
  (Date.of? d.year d.month (d.day - 1)).or
    ((Date.of? d.year (d.month - 1) (daysInMonth d.year (d.month - 1))).or
      (Date.of? (d.year - 1) 12 31))

end HealControl.Time
