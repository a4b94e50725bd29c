import HealControl.Time.Date

/-!
# Timestamps

Instants in Coordinated Universal Time to the nanosecond. A leap second is kept as second 60 of
its minute, which puts it between second 59 and the next minute.
-/
namespace HealControl.Time

structure Timestamp where
  date : Date
  hour : Nat
  minute : Nat
  second : Nat
  nanosecond : Nat
  hour_lt : hour < 24
  minute_lt : minute < 60
  second_le : second ≤ 60
  nanosecond_lt : nanosecond < 1000000000
deriving DecidableEq

namespace Timestamp

def parts (t : Timestamp) : List Int :=
  [t.date.year, t.date.month, t.date.day, t.hour, t.minute, t.second, t.nanosecond]

def before (t u : Timestamp) : Bool :=
  decide (t.parts < u.parts)

theorem before_irrefl (t : Timestamp) : t.before t = false :=
  decide_eq_false (List.lt_irrefl t.parts)

theorem not_before_of_before {t u : Timestamp} (h : t.before u = true) : u.before t = false :=
  decide_eq_false fun hback => List.lt_irrefl t.parts
    (List.lt_trans (of_decide_eq_true h) hback)

theorem not_before_trans {t u v : Timestamp} (h : u.before t = false) (h' : v.before u = false) :
    v.before t = false :=
  decide_eq_false (List.not_lt.mpr (List.le_trans (List.not_lt.mp (of_decide_eq_false h))
    (List.not_lt.mp (of_decide_eq_false h'))))

/-- What is earlier stays so from any time that is no later, and before any that is no earlier. -/
theorem before_mono {t t' u u' : Timestamp} (ht : t'.before t = false) (hu : u.before u' = false)
    (h : t'.before u' = true) : t.before u = true := by
  cases hno : t.before u with
  | true => rfl
  | false =>
    rw [not_before_trans (not_before_trans hu hno) ht] at h
    contradiction

/-- The start of 1970, which stands for a timestamp that was never set. -/
def epoch : Timestamp where
  date := ⟨1970, 1, 1, by decide⟩
  hour := 0
  minute := 0
  second := 0
  nanosecond := 0
  hour_lt := by decide
  minute_lt := by decide
  second_le := by decide
  nanosecond_lt := by decide

instance : Inhabited Timestamp := ⟨epoch⟩

end Timestamp

structure ClockMinute where
  hour : Nat
  minute : Nat
  hour_lt : hour < 24
  minute_lt : minute < 60

def ClockMinute.ofMinutes (m : Nat) : ClockMinute :=
  ⟨m / 60 % 24, m % 60, Nat.mod_lt _ (by decide), Nat.mod_lt _ (by decide)⟩

/-- The day and clock time in Universal Time of a local day and time that is `offset` minutes
ahead of it, for an offset of less than a day. Absent if that day is out of the calendar. -/
def toUniversal? (date : Date) (hour minute : Nat) (offset : Int) : Option (Date × ClockMinute) :=
  let minutes : Int := 60 * hour + minute - offset
  if minutes < 0 then date.previous?.map (·, .ofMinutes (minutes + 1440).toNat)
  else if 1440 ≤ minutes then date.next?.map (·, .ofMinutes (minutes - 1440).toNat)
  else some (date, .ofMinutes minutes.toNat)

end HealControl.Time
