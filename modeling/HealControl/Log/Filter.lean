import HealControl.Log.Record

/-!
# Dropping log records

A threshold lets a record pass when the record is at least as serious as the threshold.
-/
namespace HealControl.Log

def Level.reaches (level threshold : Level) : Bool :=
  level.rank ≤ threshold.rank

structure Threshold where
  level : Level
deriving DecidableEq, Repr

def Threshold.initial : Threshold := ⟨.trace⟩

def Threshold.passes (t : Threshold) (r : Record) : Bool :=
  r.level.reaches t.level

inductive Step
  | set (level : Level)
  | record (r : Record)

def Threshold.step (t : Threshold) : Step → Threshold × List Record
  | .set level => (⟨level⟩, [])
  | .record r => (t, if t.passes r then [r] else [])

end HealControl.Log
