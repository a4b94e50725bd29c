/-!
# Sums that stay in range

Counters of 64 bits are added up to the last number that fits. The sum of two words is exact
unless it is out of range, and then it is the bound that it ran past.
-/
namespace HealControl.Saturating

def addUnsigned (a b : UInt64) : UInt64 :=
  UInt64.ofNat (min (a.toNat + b.toNat) (UInt64.size - 1))

@[simp] theorem toNat_addUnsigned (a b : UInt64) :
    (addUnsigned a b).toNat = min (a.toNat + b.toNat) (UInt64.size - 1) := by
  simp only [addUnsigned, UInt64.toNat_ofNat', UInt64.size]
  omega

/-- The sum of two signed counters, or the nearest one to it. -/
def addSigned (a b : Int64) : Int64 :=
  Int64.ofInt (max Int64.minValue.toInt (min Int64.maxValue.toInt (a.toInt + b.toInt)))

@[simp] theorem toInt_addSigned (a b : Int64) :
    (addSigned a b).toInt =
      max Int64.minValue.toInt (min Int64.maxValue.toInt (a.toInt + b.toInt)) := by
  have hmin : Int64.minValue.toInt = -9223372036854775808 := by decide
  have hmax : Int64.maxValue.toInt = 9223372036854775807 := by decide
  apply Int64.toInt_ofInt_of_le <;> omega

end HealControl.Saturating
