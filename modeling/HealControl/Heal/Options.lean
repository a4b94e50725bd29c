import HealControl.Json.Record

/-!
# Options of a heal
-/
namespace HealControl.Heal

open HealControl.Json

/-- How thoroughly parts are checked: whether they are present and up to date, or their checksums
as well. -/
inductive ScanMode
  | unknown
  | normal
  | deep
deriving DecidableEq, Repr, Inhabited

/-- Numbers without a mode of their own are unknown. -/
def ScanMode.ofByte (n : UInt8) : ScanMode :=
  if n = 1 then .normal else if n = 2 then .deep else .unknown

def ScanMode.toByte : ScanMode → UInt8
  | .unknown => 0
  | .normal => 1
  | .deep => 2

def ScanMode.codec : Codec ScanMode :=
  Codec.byte.via ScanMode.ofByte ScanMode.toByte

structure HealOptions where
  recursive : Bool
  dryRun : Bool
  remove : Bool
  recreate : Bool
  scanMode : ScanMode
  noLock : Bool
deriving DecidableEq, Repr

namespace HealOptions

instance : Inhabited HealOptions := ⟨⟨false, false, false, false, .unknown, false⟩⟩

/-- Recreating buckets and going without locks are knobs of the operation that do not count. -/
def agrees (o p : HealOptions) : Bool :=
  o.recursive == p.recursive && o.dryRun == p.dryRun && o.remove == p.remove &&
    o.scanMode == p.scanMode

def schema : Schema HealOptions where
  name := "HealOpts"
  fields := [
    .optional "recursive" .bool false,
    .optional "dryRun" .bool false,
    .optional "remove" .bool false,
    .optional "recreate" .bool false,
    .optional "scanMode" ScanMode.codec .unknown,
    .optional "nolock" .bool false]
  toRow o := (o.recursive, o.dryRun, o.remove, o.recreate, o.scanMode, o.noLock, ())
  ofRow := fun (a, b, c, d, e, f, ()) => ⟨a, b, c, d, e, f⟩
  ofRow_toRow _ := rfl

end HealOptions

end HealControl.Heal
