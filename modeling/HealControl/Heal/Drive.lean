import HealControl.Json.Record

/-!
# Drives as seen by a heal
-/
namespace HealControl.Heal

open HealControl.Json

/-- The health of a drive. Only the drive itself reports that it is unformatted. -/
inductive DriveState
  | ok
  | offline
  | corrupt
  | missing
  | permissionDenied
  | faulty
  | unknown
  | unformatted
deriving DecidableEq, Repr, Inhabited

namespace DriveState

def all : List DriveState :=
  [.ok, .offline, .corrupt, .missing, .permissionDenied, .faulty, .unknown, .unformatted]

def name : DriveState → String
  | .ok => "ok"
  | .offline => "offline"
  | .corrupt => "corrupt"
  | .missing => "missing"
  | .permissionDenied => "permission-denied"
  | .faulty => "faulty"
  | .unknown => "unknown"
  | .unformatted => "unformatted"

def ofName? (name : String) : Option DriveState :=
  all.find? fun s => s.name = name

/-- States that newer nodes may report are unknown. -/
def ofName (name : String) : DriveState :=
  (ofName? name).getD .unknown

def codec : Codec DriveState :=
  Codec.text.via ofName name

end DriveState

structure DriveReport where
  uuid : String
  endpoint : String
  state : DriveState
deriving DecidableEq, Repr

def DriveReport.schema : Schema DriveReport where
  name := "HealDriveInfo"
  fields := [
    .optional "uuid" .text "",
    .optional "endpoint" .text "",
    .optional "state" DriveState.codec .unknown]
  toRow d := (d.uuid, d.endpoint, d.state, ())
  ofRow := fun (a, b, c, ()) => ⟨a, b, c⟩
  ofRow_toRow _ := rfl

instance : Inhabited DriveReport := ⟨⟨"", "", .unknown⟩⟩

structure DriveList where
  drives : List DriveReport
deriving DecidableEq, Repr, Inhabited

def DriveList.schema : Schema DriveList where
  name := "HealDrives"
  fields := [.optional "drives" (.nullAs [] (.list DriveReport.schema.codec)) []]
  toRow d := (d.drives, ())
  ofRow := fun (a, ()) => ⟨a⟩
  ofRow_toRow _ := rfl

def DriveList.count (d : DriveList) (s : DriveState) : Nat :=
  d.drives.countP fun drive => drive.state = s

end HealControl.Heal
