import HealControl.Admin.Error
import HealControl.Cluster.Status
import HealControl.Heal.Task
import HealControl.Proofs.Json.Codecs
import HealControl.Settings.Help

/-!
# What goes over the wire

The types that servers and settings are exchanged in. The names and numbers that stand for states,
kinds and modes are told apart when they are read, although unknown ones are all read as one. A
record reads back as its fields do, so a field that is added needs no more than a codec that does.
-/
namespace HealControl

open HealControl.Admin
open HealControl.Cluster
open HealControl.Heal
open HealControl.Json
open HealControl.Settings

/-! ## Names and numbers that stand for something -/

@[simp] theorem reads_scanMode : ScanMode.codec.Reads := by
  apply reads_via
  · intro mode
    exact reads_byte mode.toByte
  · intro mode
    cases mode <;> rfl

@[simp] theorem reads_driveState : DriveState.codec.Reads := by
  apply reads_via
  · intro state
    exact reads_text state.name
  · intro state
    cases state <;> decide

@[simp] theorem reads_itemKind : ItemKind.codec.Reads := by
  apply reads_variant
  intro kind
  cases kind <;> rfl

/-! ## Records -/

@[simp] theorem reads_healOptions : HealOptions.schema.codec.Reads := by
  apply reads_schema _ (by decide)
  simp [HealOptions.schema]

@[simp] theorem reads_healReceipt : HealReceipt.schema.codec.Reads := by
  apply reads_schema _ (by decide)
  simp [HealReceipt.schema]

@[simp] theorem reads_driveReport : DriveReport.schema.codec.Reads := by
  apply reads_schema _ (by decide)
  simp [DriveReport.schema]

@[simp] theorem reads_driveList : DriveList.schema.codec.Reads := by
  apply reads_schema _ (by decide)
  simp [DriveList.schema]

@[simp] theorem reads_healResult : HealResult.schema.codec.Reads := by
  apply reads_schema _ (by decide)
  simp [HealResult.schema]

@[simp] theorem reads_taskStatus : TaskStatus.schema.codec.Reads := by
  apply reads_schema _ (by decide)
  simp [TaskStatus.schema]

@[simp] theorem reads_recentFailures : RecentFailures.schema.codec.Reads := by
  apply reads_schema _ (by decide)
  simp [RecentFailures.schema]

@[simp] theorem reads_diskProgress : DiskProgress.schema.codec.Reads := by
  apply reads_schema _ (by decide)
  simp [DiskProgress.schema]

@[simp] theorem reads_disk : Disk.schema.codec.Reads := by
  apply reads_schema _ (by decide)
  simp [Disk.schema]

@[simp] theorem reads_setStatus : SetStatus.schema.codec.Reads := by
  apply reads_schema _ (by decide)
  simp [SetStatus.schema]

@[simp] theorem reads_clusterStatus : ClusterStatus.schema.codec.Reads := by
  apply reads_schema _ (by decide)
  simp [ClusterStatus.schema]

@[simp] theorem reads_errorPayload : ErrorPayload.schema.codec.Reads := by
  apply reads_schema _ (by decide)
  simp [ErrorPayload.schema]

@[simp] theorem reads_param : Param.schema.codec.Reads := by
  apply reads_schema _ (by decide)
  simp [Param.schema]

@[simp] theorem reads_helpEntry : HelpEntry.schema.codec.Reads := by
  apply reads_schema _ (by decide)
  simp [HelpEntry.schema]

/-! ## All of them -/

inductive WireType
  | scanMode
  | healOptions
  | healReceipt
  | taskStatus
  | itemKind
  | driveState
  | driveReport
  | driveList
  | healResult
  | recentFailures
  | diskProgress
  | disk
  | setStatus
  | clusterStatus
  | errorPayload
  | param
  | helpEntry

namespace WireType

def Values : WireType → Type
  | scanMode => ScanMode
  | healOptions => HealOptions
  | healReceipt => HealReceipt
  | taskStatus => TaskStatus
  | itemKind => ItemKind
  | driveState => DriveState
  | driveReport => DriveReport
  | driveList => DriveList
  | healResult => HealResult
  | recentFailures => RecentFailures
  | diskProgress => DiskProgress
  | disk => Disk
  | setStatus => SetStatus
  | clusterStatus => ClusterStatus
  | errorPayload => ErrorPayload
  | param => Param
  | helpEntry => HelpEntry

def codec : (t : WireType) → Codec t.Values
  | scanMode => ScanMode.codec
  | healOptions => HealOptions.schema.codec
  | healReceipt => HealReceipt.schema.codec
  | taskStatus => TaskStatus.schema.codec
  | itemKind => ItemKind.codec
  | driveState => DriveState.codec
  | driveReport => DriveReport.schema.codec
  | driveList => DriveList.schema.codec
  | healResult => HealResult.schema.codec
  | recentFailures => RecentFailures.schema.codec
  | diskProgress => DiskProgress.schema.codec
  | disk => Disk.schema.codec
  | setStatus => SetStatus.schema.codec
  | clusterStatus => ClusterStatus.schema.codec
  | errorPayload => ErrorPayload.schema.codec
  | param => Param.schema.codec
  | helpEntry => HelpEntry.schema.codec

theorem reads_codec (t : WireType) : t.codec.Reads := by
  cases t with
  | scanMode => exact reads_scanMode
  | healOptions => exact reads_healOptions
  | healReceipt => exact reads_healReceipt
  | taskStatus => exact reads_taskStatus
  | itemKind => exact reads_itemKind
  | driveState => exact reads_driveState
  | driveReport => exact reads_driveReport
  | driveList => exact reads_driveList
  | healResult => exact reads_healResult
  | recentFailures => exact reads_recentFailures
  | diskProgress => exact reads_diskProgress
  | disk => exact reads_disk
  | setStatus => exact reads_setStatus
  | clusterStatus => exact reads_clusterStatus
  | errorPayload => exact reads_errorPayload
  | param => exact reads_param
  | helpEntry => exact reads_helpEntry

/-- Every value of every type that goes over the wire is found again, in all of its fields, in the
bytes that it is written as. -/
theorem ofBytes_encode (t : WireType) (v : t.Values) :
    t.codec.ofBytes (t.codec.encode v).bytes = .ok v :=
  t.reads_codec.ofBytes v

end WireType

end HealControl
