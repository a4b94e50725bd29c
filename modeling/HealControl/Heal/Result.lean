import HealControl.Decimal.Digits
import HealControl.Heal.Drive
import HealControl.Log.Record

/-!
# Results of a heal

A result tells what a heal did to one object, bucket or metadata entry: the state of its drives
before and after. Both lists should name the same drives in the same order. Where they do, a
result is a list of transitions, one per drive.
-/
namespace HealControl.Heal

open HealControl.Json
open HealControl.Decimal (natText intText)

inductive ItemKind
  | metadata
  | bucket
  | bucketMetadata
  | object
  | unknown
deriving DecidableEq, Repr

namespace ItemKind

instance : Inhabited ItemKind := ⟨.object⟩

def name : ItemKind → String
  | .metadata => "metadata"
  | .bucket => "bucket"
  | .bucketMetadata => "bucket-metadata"
  | .object => "object"
  | .unknown => "unknown"

/-- Kinds that newer servers may report are unknown. -/
def ofName : String → ItemKind
  | "metadata" => .metadata
  | "bucket" => .bucket
  | "bucket-metadata" => .bucketMetadata
  | "object" => .object
  | _ => .unknown

def codec : Codec ItemKind :=
  .variant ofName name

end ItemKind

structure HealResult where
  index : Int64
  kind : ItemKind
  bucket : String
  object : String
  versionId : String
  detail : String
  parityBlocks : UInt64
  dataBlocks : UInt64
  diskCount : UInt64
  setCount : UInt64
  before : DriveList
  after : DriveList
  objectSize : Int64
deriving DecidableEq

namespace HealResult

def schema : Schema HealResult where
  name := "HealResultItem"
  fields := [
    .optional "resultId" .int64 0,
    .optional "type" ItemKind.codec .object,
    .optional "bucket" .text "",
    .optional "object" .text "",
    .optional "versionId" .text "",
    .optional "detail" .text "",
    .omitting "parityBlocks" .size 0,
    .omitting "dataBlocks" .size 0,
    .optional "diskCount" .size 0,
    .optional "setCount" .size 0,
    .optional "before" DriveList.schema.codec ⟨[]⟩,
    .optional "after" DriveList.schema.codec ⟨[]⟩,
    .optional "objectSize" .int64 0]
  toRow r := (r.index, r.kind, r.bucket, r.object, r.versionId, r.detail, r.parityBlocks,
    r.dataBlocks, r.diskCount, r.setCount, r.before, r.after, r.objectSize, ())
  ofRow := fun (a, b, c, d, e, f, g, h, i, j, k, l, m, ()) =>
    ⟨a, b, c, d, e, f, g, h, i, j, k, l, m⟩
  ofRow_toRow _ := rfl

instance : Inhabited HealResult :=
  ⟨⟨0, .object, "", "", "", "", 0, 0, 0, 0, ⟨[]⟩, ⟨[]⟩, 0⟩⟩

def counts (r : HealResult) (s : DriveState) : Nat × Nat :=
  (r.before.count s, r.after.count s)

/-- Whether two reports can be of the same drive: their uuids are equal, or one has none. -/
def sameDrive (b a : DriveReport) : Bool :=
  b.uuid.isEmpty || a.uuid.isEmpty || b.uuid == a.uuid

def isAligned (r : HealResult) : Bool :=
  r.before.drives.length == r.after.drives.length &&
    (r.before.drives.zip r.after.drives).all fun (b, a) => sameDrive b a

def misaligned (r : HealResult) : Log.Record where
  level := .warning
  message := "heal result " ++ intText r.index.toInt ++ " for " ++ r.bucket ++ "/" ++ r.object ++
    " has misaligned drive lists (" ++ natText r.before.drives.length ++ " before, " ++
    natText r.after.drives.length ++ " after)"

/-- Every drive before and after the heal, or a record of why they cannot be told. -/
def transitions (r : HealResult) : Except Log.Record (List (DriveReport × DriveReport)) :=
  if r.isAligned then .ok (r.before.drives.zip r.after.drives) else .error r.misaligned

end HealResult

def countDrives (r : Option HealResult) (s : DriveState) : Nat × Nat :=
  match r with
  | some r => r.counts s
  | none => (0, 0)

end HealControl.Heal
