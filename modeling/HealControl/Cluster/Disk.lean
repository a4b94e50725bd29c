import HealControl.Json.Record

/-!
# Disks under background healing
-/
namespace HealControl.Cluster

open HealControl.Json
open HealControl.Time (Timestamp)

/-- What a node healed of the objects whose last write failed. -/
structure RecentFailures where
  bytesHealed : UInt64
  itemsHealed : UInt64
  totalItems : UInt64
  totalBytes : UInt64
  started : Timestamp
deriving DecidableEq

def RecentFailures.schema : Schema RecentFailures where
  name := "MRFStatus"
  fields := [
    .optional "bytes_healed" .word64 0,
    .optional "items_healed" .word64 0,
    .optional "total_items" .word64 0,
    .optional "total_bytes" .word64 0,
    .optional "started" .timestamp .epoch]
  toRow r := (r.bytesHealed, r.itemsHealed, r.totalItems, r.totalBytes, r.started, ())
  ofRow := fun (a, b, c, d, e, ()) => ⟨a, b, c, d, e⟩
  ofRow_toRow _ := rfl

instance : Inhabited RecentFailures := ⟨⟨0, 0, 0, 0, .epoch⟩⟩

/-- The progress of a disk that is being healed. Its counters only grow while one healing runs. -/
structure DiskProgress where
  id : String
  poolIndex : Int32
  setIndex : Int32
  diskIndex : Int32
  endpoint : String
  path : String
  started : Timestamp
  lastUpdate : Timestamp
  objectsTotalCount : UInt64
  objectsTotalSize : UInt64
  itemsHealed : UInt64
  itemsFailed : UInt64
  bytesDone : UInt64
  bytesFailed : UInt64
  objectsHealed : UInt64
  objectsFailed : UInt64
  bucket : String
  object : String
  queuedBuckets : List String
  healedBuckets : List String
deriving DecidableEq

def DiskProgress.schema : Schema DiskProgress where
  name := "HealingDisk"
  fields := [
    .optional "id" .text "",
    .optional "pool_index" .int32 0,
    .optional "set_index" .int32 0,
    .optional "disk_index" .int32 0,
    .optional "endpoint" .text "",
    .optional "path" .text "",
    .optional "started" .timestamp .epoch,
    .optional "last_update" .timestamp .epoch,
    .optional "objects_total_count" .word64 0,
    .optional "objects_total_size" .word64 0,
    .optional "items_healed" .word64 0,
    .optional "items_failed" .word64 0,
    .optional "bytes_done" .word64 0,
    .optional "bytes_failed" .word64 0,
    .optional "objects_healed" .word64 0,
    .optional "objects_failed" .word64 0,
    .optional "current_bucket" .text "",
    .optional "current_object" .text "",
    .optional "queued_buckets" (.nullAs [] (.list .text)) [],
    .optional "healed_buckets" (.nullAs [] (.list .text)) []]
  toRow d := (d.id, d.poolIndex, d.setIndex, d.diskIndex, d.endpoint, d.path, d.started,
    d.lastUpdate, d.objectsTotalCount, d.objectsTotalSize, d.itemsHealed, d.itemsFailed,
    d.bytesDone, d.bytesFailed, d.objectsHealed, d.objectsFailed, d.bucket, d.object,
    d.queuedBuckets, d.healedBuckets, ())
  ofRow := fun (a, b, c, d, e, f, g, h, i, j, k, l, m, n, o, p, q, r, s, t, ()) =>
    ⟨a, b, c, d, e, f, g, h, i, j, k, l, m, n, o, p, q, r, s, t⟩
  ofRow_toRow _ := rfl

instance : Inhabited DiskProgress :=
  ⟨⟨"", 0, 0, 0, "", "", .epoch, .epoch, 0, 0, 0, 0, 0, 0, 0, 0, "", "", [], []⟩⟩

/-- A disk of an erasure set as reported by one node. Only a disk that is being healed has
progress. -/
structure Disk where
  endpoint : String
  path : String
  healing : Bool
  state : String
  uuid : String
  totalSpace : UInt64
  usedSpace : UInt64
  availableSpace : UInt64
  progress : Option DiskProgress
  poolIndex : Int32
  setIndex : Int32
  diskIndex : Int32
deriving DecidableEq

def Disk.schema : Schema Disk where
  name := "Disk"
  fields := [
    .omitting "endpoint" .text "",
    .omitting "path" .text "",
    .omitting "healing" .bool false,
    .omitting "state" .text "",
    .omitting "uuid" .text "",
    .omitting "totalspace" .word64 0,
    .omitting "usedspace" .word64 0,
    .omitting "availspace" .word64 0,
    .omitting "heal_info" (.option DiskProgress.schema.codec) none,
    .optional "pool_index" .int32 0,
    .optional "set_index" .int32 0,
    .optional "disk_index" .int32 0]
  toRow d := (d.endpoint, d.path, d.healing, d.state, d.uuid, d.totalSpace, d.usedSpace,
    d.availableSpace, d.progress, d.poolIndex, d.setIndex, d.diskIndex, ())
  ofRow := fun (a, b, c, d, e, f, g, h, i, j, k, l, ()) => ⟨a, b, c, d, e, f, g, h, i, j, k, l⟩
  ofRow_toRow _ := rfl

instance : Inhabited Disk := ⟨⟨"", "", false, "", "", 0, 0, 0, none, 0, 0, 0⟩⟩

end HealControl.Cluster
