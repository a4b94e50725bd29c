import HealControl.Cluster.Disk
import HealControl.Saturating

/-!
# Progress of a healing disk
-/
namespace HealControl.Cluster.DiskProgress

def items (d : DiskProgress) : UInt64 :=
  Saturating.addUnsigned d.itemsHealed d.itemsFailed

def bytes (d : DiskProgress) : UInt64 :=
  Saturating.addUnsigned d.bytesDone d.bytesFailed

/-- The share of the known objects that were visited, in percent and at most 100. -/
def percentDone (d : DiskProgress) : Float :=
  if d.objectsTotalCount = 0 then 0
  else
    let share := d.items.toFloat * 100 / d.objectsTotalCount.toFloat
    if share < 100 then share else 100

/-- Whether `d` shows more work done than `earlier`, a snapshot of the same healing: it was
updated later, and has more items, more bytes or more buckets behind it. -/
def hasProgressedSince (d earlier : DiskProgress) : Bool :=
  earlier.lastUpdate.before d.lastUpdate &&
    (earlier.items < d.items || earlier.bytes < d.bytes ||
      earlier.healedBuckets.length < d.healedBuckets.length)

end HealControl.Cluster.DiskProgress
