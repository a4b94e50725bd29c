import HealControl.Cluster.Disk

/-!
# Status of background healing

The status of background healing on one node, or on the whole cluster once the reports of its
nodes have been merged.
-/
namespace HealControl.Cluster

open HealControl.Json

/-- The status of one erasure set. Its id is the same on all nodes. -/
structure SetStatus where
  id : String
  poolIndex : Int32
  setIndex : Int32
  healStatus : String
  healPriority : String
  totalObjects : UInt64
  disks : List Disk
deriving DecidableEq

def SetStatus.schema : Schema SetStatus where
  name := "SetStatus"
  fields := [
    .optional "id" .text "",
    .optional "pool_index" .int32 0,
    .optional "set_index" .int32 0,
    .optional "heal_status" .text "",
    .optional "heal_priority" .text "",
    .optional "total_objects" .word64 0,
    .optional "disks" (.nullAs [] (.list Disk.schema.codec)) []]
  toRow s := (s.id, s.poolIndex, s.setIndex, s.healStatus, s.healPriority, s.totalObjects,
    s.disks, ())
  ofRow := fun (a, b, c, d, e, f, g, ()) => ⟨a, b, c, d, e, f, g⟩
  ofRow_toRow _ := rfl

instance : Inhabited SetStatus := ⟨⟨"", 0, 0, "", "", 0, []⟩⟩

/-- The status of a node or a cluster: the endpoints without a status of their own, the number of
items scanned, the disks being healed, the erasure sets, the recent failures of each endpoint and
the parity of each storage class. -/
structure ClusterStatus where
  offlineNodes : List String
  scannedItems : Int64
  healDisks : List String
  sets : List SetStatus
  recentFailures : Dict RecentFailures
  parity : Dict UInt64
deriving DecidableEq

namespace ClusterStatus

instance : Inhabited ClusterStatus := ⟨⟨[], 0, [], [], .empty, .empty⟩⟩

def schema : Schema ClusterStatus where
  name := "BgHealState"
  fields := [
    .optional "offline_nodes" (.nullAs [] (.list .text)) [],
    .optional "ScannedItemsCount" .int64 0,
    .optional "HealDisks" (.nullAs [] (.list .text)) [],
    .optional "sets" (.nullAs [] (.list SetStatus.schema.codec)) [],
    .optional "mrf" (.nullAs .empty (.dict RecentFailures.schema.codec)) .empty,
    .optional "sc_parity" (.nullAs .empty (.dict .size)) .empty]
  toRow s := (s.offlineNodes, s.scannedItems, s.healDisks, s.sets, s.recentFailures, s.parity, ())
  ofRow := fun (a, b, c, d, e, f, ()) => ⟨a, b, c, d, e, f⟩
  ofRow_toRow _ := rfl

def set? (s : ClusterStatus) (id : String) : Option SetStatus :=
  s.sets.find? fun set => set.id = id

/-- Whether two statuses are the same, the order of dictionary entries left aside. -/
def agrees (s t : ClusterStatus) : Bool :=
  s.offlineNodes == t.offlineNodes && s.scannedItems == t.scannedItems &&
    s.healDisks == t.healDisks && s.sets == t.sets &&
    s.recentFailures.agrees (· == ·) t.recentFailures && s.parity.agrees (· == ·) t.parity

end ClusterStatus

end HealControl.Cluster
