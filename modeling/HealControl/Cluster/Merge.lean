import HealControl.Cluster.Status
import HealControl.Decimal.Digits
import HealControl.Log.Record
import HealControl.Saturating

/-!
# Merging the reports of nodes

`merge` folds the reports of contributors into a status, in order. Sets are matched by id: a
report with more disks replaces the known list of disks, a report with as many only brings the
progress of its disks, and one with fewer is left out and told of. A status without sets takes
over the sets of the next contributor as they are. In the end the sets are sorted by their place
in the cluster; sets of the same place keep their order.
-/
namespace HealControl.Cluster

open HealControl.Decimal (natText)

/-- A report that named fewer disks of a set than are known. -/
structure PartialReport where
  setId : String
  known : Nat
  reported : Nat
deriving DecidableEq, Repr

def PartialReport.record (p : PartialReport) : Log.Record where
  level := .debug
  message := "ignoring partial report of set " ++ p.setId ++ ": " ++ natText p.known ++
    " disks known, " ++ natText p.reported ++ " reported"

/-- Gives each disk the progress of the disk in the same place of a report, if it has any
there. -/
def overlay : List Disk → List Disk → List Disk
  | d :: ds, e :: es =>
    (if e.progress.isSome then { d with progress := e.progress } else d) :: overlay ds es
  | ds, _ => ds

@[simp] theorem length_overlay (known reported : List Disk) :
    (overlay known reported).length = known.length := by
  induction known generalizing reported with
  | nil => cases reported <;> rfl
  | cons d ds ih => cases reported <;> simp [overlay, ih]

namespace SetStatus

def absorb (known report : SetStatus) : SetStatus :=
  if known.disks.length < report.disks.length then { known with disks := report.disks }
  else if report.disks.length < known.disks.length then known
  else { known with disks := overlay known.disks report.disks }

@[simp] theorem id_absorb (known report : SetStatus) : (known.absorb report).id = known.id := by
  unfold absorb
  split
  · rfl
  · split <;> rfl

@[simp] theorem length_disks_absorb (known report : SetStatus) :
    (known.absorb report).disks.length = max known.disks.length report.disks.length := by
  unfold absorb
  split
  · simp only; omega
  · split
    · omega
    · simp only [length_overlay]; omega

def partialReport? (known report : SetStatus) : Option PartialReport :=
  if report.disks.length < known.disks.length then
    some ⟨report.id, known.disks.length, report.disks.length⟩
  else none

/-- Whether the place of `s` in the cluster is not after that of `t`. -/
def placed (s t : SetStatus) : Bool :=
  s.poolIndex < t.poolIndex || (s.poolIndex == t.poolIndex && s.setIndex ≤ t.setIndex)

end SetStatus

/-- The known sets after one more report. The first set of the same id absorbs it, and a set that
is not known is added at the end. -/
def addSet : List SetStatus → SetStatus → List SetStatus
  | [], report => [report]
  | s :: rest, report =>
    if s.id = report.id then s.absorb report :: rest else s :: addSet rest report

theorem map_id_addSet (sets : List SetStatus) (report : SetStatus) :
    (addSet sets report).map SetStatus.id =
      if report.id ∈ sets.map SetStatus.id then sets.map SetStatus.id
      else sets.map SetStatus.id ++ [report.id] := by
  induction sets with
  | nil => simp [addSet]
  | cons s rest ih =>
    by_cases h : s.id = report.id
    · simp [addSet, h]
    · have h' : report.id ≠ s.id := fun e => h e.symm
      rw [addSet, if_neg h, List.map_cons, ih]
      by_cases hm : report.id ∈ rest.map SetStatus.id
      · rw [if_pos hm, List.map_cons, if_pos (List.mem_cons_of_mem _ hm)]
      · have hm' : report.id ∉ s.id :: rest.map SetStatus.id := by
          simp only [List.mem_cons, not_or]
          exact ⟨h', hm⟩
        rw [if_neg hm, List.map_cons, if_neg hm', List.cons_append]

def partialReport? (sets : List SetStatus) (report : SetStatus) : Option PartialReport := do
  let known ← sets.find? fun s => s.id = report.id
  known.partialReport? report

def partialReports : List SetStatus → List SetStatus → List PartialReport
  | _, [] => []
  | sets, report :: rest =>
    (partialReport? sets report).toList ++ partialReports (addSet sets report) rest

def addRecentFailures (known reported : Dict RecentFailures) : Dict RecentFailures :=
  reported.entries.foldl (fun d e => d.insert e.1 e.2) known

def addSets (sets reported : List SetStatus) : List SetStatus :=
  if sets.isEmpty then reported else reported.foldl addSet sets

/-- What is told of the sets of one more contributor. Sets that are taken over as they are tell
nothing. -/
def contributedPartials (sets reported : List SetStatus) : List PartialReport :=
  if sets.isEmpty then [] else partialReports sets reported

namespace ClusterStatus

def contribute (s other : ClusterStatus) : ClusterStatus where
  offlineNodes := s.offlineNodes ++ other.offlineNodes
  scannedItems := Saturating.addSigned s.scannedItems other.scannedItems
  healDisks := s.healDisks ++ other.healDisks
  sets := addSets s.sets other.sets
  recentFailures := addRecentFailures s.recentFailures other.recentFailures
  parity := s.parity

/-- The status before any contribution. Every node knows the parity of the whole cluster, so the
first contributor's is taken if there is none yet. -/
def withParity (s : ClusterStatus) (others : List ClusterStatus) : ClusterStatus :=
  match others with
  | first :: _ => if s.parity.isEmpty then { s with parity := first.parity } else s
  | [] => s

def sorted (s : ClusterStatus) : ClusterStatus :=
  { s with sets := s.sets.mergeSort SetStatus.placed }

def merge (s : ClusterStatus) (others : List ClusterStatus) : ClusterStatus :=
  (others.foldl contribute (s.withParity others)).sorted

def partialReports : ClusterStatus → List ClusterStatus → List PartialReport
  | _, [] => []
  | s, other :: rest =>
    contributedPartials s.sets other.sets ++ partialReports (s.contribute other) rest

theorem foldl_contribute_withOffline (s : ClusterStatus) (endpoints : List String)
    (others : List ClusterStatus) :
    others.foldl contribute { s with offlineNodes := endpoints } =
      { others.foldl contribute s with
        offlineNodes := endpoints ++ others.flatMap ClusterStatus.offlineNodes } := by
  induction others generalizing s endpoints with
  | nil => simp
  | cons other rest ih =>
    have hrest := ih (s.contribute other) (endpoints ++ other.offlineNodes)
    rw [List.foldl_cons, List.foldl_cons, List.flatMap_cons, ← List.append_assoc]
    exact hrest

/-- The nodes that are offline at first have no part in what is merged. -/
theorem merge_withOffline (s : ClusterStatus) (endpoints : List String)
    (others : List ClusterStatus) :
    ({ s with offlineNodes := endpoints } : ClusterStatus).merge others =
      { s.merge others with
        offlineNodes := endpoints ++ others.flatMap ClusterStatus.offlineNodes } := by
  have hparity : ({ s with offlineNodes := endpoints } : ClusterStatus).withParity others =
      { s.withParity others with offlineNodes := endpoints } := by
    unfold withParity
    split
    · split <;> rfl
    · rfl
  rw [merge, hparity, foldl_contribute_withOffline]
  rfl

end ClusterStatus

end HealControl.Cluster
