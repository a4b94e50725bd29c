import Mathlib.Data.List.Induction
import HealControl.Cluster.Merge

/-!
# One set after any number of reports

A set that absorbs reports one after the other ends with the disks of the richest of them, the
first that names the most disks, the set itself counted as the report before all others. The
progress of such a disk is the last one that a later report of as many disks brings for its place.
`foldl_absorb` says that this is all there is to it: reports with fewer disks, and whatever came
before the richest, leave no trace.
-/
namespace HealControl.Cluster

@[simp] theorem mapIdx_keep {α : Type} (l : List α) : l.mapIdx (fun _ a => a) = l := by
  simp [List.mapIdx_eq_iff]

def Disk.updated (d : Disk) (brought : Option DiskProgress) : Disk :=
  { d with progress := brought.or d.progress }

@[simp] theorem Disk.updated_none (d : Disk) : d.updated none = d := rfl

@[simp] theorem Disk.updated_updated (d : Disk) (first second : Option DiskProgress) :
    (d.updated first).updated second = d.updated (second.or first) := by
  simp [Disk.updated, Option.or_assoc]

namespace SetStatus

def progressAt (i : Nat) (s : SetStatus) : Option DiskProgress :=
  s.disks[i]?.bind Disk.progress

/-- The last progress that any of the reports brings for the disk in place `i`. -/
def lastProgress (i : Nat) (reports : List SetStatus) : Option DiskProgress :=
  (reports.filterMap (progressAt i)).getLast?

@[simp] theorem lastProgress_nil (i : Nat) : lastProgress i [] = none := rfl

@[simp] theorem lastProgress_concat (i : Nat) (reports : List SetStatus) (r : SetStatus) :
    lastProgress i (reports ++ [r]) = (r.progressAt i).or (lastProgress i reports) := by
  cases h : r.progressAt i <;> simp [lastProgress, h]

/-- The richest of a set and its reports: the first that names the most disks. -/
def richest (known : SetStatus) (reports : List SetStatus) : SetStatus :=
  (known :: reports).maxOn (fun s => s.disks.length) (List.cons_ne_nil known reports)

def richestPlace (known : SetStatus) (reports : List SetStatus) : Nat :=
  (known :: reports).maxIdxOn (fun s => s.disks.length) (List.cons_ne_nil known reports)

/-- The reports after the richest that name as many disks. -/
def equals (known : SetStatus) (reports : List SetStatus) : List SetStatus :=
  ((known :: reports).drop (known.richestPlace reports + 1)).filter fun r =>
    r.disks.length = (known.richest reports).disks.length

/-- A set once it has absorbed reports. It has the disks of the richest, each with the last
progress that is brought for its place after that. -/
def absorbAll (known : SetStatus) (reports : List SetStatus) : SetStatus :=
  { known with
    disks := (known.richest reports).disks.mapIdx fun i d =>
      d.updated (lastProgress i (known.equals reports)) }

variable (known : SetStatus) (reports : List SetStatus) (r : SetStatus)

theorem richestPlace_le : known.richestPlace reports ≤ reports.length :=
  Nat.le_of_lt_succ (List.maxIdxOn_lt_length (List.cons_ne_nil known reports))

theorem richest_concat :
    known.richest (reports ++ [r]) =
      if (known.richest reports).disks.length < r.disks.length then r
      else known.richest reports := by
  have h := List.maxOn_append (f := fun s : SetStatus => s.disks.length)
    (List.cons_ne_nil known reports) (List.cons_ne_nil r [])
  rw [List.maxOn_singleton, maxOn_eq_if] at h
  simp only [richest, ← List.cons_append, h, ← Nat.not_le, ite_not]

theorem richestPlace_concat :
    known.richestPlace (reports ++ [r]) =
      if (known.richest reports).disks.length < r.disks.length then reports.length + 1
      else known.richestPlace reports := by
  have h := List.maxIdxOn_append (f := fun s : SetStatus => s.disks.length)
    (List.cons_ne_nil known reports) (List.cons_ne_nil r [])
  rw [List.maxOn_singleton, List.maxIdxOn_singleton] at h
  simp only [richestPlace, richest, ← List.cons_append, h, ← Nat.not_le, ite_not,
    List.length_cons, Nat.add_zero]

theorem equals_concat :
    known.equals (reports ++ [r]) =
      if (known.richest reports).disks.length < r.disks.length then []
      else if r.disks.length < (known.richest reports).disks.length then known.equals reports
      else known.equals reports ++ [r] := by
  have hle := known.richestPlace_le reports
  simp only [equals, richest_concat, richestPlace_concat, List.drop_succ_cons]
  by_cases hmore : (known.richest reports).disks.length < r.disks.length
  · simp [hmore]
  · simp only [if_neg hmore, List.drop_append_of_le_length hle, List.filter_append]
    by_cases hless : r.disks.length < (known.richest reports).disks.length
    · have hne : r.disks.length ≠ (known.richest reports).disks.length := Nat.ne_of_lt hless
      simp [hless, hne]
    · have heq : r.disks.length = (known.richest reports).disks.length := by omega
      simp [heq]

theorem length_disks_absorbAll :
    (known.absorbAll reports).disks.length = (known.richest reports).disks.length := by
  simp [absorbAll]

@[simp] theorem id_absorbAll : (known.absorbAll reports).id = known.id := rfl

@[simp] theorem absorbAll_nil : known.absorbAll [] = known := by
  simp [absorbAll, equals, richestPlace, richest]

end SetStatus

/-- An overlay only replaces the progress of disks, where the report brings one. -/
theorem overlay_eq_mapIdx (known reported : List Disk) :
    overlay known reported =
      known.mapIdx fun i d => d.updated (reported[i]?.bind Disk.progress) := by
  induction known generalizing reported with
  | nil => cases reported <;> rfl
  | cons d ds ih =>
    cases reported with
    | nil => simp [overlay]
    | cons e es =>
      rw [overlay, ih, List.mapIdx_cons]
      cases he : e.progress <;> simp [he, Disk.updated]

namespace SetStatus

theorem absorb_absorbAll (known : SetStatus) (reports : List SetStatus) (r : SetStatus) :
    (known.absorbAll reports).absorb r = known.absorbAll (reports ++ [r]) := by
  have hlen := known.length_disks_absorbAll reports
  -- the three cases are those of `absorb`: the report replaces the disks, is left out, or is laid over
  by_cases hmore : (known.richest reports).disks.length < r.disks.length
  · simp [absorb, hmore, absorbAll, richest_concat, equals_concat]
  · by_cases hless : r.disks.length < (known.richest reports).disks.length
    · simp [absorb, hmore, hless, absorbAll, richest_concat, equals_concat]
    · have hover : overlay (known.absorbAll reports).disks r.disks =
          (known.absorbAll (reports ++ [r])).disks := by
        rw [overlay_eq_mapIdx]
        simp only [absorbAll, richest_concat, equals_concat, if_neg hmore, if_neg hless,
          List.mapIdx_mapIdx, lastProgress_concat]
        congr 1
        funext i d
        simp [progressAt]
      rw [absorb, if_neg (hlen ▸ hmore), if_neg (hlen ▸ hless), hover]
      rfl

/-- What a set comes to that absorbs reports one after the other. -/
theorem foldl_absorb (known : SetStatus) (reports : List SetStatus) :
    reports.foldl absorb known = known.absorbAll reports := by
  induction reports using List.reverseRecOn with
  | nil => simp
  | append_singleton reports r ih =>
    rw [List.foldl_append, ih, List.foldl_cons, List.foldl_nil, absorb_absorbAll]

theorem absorbAll_cons (known : SetStatus) (r : SetStatus) (reports : List SetStatus) :
    known.absorbAll (r :: reports) = (known.absorb r).absorbAll reports := by
  rw [← foldl_absorb, ← foldl_absorb, List.foldl_cons]

end SetStatus

end HealControl.Cluster
