import HealControl.Heal.Result
import Mathlib.Algebra.BigOperators.Group.List.Basic
import Mathlib.Algebra.Ring.Nat
import Mathlib.Data.List.Nodup

/-!
# Transitions of drives

A result names its drives twice, before and after the heal. Where both lists name the same drives in
the same order, it is a list of transitions, and the counts of a state are the transitions that
leave it and those that enter it. A drive without a uuid may be any drive; where all of them have
one, no other order of the drives passes for theirs.
-/
namespace HealControl.Heal

/-- Both lists have the same length, and at every place the reports have one uuid, unless one of
them has none. -/
structure SameDrives (before after : List DriveReport) : Prop where
  length_eq : before.length = after.length
  uuid_eq : ∀ (i : Nat) (b a : DriveReport), before[i]? = some b → after[i]? = some a →
    b.uuid = a.uuid ∨ b.uuid = "" ∨ a.uuid = ""

structure Named (drives : List DriveReport) : Prop where
  ne_empty : ∀ d ∈ drives, d.uuid ≠ ""
  nodup : (drives.map DriveReport.uuid).Nodup

/-- The transitions of a result: which drives they are of, and how many of them leave and enter each
state. -/
structure HealResult.Transitions (r : HealResult) (ts : List (DriveReport × DriveReport)) : Prop
    where
  before : ts.map Prod.fst = r.before.drives
  after : ts.map Prod.snd = r.after.drives
  counts : ∀ s, countDrives (some r) s =
    (ts.countP fun t => t.1.state = s, ts.countP fun t => t.2.state = s)

structure HealResult.Accounted (r : HealResult) : Prop where
  isOk_iff : (∃ ts, r.transitions = .ok ts) ↔ SameDrives r.before.drives r.after.drives
  ok : ∀ ts, r.transitions = .ok ts → r.Transitions ts
  misaligned : ¬ SameDrives r.before.drives r.after.drives →
    r.transitions = .error r.misaligned ∧ r.misaligned.level = .warning
  before : (DriveState.all.map fun s => (countDrives (some r) s).1).sum = r.before.drives.length
  after : (DriveState.all.map fun s => (countDrives (some r) s).2).sum = r.after.drives.length
  reordered : SameDrives r.before.drives r.after.drives → Named r.before.drives →
    Named r.after.drives → ∀ drives, drives.Perm r.after.drives → drives ≠ r.after.drives →
    ¬ SameDrives r.before.drives drives

/-! ## Counting -/

theorem DriveState.nodup_all : DriveState.all.Nodup := by decide

theorem DriveState.mem_all (s : DriveState) : s ∈ DriveState.all := by
  cases s <;> decide

/-- Every drive is counted in one state. -/
theorem DriveList.sum_count (d : DriveList) :
    (DriveState.all.map d.count).sum = d.drives.length := by
  obtain ⟨drives⟩ := d
  induction drives with
  | nil => decide
  | cons drive rest ih =>
    have hcons : ∀ s, (DriveList.mk (drive :: rest)).count s =
        (DriveList.mk rest).count s + if drive.state = s then 1 else 0 := fun s => by
      simp [DriveList.count, List.countP_cons]
    have hone : (DriveState.all.map fun s => if drive.state = s then 1 else 0).sum = 1 := by
      cases drive.state <;> decide
    rw [List.map_congr_left fun s _ => hcons s, List.sum_map_add, ih, hone]
    rfl

/-! ## Alignment -/

section
variable {before after drives : List DriveReport}

theorem HealResult.sameDrive_iff (b a : DriveReport) :
    HealResult.sameDrive b a = true ↔ b.uuid = a.uuid ∨ b.uuid = "" ∨ a.uuid = "" := by
  simp only [sameDrive, Bool.or_eq_true, String.isEmpty_iff, beq_iff_eq]
  tauto

theorem HealResult.isAligned_iff (r : HealResult) :
    r.isAligned = true ↔ SameDrives r.before.drives r.after.drives := by
  rw [isAligned, Bool.and_eq_true, beq_iff_eq, List.all_eq_true]
  constructor
  · rintro ⟨hlength, hall⟩
    refine ⟨hlength, fun i b a hb ha => (sameDrive_iff b a).mp (hall (b, a) ?_)⟩
    exact List.mem_of_getElem? (List.getElem?_zip_eq_some.mpr ⟨hb, ha⟩)
  · rintro ⟨hlength, huuid⟩
    refine ⟨hlength, fun (b, a) hmem => (sameDrive_iff b a).mpr ?_⟩
    obtain ⟨i, hi⟩ := List.mem_iff_getElem?.mp hmem
    obtain ⟨hb, ha⟩ := List.getElem?_zip_eq_some.mp hi
    exact huuid i b a hb ha

/-- Where every drive has a uuid, the same drives have the same uuids. -/
theorem SameDrives.map_uuid_eq (h : SameDrives before after) (hbefore : ∀ d ∈ before, d.uuid ≠ "")
    (hafter : ∀ d ∈ after, d.uuid ≠ "") :
    before.map DriveReport.uuid = after.map DriveReport.uuid := by
  refine List.ext_getElem (by simp [h.length_eq]) fun i hi hi' => ?_
  rw [List.length_map] at hi hi'
  rw [List.getElem_map, List.getElem_map]
  have hor := h.uuid_eq i _ _ (List.getElem?_eq_getElem hi) (List.getElem?_eq_getElem hi')
  rcases hor with heq | hempty | hempty
  · exact heq
  · exact absurd hempty (hbefore _ (List.getElem_mem hi))
  · exact absurd hempty (hafter _ (List.getElem_mem hi'))

/-- Two orders of drives with uuids of their own are one if their uuids are in one order. -/
theorem eq_of_map_uuid_eq (hperm : drives.Perm after) (hnodup : (after.map DriveReport.uuid).Nodup)
    (h : drives.map DriveReport.uuid = after.map DriveReport.uuid) : drives = after := by
  refine List.ext_getElem hperm.length_eq fun i hi hi' => ?_
  have huuid : drives[i].uuid = after[i].uuid := by
    simpa [hi, hi'] using congrArg (·[i]?) h
  exact List.inj_on_of_nodup_map hnodup (hperm.mem_iff.mp (List.getElem_mem hi))
    (List.getElem_mem hi') huuid

theorem not_sameDrives_of_perm (h : SameDrives before after) (hbefore : Named before)
    (hafter : Named after) (hperm : drives.Perm after) (hne : drives ≠ after) :
    ¬ SameDrives before drives := by
  intro hdrives
  have hnamed : ∀ d ∈ drives, d.uuid ≠ "" := fun d hd => hafter.ne_empty d (hperm.mem_iff.mp hd)
  have hother := hdrives.map_uuid_eq hbefore.ne_empty hnamed
  have hown := h.map_uuid_eq hbefore.ne_empty hafter.ne_empty
  exact hne (eq_of_map_uuid_eq hperm hafter.nodup (hother.symm.trans hown))

end

/-! ## Transitions -/

section
variable (r : HealResult)

theorem HealResult.transitions_of_sameDrives (h : SameDrives r.before.drives r.after.drives) :
    r.transitions = .ok (r.before.drives.zip r.after.drives) :=
  if_pos (r.isAligned_iff.mpr h)

theorem HealResult.transitions_of_not_sameDrives
    (h : ¬ SameDrives r.before.drives r.after.drives) : r.transitions = .error r.misaligned :=
  if_neg fun haligned => h (r.isAligned_iff.mp haligned)

theorem HealResult.sameDrives_of_ok {ts : List (DriveReport × DriveReport)}
    (h : r.transitions = .ok ts) : SameDrives r.before.drives r.after.drives := by
  by_contra hnot
  rw [r.transitions_of_not_sameDrives hnot] at h
  contradiction

theorem HealResult.transitions_zip (h : SameDrives r.before.drives r.after.drives) :
    r.Transitions (r.before.drives.zip r.after.drives) := by
  have hfst : (r.before.drives.zip r.after.drives).map Prod.fst = r.before.drives :=
    List.map_fst_zip (Nat.le_of_eq h.length_eq)
  have hsnd : (r.before.drives.zip r.after.drives).map Prod.snd = r.after.drives :=
    List.map_snd_zip (Nat.le_of_eq h.length_eq.symm)
  refine ⟨hfst, hsnd, fun s => Prod.ext ?_ ?_⟩
  · calc r.before.count s
        = ((r.before.drives.zip r.after.drives).map Prod.fst).countP fun d => d.state = s := by
          rw [hfst, DriveList.count]
      _ = (r.before.drives.zip r.after.drives).countP fun t => t.1.state = s := by
          rw [List.countP_map]
          rfl
  · calc r.after.count s
        = ((r.before.drives.zip r.after.drives).map Prod.snd).countP fun d => d.state = s := by
          rw [hsnd, DriveList.count]
      _ = (r.before.drives.zip r.after.drives).countP fun t => t.2.state = s := by
          rw [List.countP_map]
          rfl

end

theorem HealResult.accounted (r : HealResult) : r.Accounted where
  isOk_iff := by
    constructor
    · rintro ⟨ts, h⟩
      exact r.sameDrives_of_ok h
    · exact fun h => ⟨_, r.transitions_of_sameDrives h⟩
  ok ts h := by
    have hsame := r.sameDrives_of_ok h
    rw [r.transitions_of_sameDrives hsame, Except.ok.injEq] at h
    exact h ▸ r.transitions_zip hsame
  misaligned h := ⟨r.transitions_of_not_sameDrives h, rfl⟩
  before := r.before.sum_count
  after := r.after.sum_count
  reordered h hbefore hafter _ hperm hne := not_sameDrives_of_perm h hbefore hafter hperm hne

/-- Every drive of a result is counted in one of the eight states, before and after. The result is
told as transitions exactly if both its lists name the same drives, and else as one warning; a
change of their order alone is noticed where every drive has a uuid of its own. -/
theorem accounted_of_healResult :
    (DriveState.all.length = 8 ∧ DriveState.all.Nodup ∧ ∀ s, s ∈ DriveState.all) ∧
    ∀ r : HealResult, r.Accounted :=
  ⟨⟨rfl, DriveState.nodup_all, DriveState.mem_all⟩, HealResult.accounted⟩

def oneRestored : HealResult :=
  { (default : HealResult) with
    before := ⟨[⟨"a", "node1", .ok⟩, ⟨"b", "node2", .missing⟩]⟩
    after := ⟨[⟨"a", "node1", .ok⟩, ⟨"b", "node2", .ok⟩]⟩ }

theorem accounted_of_oneRestored :
    let swapped := { oneRestored with after := ⟨oneRestored.after.drives.reverse⟩ }
    (∃ ts, oneRestored.transitions = .ok ts ∧ oneRestored.Transitions ts) ∧
    (countDrives (some oneRestored) .missing, countDrives (some oneRestored) .ok) =
      ((1, 0), (1, 2)) ∧
    swapped.transitions = .error swapped.misaligned := by
  intro swapped
  have hr := accounted_of_healResult.2 oneRestored
  have hok : oneRestored.transitions = .ok [(⟨"a", "node1", .ok⟩, ⟨"a", "node1", .ok⟩),
      (⟨"b", "node2", .missing⟩, ⟨"b", "node2", .ok⟩)] := by decide
  have hsame := hr.isOk_iff.mp ⟨_, hok⟩
  have hbefore : Named oneRestored.before.drives := ⟨by decide, by decide⟩
  have hafter : Named oneRestored.after.drives := ⟨by decide, by decide⟩
  have hswapped := hr.reordered hsame hbefore hafter _
    (List.reverse_perm oneRestored.after.drives) (by decide)
  exact ⟨⟨_, hok, hr.ok _ hok⟩, by decide,
    ((accounted_of_healResult.2 swapped).misaligned hswapped).1⟩

end HealControl.Heal
