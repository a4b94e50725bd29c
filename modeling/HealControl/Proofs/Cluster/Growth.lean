import HealControl.Proofs.Cluster.Reordering

/-!
# What is known stays known

However many merges follow, a set that is known stays known under its id and at its place, with no
fewer disks than before; and as long as it has no more of them, they are the same disks with
progress wherever they had it. `growsTo_merge` proves this of one merge from its contributors, one
report at a time, and `growsTo_foldl_merge` of every run, between any two of its states.
-/
namespace HealControl.Cluster

/-- The same disk but for its progress, which it has if it had it before. -/
structure Disk.KeptAs (old new : Disk) : Prop where
  same : { new with progress := old.progress } = old
  progress : old.progress.isSome → new.progress.isSome

structure SetStatus.GrowsTo (old new : SetStatus) : Prop where
  same : { new with disks := old.disks } = old
  length_disks_le : old.disks.length ≤ new.disks.length
  disks : new.disks.length = old.disks.length → ∀ (i : Nat) (d : Disk), old.disks[i]? = some d →
    ∃ e, new.disks[i]? = some e ∧ d.KeptAs e

def SetsGrow (sets sets' : List SetStatus) : Prop :=
  ∀ old ∈ sets, ∃ new ∈ sets', old.GrowsTo new

/-- A later status that has lost nothing of an earlier one. -/
structure ClusterStatus.GrowsTo (s t : ClusterStatus) : Prop where
  sets : SetsGrow s.sets t.sets
  parity : ¬ s.parity.isEmpty → t.parity = s.parity
  endpoints : ∀ endpoint ∈ s.recentFailures.keys, endpoint ∈ t.recentFailures.keys
  offlineNodes : s.offlineNodes <+: t.offlineNodes
  healDisks : s.healDisks <+: t.healDisks

namespace Disk.KeptAs

theorem refl (d : Disk) : d.KeptAs d := ⟨rfl, id⟩

theorem trans {d e f : Disk} (h : d.KeptAs e) (h' : e.KeptAs f) : d.KeptAs f where
  same := by
    rw [← h.same, ← h'.same]
  progress hd := h'.progress (h.progress hd)

theorem updated (d : Disk) (brought : Option DiskProgress) : d.KeptAs (d.updated brought) where
  same := rfl
  progress hd := by
    cases brought with
    | none => exact hd
    | some p => rfl

end Disk.KeptAs

namespace SetStatus.GrowsTo

theorem refl (s : SetStatus) : s.GrowsTo s where
  same := rfl
  length_disks_le := Nat.le_refl _
  disks _ _ d hd := ⟨d, hd, .refl d⟩

theorem trans {s t u : SetStatus} (h : s.GrowsTo t) (h' : t.GrowsTo u) : s.GrowsTo u where
  same := by
    rw [← h.same, ← h'.same]
  length_disks_le := Nat.le_trans h.length_disks_le h'.length_disks_le
  disks hlength i d hd := by
    -- the number of disks in between is squeezed
    have hst := h.length_disks_le
    have htu := h'.length_disks_le
    obtain ⟨e, he, hde⟩ := h.disks (by omega) i d hd
    obtain ⟨f, hf, hef⟩ := h'.disks (by omega) i e he
    exact ⟨f, hf, hde.trans hef⟩

theorem absorb (known report : SetStatus) : known.GrowsTo (known.absorb report) := by
  rw [SetStatus.absorb]
  split
  · rename_i hmore
    refine ⟨rfl, Nat.le_of_lt hmore, ?_⟩
    intro hlength
    exact absurd hlength (Nat.ne_of_gt hmore)
  · split
    · exact .refl known
    · refine ⟨rfl, Nat.le_of_eq (length_overlay _ _).symm, ?_⟩
      intro _ i d hd
      refine ⟨d.updated (report.disks[i]?.bind Disk.progress), ?_, .updated d _⟩
      rw [overlay_eq_mapIdx, List.getElem?_mapIdx, hd, Option.map_some]

end SetStatus.GrowsTo

namespace SetsGrow

theorem refl (sets : List SetStatus) : SetsGrow sets sets :=
  fun s hs => ⟨s, hs, .refl s⟩

theorem trans {sets sets' sets'' : List SetStatus} (h : SetsGrow sets sets')
    (h' : SetsGrow sets' sets'') : SetsGrow sets sets'' := by
  intro s hs
  obtain ⟨t, ht, hst⟩ := h s hs
  obtain ⟨u, hu, htu⟩ := h' t ht
  exact ⟨u, hu, hst.trans htu⟩

theorem addSet (sets : List SetStatus) (report : SetStatus) :
    SetsGrow sets (addSet sets report) := by
  induction sets with
  | nil => exact fun _ hs => absurd hs List.not_mem_nil
  | cons s rest ih =>
    rw [Cluster.addSet]
    intro old hold
    split
    · rcases List.mem_cons.mp hold with rfl | hrest
      · exact ⟨_, List.mem_cons_self, .absorb old report⟩
      · exact ⟨old, List.mem_cons_of_mem _ hrest, .refl old⟩
    · rcases List.mem_cons.mp hold with rfl | hrest
      · exact ⟨old, List.mem_cons_self, .refl old⟩
      · obtain ⟨new, hnew, hgrows⟩ := ih old hrest
        exact ⟨new, List.mem_cons_of_mem _ hnew, hgrows⟩

theorem addSets (sets reported : List SetStatus) : SetsGrow sets (addSets sets reported) := by
  rw [Cluster.addSets]
  split
  · rename_i hempty
    rw [List.isEmpty_iff.mp hempty]
    exact fun _ hs => absurd hs List.not_mem_nil
  · exact List.foldlRecOn (motive := SetsGrow sets) reported Cluster.addSet (.refl sets)
      fun _ h report _ => h.trans (.addSet _ report)

end SetsGrow

namespace ClusterStatus

namespace GrowsTo

theorem refl (s : ClusterStatus) : s.GrowsTo s where
  sets := .refl s.sets
  parity _ := rfl
  endpoints _ h := h
  offlineNodes := List.prefix_rfl
  healDisks := List.prefix_rfl

theorem trans {s t u : ClusterStatus} (h : s.GrowsTo t) (h' : t.GrowsTo u) : s.GrowsTo u where
  sets := h.sets.trans h'.sets
  parity hs := by
    have hparity := h.parity hs
    rw [h'.parity (hparity ▸ hs), hparity]
  endpoints endpoint hs := h'.endpoints endpoint (h.endpoints endpoint hs)
  offlineNodes := h.offlineNodes.trans h'.offlineNodes
  healDisks := h.healDisks.trans h'.healDisks

theorem withParity (s : ClusterStatus) (others : List ClusterStatus) :
    s.GrowsTo (s.withParity others) := by
  cases others with
  | nil => exact .refl s
  | cons first rest =>
    rw [ClusterStatus.withParity]
    split
    · rename_i hempty
      exact { GrowsTo.refl s with parity := fun hs => absurd hempty hs }
    · exact .refl s

theorem contribute (s other : ClusterStatus) : s.GrowsTo (s.contribute other) where
  sets := .addSets s.sets other.sets
  parity _ := rfl
  endpoints endpoint h := by
    obtain ⟨failures, hknown⟩ := (Dict.mem_keys_iff _ endpoint).mp h
    have hlater : ((s.contribute other).recentFailures.get? endpoint).isSome := by
      rw [ClusterStatus.contribute, get?_addRecentFailures, hknown, Option.isSome_or]
      exact Bool.or_true _
    exact (Dict.mem_keys_iff _ endpoint).mpr (Option.isSome_iff_exists.mp hlater)
  offlineNodes := List.prefix_append _ _
  healDisks := List.prefix_append _ _

theorem sorted (s : ClusterStatus) : s.GrowsTo s.sorted :=
  { GrowsTo.refl s with
    sets := fun set hset => ⟨set, List.mem_mergeSort.mpr hset, .refl set⟩ }

end GrowsTo

/-- One merge loses nothing, whoever contributes. -/
theorem growsTo_merge (s : ClusterStatus) (others : List ClusterStatus) :
    s.GrowsTo (s.merge others) := by
  have hfold : s.GrowsTo (others.foldl contribute (s.withParity others)) :=
    List.foldlRecOn (motive := s.GrowsTo) others contribute (.withParity s others)
      fun _ h other _ => h.trans (.contribute _ other)
  exact hfold.trans (.sorted _)

theorem nodup_ids_foldl_merge {s : ClusterStatus} {batches : List (List ClusterStatus)}
    (hs : (s.sets.map SetStatus.id).Nodup)
    (h : ∀ others ∈ batches, ∀ o ∈ others, (o.sets.map SetStatus.id).Nodup) :
    ((batches.foldl merge s).sets.map SetStatus.id).Nodup :=
  List.foldlRecOn (motive := fun s : ClusterStatus => (s.sets.map SetStatus.id).Nodup) batches
    merge hs fun _ hs others hothers => nodup_ids_merge (nodup_ids_seed hs (h others hothers))

theorem ordered_sets_foldl_merge (s : ClusterStatus) {batches : List (List ClusterStatus)}
    (h : batches ≠ []) :
    (batches.foldl merge s).sets.Pairwise fun a b => a.placed b := by
  obtain ⟨earlier, last, rfl⟩ := (List.eq_nil_or_concat' batches).resolve_left h
  rw [List.foldl_append]
  exact ordered_sets_merge _ last

/-- At every moment of a run of merges the ids are distinct, and the sets are sorted from the first
merge on; whatever is merged later, nothing that is known then is lost. -/
theorem growsTo_foldl_merge (s : ClusterStatus) (earlier later : List (List ClusterStatus))
    (hs : (s.sets.map SetStatus.id).Nodup)
    (h : ∀ others ∈ earlier ++ later, ∀ o ∈ others, (o.sets.map SetStatus.id).Nodup) :
    let before := earlier.foldl merge s
    let after := later.foldl merge before
    (before.sets.map SetStatus.id).Nodup ∧ (after.sets.map SetStatus.id).Nodup ∧
    (earlier ≠ [] → before.sets.Pairwise fun a b => a.placed b) ∧ before.GrowsTo after := by
  intro before after
  have hbefore : (before.sets.map SetStatus.id).Nodup :=
    nodup_ids_foldl_merge hs fun others hothers => h others (List.mem_append_left later hothers)
  have hafter : (after.sets.map SetStatus.id).Nodup :=
    nodup_ids_foldl_merge hbefore fun others hothers =>
      h others (List.mem_append_right earlier hothers)
  have hgrows : before.GrowsTo after :=
    List.foldlRecOn (motive := before.GrowsTo) later merge (.refl before)
      fun _ h others _ => h.trans (growsTo_merge _ others)
  exact ⟨hbefore, hafter, ordered_sets_foldl_merge s, hgrows⟩

/-- The second node takes the disk for offline and knows nothing of its healing. -/
theorem growsTo_foldl_merge_offline :
    let healing : Disk := { (default : Disk) with progress := some default }
    let first := reporting [setReport "s1" 0 [healing]] .empty
    let second := reporting [setReport "s1" 0 [{ (default : Disk) with state := "offline" }]] .empty
    let earlier := [[first]]
    let later := [[second], [second, first]]
    let before := earlier.foldl merge (default : ClusterStatus)
    let after := later.foldl merge before
    ((default : ClusterStatus).sets.map SetStatus.id).Nodup ∧
    (∀ others ∈ earlier ++ later, ∀ o ∈ others, (o.sets.map SetStatus.id).Nodup) ∧
    before.sets = [setReport "s1" 0 [healing]] ∧ (after.sets.map SetStatus.id).Nodup ∧
    ∃ new ∈ after.sets, (setReport "s1" 0 [healing]).GrowsTo new := by
  intro healing first second earlier later before after
  have hs : ((default : ClusterStatus).sets.map SetStatus.id).Nodup := List.nodup_nil
  have h : ∀ others ∈ earlier ++ later, ∀ o ∈ others, (o.sets.map SetStatus.id).Nodup := by decide
  have hbefore : before.sets = [setReport "s1" 0 [healing]] :=
    (sets_merge default [first]).trans (List.mergeSort_singleton _)
  obtain ⟨-, hafter, -, hgrows⟩ := growsTo_foldl_merge default earlier later hs h
  have hset : setReport "s1" 0 [healing] ∈ before.sets := hbefore ▸ List.mem_cons_self
  exact ⟨hs, h, hbefore, hafter, hgrows.sets _ hset⟩

end ClusterStatus

end HealControl.Cluster
