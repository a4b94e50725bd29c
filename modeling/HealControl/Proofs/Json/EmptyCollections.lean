import HealControl.Proofs.Json.Members
import HealControl.Proofs.Json.WireTypes

/-!
# Empty collections

Some servers leave out a list that has no items, others write it as `null`. For each of the lists and
dictionaries of the records that go over the wire this is the same as to write it out, in whatever
part of a document the record stands.
-/
namespace HealControl.Json

open HealControl.Cluster
open HealControl.Heal

inductive Collection : {ρ : Type} → Schema ρ → String → Doc → Prop
  | items : Collection TaskStatus.schema "items" (.list [] .closed)
  | drives : Collection DriveList.schema "drives" (.list [] .closed)
  | queuedBuckets : Collection DiskProgress.schema "queued_buckets" (.list [] .closed)
  | healedBuckets : Collection DiskProgress.schema "healed_buckets" (.list [] .closed)
  | disks : Collection SetStatus.schema "disks" (.list [] .closed)
  | offlineNodes : Collection ClusterStatus.schema "offline_nodes" (.list [] .closed)
  | healDisks : Collection ClusterStatus.schema "HealDisks" (.list [] .closed)
  | sets : Collection ClusterStatus.schema "sets" (.list [] .closed)
  | recentFailures : Collection ClusterStatus.schema "mrf" (.object [] .closed)
  | parity : Collection ClusterStatus.schema "sc_parity" (.object [] .closed)

/-- What may stand for a collection that is written as `empty`: nothing, `null` or that. -/
inductive StandsForEmpty (empty : Doc) : Option Doc → Prop
  | absent : StandsForEmpty empty none
  | null : StandsForEmpty empty (some .null)
  | written : StandsForEmpty empty (some empty)

/-- The field is read as the same value from whatever stands for its empty value. -/
def Field.ReadsEmpty (f : Field) (empty : Doc) : Prop :=
  ∃ a, ∀ x, StandsForEmpty empty x → f.given x = .ok a

variable {α ρ : Type} {s : Schema ρ} {name : String} {empty : Doc}

theorem readsEmpty_list {c : Codec α} {omitted : List α → Bool} :
    Field.ReadsEmpty ⟨List α, name, .nullAs [] c.list, some [], omitted⟩ (.list [] .closed) := by
  refine ⟨[], fun x hx => ?_⟩
  cases hx <;> rfl

theorem readsEmpty_dict {c : Codec α} {omitted : Dict α → Bool} :
    Field.ReadsEmpty ⟨Dict α, name, .nullAs .empty c.dict, some .empty, omitted⟩
      (.object [] .closed) := by
  refine ⟨.empty, fun x hx => ?_⟩
  cases hx <;> rfl

theorem Collection.exists_mem (h : Collection s name empty) :
    ∃ f ∈ s.fields, f.name = name ∧ f.ReadsEmpty empty := by
  cases h with
  | items => exact ⟨_, List.mem_of_getElem? (i := 4) rfl, rfl, readsEmpty_list⟩
  | drives => exact ⟨_, List.mem_of_getElem? (i := 0) rfl, rfl, readsEmpty_list⟩
  | queuedBuckets => exact ⟨_, List.mem_of_getElem? (i := 18) rfl, rfl, readsEmpty_list⟩
  | healedBuckets => exact ⟨_, List.mem_of_getElem? (i := 19) rfl, rfl, readsEmpty_list⟩
  | disks => exact ⟨_, List.mem_of_getElem? (i := 6) rfl, rfl, readsEmpty_list⟩
  | offlineNodes => exact ⟨_, List.mem_of_getElem? (i := 0) rfl, rfl, readsEmpty_list⟩
  | healDisks => exact ⟨_, List.mem_of_getElem? (i := 2) rfl, rfl, readsEmpty_list⟩
  | sets => exact ⟨_, List.mem_of_getElem? (i := 3) rfl, rfl, readsEmpty_list⟩
  | recentFailures => exact ⟨_, List.mem_of_getElem? (i := 4) rfl, rfl, readsEmpty_dict⟩
  | parity => exact ⟨_, List.mem_of_getElem? (i := 5) rfl, rfl, readsEmpty_dict⟩

theorem Collection.nodup (h : Collection s name empty) : (s.fields.map Field.name).Nodup := by
  cases h <;> decide

/-- Among fields of different names each one is the first of its name. -/
theorem exists_first {fs : List Field} (hnames : (fs.map Field.name).Nodup) {f : Field}
    (hf : f ∈ fs) : ∃ p : f.In fs, p.First := by
  induction hf with
  | head => exact ⟨.here, trivial⟩
  | tail g hf ih =>
    rw [List.map_cons, List.nodup_cons] at hnames
    obtain ⟨p, hp⟩ := ih hnames.2
    refine ⟨.there p, ?_, hp⟩
    intro hname
    exact hnames.1 (hname ▸ List.mem_map_of_mem hf)

/-- A collection of a record, given as one thing that stands for it being empty, is given as another
one. -/
inductive EmptyRespelled : FieldsChange
  | intro {ρ : Type} {s : Schema ρ} {name : String} {empty key : Doc} {x x' : Option Doc}
      {before after : List (Doc × Doc)} (h : Collection s name empty) (hkey : key.key = .ok name)
      (hlacks : x = none → Lacks (before ++ after) name) (hx : StandsForEmpty empty x)
      (hx' : StandsForEmpty empty x') :
      EmptyRespelled s (before ++ entry key x ++ after) (before ++ entry key x' ++ after)

theorem keeps_emptyRespelled : FieldsChange.Keeps EmptyRespelled := by
  intro ρ s fields fields' h ending row hrow
  obtain ⟨hcollection, hkey, hlacks, hx, hx'⟩ := h
  obtain ⟨f, hf, rfl, a, hempty⟩ := hcollection.exists_mem
  obtain ⟨p, hp⟩ := exists_first hcollection.nodup hf
  obtain ⟨hgiven, hothers⟩ := row_of_differAt hp (.member hkey hlacks) hrow
  obtain rfl : a = p.get row := Except.ok.inj ((hempty _ hx).symm.trans hgiven)
  -- What stands for the collection now gives the value that the row has already.
  exact (hothers row).mpr ⟨p.get row, hempty _ hx', (p.set_get row).symm⟩

/-- Whatever stands for an empty list or dictionary, in whatever record and at whatever depth, the
document is read as the same value. -/
theorem ofBytes_of_emptyRespelled (t : WireType) (v : t.Values) (bytes bytes' : List UInt8)
    (h : t.codec.ofBytes bytes = .ok v)
    (hrespelled : Rewritten (Changed EmptyRespelled t.codec) bytes bytes') :
    t.codec.ofBytes bytes' = .ok v :=
  (tracks_changed keeps_emptyRespelled).ofBytes hrespelled h

def oneSetValue (disks : List (String × Value)) : Value :=
  .object [("sets", .list [.object (("id", .text "s1") :: disks)])]

def oneSet : ClusterStatus :=
  { (default : ClusterStatus) with sets := [{ (default : SetStatus) with id := "s1" }] }

theorem changed_oneSetValue {disks disks' : List (String × Value)}
    (h : EmptyRespelled SetStatus.schema (fieldDocs (("id", .text "s1") :: disks))
      (fieldDocs (("id", .text "s1") :: disks'))) :
    Changed EmptyRespelled ClusterStatus.schema.codec (oneSetValue disks).doc
      (oneSetValue disks').doc := by
  obtain ⟨p, hp⟩ := exists_first Collection.sets.nodup (List.mem_of_getElem? (i := 3) rfl)
  have hset : Changed EmptyRespelled SetStatus.schema.codec
      (Value.object (("id", .text "s1") :: disks)).doc
      (Value.object (("id", .text "s1") :: disks')).doc := .here h
  exact .field hp (.nullAs (.item hset (differAtItem_list [] [] _ _))) (differAt_object [] [] _ _)

theorem ofBytes_of_emptyRespelled_disks :
    ClusterStatus.schema.codec.ofBytes (oneSetValue [("disks", .null)]).bytes = .ok oneSet ∧
      ClusterStatus.schema.codec.ofBytes (oneSetValue []).bytes = .ok oneSet := by
  have hwritten : ClusterStatus.schema.codec.ofBytes (oneSetValue [("disks", .list [])]).bytes =
      .ok oneSet := by
    decide +kernel
  have hrespelled : ∀ x', StandsForEmpty (.list [] .closed) x' → EmptyRespelled SetStatus.schema
      (fieldDocs [("id", .text "s1")] ++ entry _ (some (Value.list []).doc) ++ [])
      (fieldDocs [("id", .text "s1")] ++ entry _ x' ++ []) := fun x' hx' =>
    .intro .disks (key_ofText "disks") nofun .written hx'
  exact ⟨ofBytes_of_emptyRespelled .clusterStatus _ _ _ hwritten
      (rewritten_bytes (changed_oneSetValue (hrespelled _ .null))),
    ofBytes_of_emptyRespelled .clusterStatus _ _ _ hwritten
      (rewritten_bytes (changed_oneSetValue (hrespelled _ .absent)))⟩

end HealControl.Json
