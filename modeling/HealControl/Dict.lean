/-!
# Dictionaries

A dictionary keeps its entries in the order in which their keys were first given, each key once.
`insert` puts a new value in the place of an old one, `erase` leaves the order of the others as it
is. Its two views are `get?` and `keys`, and every operation is described through them.
-/
namespace HealControl

structure Dict (α : Type) where
  entries : List (String × α)
  nodup : (entries.map Prod.fst).Nodup

namespace Dict

variable {α : Type}

def empty : Dict α := ⟨[], List.nodup_nil⟩

instance : Inhabited (Dict α) := ⟨empty⟩

instance [DecidableEq α] : DecidableEq (Dict α) := fun d e =>
  if h : d.entries = e.entries then
    .isTrue (by cases d; cases e; cases h; rfl)
  else .isFalse (fun he => h (he ▸ rfl))

def keys (d : Dict α) : List String := d.entries.map Prod.fst

def size (d : Dict α) : Nat := d.entries.length

def isEmpty (d : Dict α) : Bool := d.entries.isEmpty

theorem isEmpty_iff (d : Dict α) : d.isEmpty ↔ d = empty := by
  constructor
  · intro h
    obtain ⟨entries, nodup⟩ := d
    obtain rfl : entries = [] := List.isEmpty_iff.mp h
    rfl
  · rintro rfl
    rfl

def lookup (k : String) : List (String × α) → Option α
  | [] => none
  | e :: rest => if e.1 = k then some e.2 else lookup k rest

def get? (d : Dict α) (k : String) : Option α := lookup k d.entries

theorem lookup_eq_none_iff (k : String) (es : List (String × α)) :
    lookup k es = none ↔ k ∉ es.map Prod.fst := by
  induction es with
  | nil => simp [lookup]
  | cons e rest ih => by_cases h : e.1 = k <;> simp_all [lookup, eq_comm]

theorem get?_eq_none_iff (d : Dict α) (k : String) : d.get? k = none ↔ k ∉ d.keys :=
  lookup_eq_none_iff k d.entries

theorem mem_keys_iff (d : Dict α) (k : String) : k ∈ d.keys ↔ ∃ v, d.get? k = some v := by
  rw [← Option.ne_none_iff_exists', ne_eq, get?_eq_none_iff, Decidable.not_not]

@[simp] theorem get?_empty (k : String) : (empty : Dict α).get? k = none := rfl

@[simp] theorem keys_empty : (empty : Dict α).keys = [] := rfl

/-- Gives the first entry of key `k` the value `v`, or adds an entry at the end. -/
def put (k : String) (v : α) : List (String × α) → List (String × α)
  | [] => [(k, v)]
  | e :: rest => if e.1 = k then (k, v) :: rest else e :: put k v rest

theorem lookup_put (k k' : String) (v : α) (es : List (String × α)) :
    lookup k (put k' v es) = if k' = k then some v else lookup k es := by
  induction es with
  | nil => simp [put, lookup]
  | cons e rest ih =>
    by_cases h : e.1 = k' <;> by_cases hk : k' = k <;> by_cases he : e.1 = k <;>
      simp_all [put, lookup]

theorem map_fst_put (k : String) (v : α) (es : List (String × α)) :
    (put k v es).map Prod.fst =
      if k ∈ es.map Prod.fst then es.map Prod.fst else es.map Prod.fst ++ [k] := by
  induction es with
  | nil => simp [put]
  | cons e rest ih =>
    by_cases h : e.1 = k
    · simp [put, h]
    · have h' : k ≠ e.1 := fun hk => h hk.symm
      by_cases hm : k ∈ rest.map Prod.fst <;> simp [put, h, h', ih] at hm ⊢ <;> simp [hm, h']

def insert (d : Dict α) (k : String) (v : α) : Dict α where
  entries := put k v d.entries
  nodup := by
    rw [map_fst_put]
    split
    · exact d.nodup
    · rename_i h
      rw [List.nodup_append]
      refine ⟨d.nodup, by simp, ?_⟩
      intro a ha b hb
      simp only [List.mem_singleton] at hb
      exact fun hab => h (hb ▸ hab ▸ ha)

theorem put_of_not_mem {k : String} {es : List (String × α)} (h : k ∉ es.map Prod.fst) (v : α) :
    put k v es = es ++ [(k, v)] := by
  induction es with
  | nil => rfl
  | cons e rest ih =>
    rw [List.map_cons, List.mem_cons, not_or] at h
    rw [put, if_neg (Ne.symm h.1), ih h.2, List.cons_append]

theorem entries_insert_of_not_mem {d : Dict α} {k : String} (h : k ∉ d.keys) (v : α) :
    (d.insert k v).entries = d.entries ++ [(k, v)] :=
  put_of_not_mem h v

@[simp] theorem get?_insert (d : Dict α) (k k' : String) (v : α) :
    (d.insert k' v).get? k = if k' = k then some v else d.get? k :=
  lookup_put k k' v d.entries

@[simp] theorem keys_insert (d : Dict α) (k : String) (v : α) :
    (d.insert k v).keys = if k ∈ d.keys then d.keys else d.keys ++ [k] :=
  map_fst_put k v d.entries

def filter (d : Dict α) (p : String → α → Bool) : Dict α where
  entries := d.entries.filter fun e => p e.1 e.2
  nodup := d.nodup.sublist (List.filter_sublist.map _)

theorem lookup_filter {es : List (String × α)} (hnd : (es.map Prod.fst).Nodup) (k : String)
    (p : String → α → Bool) :
    lookup k (es.filter fun e => p e.1 e.2) = (lookup k es).filter (p k) := by
  induction es with
  | nil => rfl
  | cons e rest ih =>
    simp only [List.map_cons, List.nodup_cons] at hnd
    have hr := ih hnd.2
    by_cases h : e.1 = k
    · subst h
      have hn : lookup e.1 rest = none := (lookup_eq_none_iff e.1 rest).2 hnd.1
      by_cases hp : p e.1 e.2 <;> simp [lookup, hp, hr, hn, Option.filter]
    · by_cases hp : p e.1 e.2 <;> simp [lookup, hp, hr, h]

@[simp] theorem get?_filter (d : Dict α) (p : String → α → Bool) (k : String) :
    (d.filter p).get? k = (d.get? k).filter (p k) :=
  lookup_filter d.nodup k p

theorem filter_key_of_nodup {es : List (String × α)} (hnd : (es.map Prod.fst).Nodup) (k : String) :
    es.filter (fun e => e.1 = k) = ((lookup k es).map fun v => (k, v)).toList := by
  induction es with
  | nil => rfl
  | cons e rest ih =>
    simp only [List.map_cons, List.nodup_cons] at hnd
    have hr := ih hnd.2
    by_cases h : e.1 = k
    · subst h
      have hn : lookup e.1 rest = none := (lookup_eq_none_iff e.1 rest).2 hnd.1
      simp [lookup, hr, hn]
    · simp [lookup, h, hr]

/-- A key has one entry at most. -/
theorem filter_key_entries (d : Dict α) (k : String) :
    d.entries.filter (fun e => e.1 = k) = ((d.get? k).map fun v => (k, v)).toList :=
  filter_key_of_nodup d.nodup k

def erase (d : Dict α) (k : String) : Dict α :=
  d.filter fun key _ => key ≠ k

@[simp] theorem get?_erase (d : Dict α) (k k' : String) :
    (d.erase k').get? k = if k' = k then none else d.get? k := by
  by_cases h : k' = k
  · cases hd : d.get? k <;> simp [erase, h, hd]
  · have h' : k ≠ k' := fun e => h e.symm
    cases hd : d.get? k <;> simp [erase, h, h', hd]

@[simp] theorem keys_erase (d : Dict α) (k : String) :
    (d.erase k).keys = d.keys.filter fun key => key ≠ k := by
  simp only [keys, erase, filter, List.filter_map]
  rfl

theorem eq_of_lookup {es es' : List (String × α)} (hnd : (es.map Prod.fst).Nodup)
    (hkeys : es.map Prod.fst = es'.map Prod.fst) (h : ∀ k, lookup k es = lookup k es') :
    es = es' := by
  induction es generalizing es' with
  | nil => exact (List.map_eq_nil_iff.mp hkeys.symm).symm
  | cons e rest ih =>
    cases es' with
    | nil => cases hkeys
    | cons e' rest' =>
      obtain ⟨hfirst, hrest⟩ := List.cons.inj hkeys
      rw [List.map_cons, List.nodup_cons] at hnd
      have hvalue := h e.1
      simp only [lookup, if_true, hfirst, Option.some.injEq] at hvalue
      have hlookup : ∀ k, lookup k rest = lookup k rest' := by
        intro k
        by_cases hk : e.1 = k
        · subst hk
          rw [(lookup_eq_none_iff e.1 rest).mpr hnd.1,
            (lookup_eq_none_iff e.1 rest').mpr (hrest ▸ hnd.1)]
        · have hk' : ¬ e'.1 = k := hfirst ▸ hk
          simpa [lookup, hk, hk'] using h k
      rw [Prod.ext hfirst hvalue, ih hnd.2 hrest hlookup]

theorem ext_entries {d e : Dict α} (h : d.entries = e.entries) : d = e := by
  cases d
  cases e
  cases h
  rfl

/-- A dictionary is no more than its two views. -/
theorem ext_get? {d e : Dict α} (hkeys : d.keys = e.keys) (h : ∀ k, d.get? k = e.get? k) :
    d = e := by
  exact ext_entries (eq_of_lookup d.nodup hkeys h)

theorem lookup_append (k : String) (es es' : List (String × α)) :
    lookup k (es ++ es') = (lookup k es).or (lookup k es') := by
  induction es with
  | nil => rfl
  | cons e es ih =>
    rw [List.cons_append, lookup, lookup]
    split
    · rfl
    · exact ih

theorem lookup_reverse_of_nodup {es : List (String × α)} (hnd : (es.map Prod.fst).Nodup)
    (k : String) : lookup k es.reverse = lookup k es := by
  induction es with
  | nil => rfl
  | cons e rest ih =>
    rw [List.map_cons, List.nodup_cons] at hnd
    rw [List.reverse_cons, lookup_append, ih hnd.2]
    by_cases h : e.1 = k
    · have hn : lookup k rest = none := (lookup_eq_none_iff k rest).mpr (h ▸ hnd.1)
      simp [lookup, h, hn]
    · simp [lookup, h]

/-- Of the values that a key is given one after the other it keeps the last. -/
theorem get?_foldl_insert (d : Dict α) (es : List (String × α)) (k : String) :
    (es.foldl (fun d e => d.insert e.1 e.2) d).get? k = (lookup k es.reverse).or (d.get? k) := by
  induction es generalizing d with
  | nil => rfl
  | cons e es ih =>
    rw [List.foldl_cons, ih, get?_insert, List.reverse_cons, lookup_append, Option.or_assoc]
    congr 1
    by_cases h : e.1 = k <;> simp [lookup, h]

theorem keys_foldl_insert {d : Dict α} {es : List (String × α)} (h : ∀ e ∈ es, e.1 ∈ d.keys) :
    (es.foldl (fun d e => d.insert e.1 e.2) d).keys = d.keys := by
  induction es generalizing d with
  | nil => rfl
  | cons e es ih =>
    have hkeys : (d.insert e.1 e.2).keys = d.keys := by
      rw [keys_insert, if_pos (h e List.mem_cons_self)]
    rw [List.foldl_cons, ih, hkeys]
    intro e' he'
    exact hkeys ▸ h e' (List.mem_cons_of_mem e he')

/-- Entries that are given a second time change nothing. -/
theorem foldl_insert_again (d : Dict α) (es : List (String × α)) :
    es.foldl (fun d e => d.insert e.1 e.2) (es.foldl (fun d e => d.insert e.1 e.2) d) =
      es.foldl (fun d e => d.insert e.1 e.2) d := by
  apply ext_get?
  · apply keys_foldl_insert
    intro e he
    have hlast : lookup e.1 es.reverse ≠ none := by
      rw [ne_eq, lookup_eq_none_iff, Decidable.not_not, List.map_reverse, List.mem_reverse]
      exact List.mem_map_of_mem he
    obtain ⟨v, hv⟩ := Option.ne_none_iff_exists'.mp hlast
    refine (mem_keys_iff _ e.1).mpr ⟨v, ?_⟩
    rw [get?_foldl_insert, hv, Option.some_or]
  · intro k
    rw [get?_foldl_insert, get?_foldl_insert, ← Option.or_assoc, Option.or_self]

/-- Whether both dictionaries have the same keys, with values that agree, in whatever order. -/
def agrees (same : α → α → Bool) (d e : Dict α) : Bool :=
  d.size == e.size && d.entries.all fun entry =>
    match e.get? entry.1 with
    | some value => same entry.2 value
    | none => false

end Dict

end HealControl
