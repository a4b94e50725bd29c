import HealControl.Proofs.Settings.TextRoundTrip
import HealControl.Settings.Config

/-!
# What a text is parsed as

A text is cut at the first place of every key that starts a field in it, and what stands between one
equals sign and the next place, stripped, is the value. No key starts a field inside another one,
although it may be the end of it. A text that is parsed for the known settings has no others, so
only its values can keep it from being a configuration.
-/
namespace HealControl.Settings

open HealControl.Text

/-! ## Stripped texts -/

/-- The text `stripped` is what is left of `cs` without the characters of a class around it. -/
def StripsTo (p : Char → Bool) (cs stripped : List Char) : Prop :=
  (∃ before after, cs = before ++ stripped ++ after ∧ (∀ c ∈ before, p c = true) ∧
    ∀ c ∈ after, p c = true) ∧
  (∀ c ∈ stripped.head?, p c = false) ∧ ∀ c ∈ stripped.getLast?, p c = false

theorem stripsTo_trimWhile (p : Char → Bool) (cs : List Char) : StripsTo p cs (trimWhile p cs) := by
  have hsplit : cs = cs.takeWhile p ++ trimWhile p cs ++ (cs.dropWhile p).rtakeWhile p := by
    rw [trimWhile, dropEndWhile_eq_rdropWhile, List.append_assoc, List.rdropWhile_append_rtakeWhile,
      List.takeWhile_append_dropWhile]
  refine ⟨⟨_, _, hsplit, fun c hc => List.mem_takeWhile_imp hc,
    fun c hc => List.mem_rtakeWhile_imp hc⟩, ?_, ?_⟩
  · intro c hc
    have hprefix : trimWhile p cs <+: cs.dropWhile p := List.rdropWhile_prefix p _
    have hhead : (cs.dropWhile p).head? = some c := by
      obtain ⟨rest, hrest⟩ := hprefix
      rw [← hrest, List.head?_append, hc]
      rfl
    have := List.head?_dropWhile_not p cs
    rw [hhead] at this
    simpa using this
  · intro c hc
    have hne : (cs.dropWhile p).rdropWhile p ≠ [] := by
      intro hnil
      rw [trimWhile, dropEndWhile_eq_rdropWhile, hnil] at hc
      contradiction
    have hlast := List.rdropWhile_last_not p _ hne
    have hc' : ((cs.dropWhile p).rdropWhile p).getLast? = some c := hc
    rw [List.getLast?_eq_some_getLast hne, Option.some.injEq] at hc'
    rw [hc'] at hlast
    simpa using hlast

/-! ## Fields -/

def FieldText (cs : List Char) (i : Nat) (key : String) (stop : Nat) (piece : List Char) : Prop :=
  ∃ before rest, cs = before ++ (key.toList ++ '=' :: (piece ++ rest)) ∧ before.length = i ∧
    i + key.toList.length + 1 + piece.length = stop

/-- Parameters that give, for the fields at the given places, what stands up to the next place,
without the blanks and then without the quotation marks around it. -/
inductive CutInto (cs : List Char) : List (Nat × String) → Params → Prop
  | nil : CutInto cs [] []
  | cons {i : Nat} {key : String} {later : List (Nat × String)} {ps : Params}
      {piece text : List Char} {value : String} (hpiece : FieldText cs i key (fieldEnd cs later) piece)
      (htext : StripsTo isBlank piece text) (hvalue : StripsTo isQuote text value.toList)
      (hrest : CutInto cs later ps) : CutInto cs ((i, key) :: later) (⟨key, value⟩ :: ps)

/-- In order, the first places of those keys that start a field. -/
structure FirstPlaces (cs : List Char) (keys : List String) (places : List (Nat × String)) : Prop
    where
  ascending : places.Pairwise fun a b => a.1 < b.1
  mem_iff : ∀ i key, (i, key) ∈ places ↔ key ∈ keys ∧ FirstPlace (StartsAt key cs) (some i)

variable {cs : List Char} {keys : List String} {key : String} {i : Nat}

theorem fieldStart?_eq_some_iff (hkey : PlainKey key) :
    fieldStart? cs key = some i ↔ FirstPlace (StartsAt key cs) (some i) := by
  have hfirst := fieldStart?_first hkey cs
  constructor
  · intro h
    rwa [h] at hfirst
  · exact hfirst.unique

theorem firstPlaces_fieldPlaces (hkeys : PlainKeys keys) (cs : List Char) :
    FirstPlaces cs keys (fieldPlaces cs keys) where
  ascending := pairwise_lt_fieldPlaces hkeys cs
  mem_iff _ key := mem_fieldPlaces_iff.trans
    (and_congr_right fun hkey => fieldStart?_eq_some_iff (hkeys.plain key hkey))

theorem StartsAt.fieldText (h : StartsAt key cs i) {stop : Nat}
    (hroom : i + key.toList.length + 1 ≤ stop) (hstop : stop ≤ cs.length) :
    FieldText cs i key stop ((cs.take stop).drop (i + key.toList.length + 1)) := by
  obtain ⟨before, value, rfl, rfl, -⟩ := h
  have hvalue : (before ++ (key.toList ++ '=' :: value)).drop
      (before.length + key.toList.length + 1) = value := by
    rw [Nat.add_assoc, List.drop_length_add_append, List.drop_length_add_append]
    rfl
  refine ⟨before, value.drop (stop - (before.length + key.toList.length + 1)), ?_, rfl, ?_⟩
  · rw [List.drop_take, hvalue, List.take_append_drop]
  · rw [List.length_drop, List.length_take]
    omega

theorem fieldEnd_le {later : List (Nat × String)} (h : ∀ place ∈ later, FieldAt cs place) :
    fieldEnd cs later ≤ cs.length := by
  cases later with
  | nil => exact Nat.le_refl _
  | cons next rest =>
    have hlt := (h next List.mem_cons_self).starts.lt_length
    change next.1 ≤ cs.length
    omega

theorem cutInto_paramsAt (places : List (Nat × String))
    (hfields : ∀ place ∈ places, FieldAt cs place)
    (hroom : places.Pairwise fun a b => a.1 + a.2.toList.length + 1 ≤ b.1) :
    CutInto cs places (paramsAt cs places) := by
  induction places with
  | nil => exact .nil
  | cons place later ih =>
    obtain ⟨i, key⟩ := place
    obtain ⟨⟨hplain, hstart⟩, hfields⟩ := List.forall_mem_cons.mp hfields
    obtain ⟨hnext, hroom⟩ := List.pairwise_cons.mp hroom
    have hpiece := hstart.fieldText (hstart.add_le_fieldEnd hnext) (fieldEnd_le hfields)
    refine .cons hpiece (stripsTo_trimWhile isBlank _) ?_ (ih hfields hroom)
    rw [String.toList_ofList]
    exact stripsTo_trimWhile isQuote _

/-! ## Known settings -/

theorem key_mem_of_mem_fieldParams {p : Param} (hp : p ∈ fieldParams cs keys) : p.key ∈ keys := by
  have hkey : p.key ∈ (fieldPlaces cs keys).map Prod.snd := by
    rw [← map_key_paramsAt cs]
    exact List.mem_map_of_mem hp
  obtain ⟨⟨i, key⟩, hplace, hkey⟩ := List.mem_map.mp hkey
  exact hkey ▸ (mem_fieldPlaces_iff.mp hplace).1

theorem isSome_lookup? {ps : Params} (h : key ∈ ps.map Param.key) :
    (ps.lookup? key).isSome = true := by
  obtain ⟨p, hp, rfl⟩ := List.mem_map.mp h
  rw [Params.lookup?, Option.isSome_map, List.find?_isSome]
  exact ⟨p, hp, by simp⟩

theorem check_of_forall_mem {ps : Params} (sys : String) (valid : Params)
    (h : ∀ p ∈ ps, p.key ∈ valid.keys) : ps.check sys valid = .ok () := by
  have hknown : ps.unknownKeys valid = [] := by
    rw [Params.unknownKeys, List.filter_eq_nil_iff]
    intro key hkey
    obtain ⟨p, hp, rfl⟩ := List.mem_map.mp hkey
    -- The comment is a key of every subsystem, whether its defaults have it or not.
    have hvalid : p.key ∈ valid.map Param.key ∨ p.key = commentKey := by
      have hmem := h p hp
      rw [Params.keys] at hmem
      split at hmem
      · exact .inl hmem
      · simpa using hmem
    obtain hvalid | hcomment := hvalid
    · simp [Option.isNone_eq_false_iff.mpr (isSome_lookup? hvalid)]
    · simp [hcomment]
  rw [Params.check, hknown]
  rfl

inductive ValueFault : SettingsFault → Prop
  | endpoint (fault : Url.UrlFault) : ValueFault (.invalidEndpoint fault)
  | span {s : Setting} (hs : s.kind = "duration") (fault : Time.SpanFault) :
      ValueFault (.invalidSpan s.key fault)

theorem valueFault_of_lookupSpan {ps : Params} {env : Environment} {s : Setting}
    (hs : s.kind = "duration") {fault : SettingsFault} (h : lookupSpan ps env s = .error fault) :
    ValueFault fault := by
  rw [lookupSpan] at h
  cases hspan : Time.Span.ofText (effective ps env s) with
  | ok span => simp [hspan, Except.mapError] at h
  | error cause =>
    rw [hspan] at h
    obtain rfl : .invalidSpan s.key cause = fault := Except.error.inj h
    exact .span hs cause

/-- Known parameters fail to be a configuration only by their values. -/
theorem valueFault_of_lookup {ps : Params} (hcheck : ps.check subsystem defaults = .ok ())
    {env : Environment} {fault : SettingsFault} (h : Config.lookup ps env = .error fault) :
    ValueFault fault := by
  rw [Config.lookup, hcheck] at h
  simp only [bind, Except.bind] at h
  -- The check passes, so what fails is the URL or one of the three durations, in this order.
  cases hurl : Url.parse (effective ps env .endpoint) with
  | error cause =>
    rw [hurl] at h
    obtain rfl : .invalidEndpoint cause = fault := Except.error.inj h
    exact .endpoint cause
  | ok endpoint =>
    simp only [hurl, Except.mapError] at h
    cases htimeout : lookupSpan ps env .timeout with
    | error cause =>
      simp only [htimeout, Except.error.injEq] at h
      exact h ▸ valueFault_of_lookupSpan rfl htimeout
    | ok timeout =>
      cases hstatus : lookupSpan ps env .statusTimeout with
      | error cause =>
        simp only [htimeout, hstatus, Except.error.injEq] at h
        exact h ▸ valueFault_of_lookupSpan rfl hstatus
      | ok statusTimeout =>
        cases hpoll : lookupSpan ps env .pollInterval with
        | error cause =>
          simp only [htimeout, hstatus, hpoll, Except.error.injEq] at h
          exact h ▸ valueFault_of_lookupSpan rfl hpoll
        | ok pollInterval => simp [htimeout, hstatus, hpoll, pure, Except.pure] at h

theorem plainKeys_defaults : PlainKeys defaults.keys :=
  ⟨by decide, by decide⟩

/-! ## Parsing -/

/-- Every text can be parsed. The parameters are those of the keys that start a field, in the order of
their first places, and nothing starts inside a key. If the keys are those of the settings, no key
is unknown, so only a value can be wrong. -/
theorem parse_cutInto (input : String) :
    (∀ keys, PlainKeys keys → ∃ places ps, Params.parse input keys = .ok ps ∧
      FirstPlaces input.toList keys places ∧ CutInto input.toList places ps) ∧
    (∀ (key outer : String) (before after : List Char) (i : Nat), PlainKey outer →
      input.toList = before ++ (outer.toList ++ '=' :: after) →
        before.length < i → i ≤ before.length + outer.toList.length →
          ¬ StartsAt key input.toList i) ∧
    ∃ ps, Params.parse input defaults.keys = .ok ps ∧ ps.check subsystem defaults = .ok () ∧
      ∀ env fault, Config.lookup ps env = .error fault → ValueFault fault := by
  refine ⟨fun keys hkeys => ?_, fun key outer before after i houter hinput hbefore hnear => ?_, ?_⟩
  · exact ⟨fieldPlaces input.toList keys, _, parse_eq_fieldParams hkeys input,
      firstPlaces_fieldPlaces hkeys input.toList,
      cutInto_paramsAt _ (fieldAt_of_mem hkeys) (pairwise_room_fieldPlaces hkeys _)⟩
  · exact not_startsAt_inside houter hinput hbefore (by omega)
  · have hcheck := check_of_forall_mem subsystem defaults
      fun p (hp : p ∈ fieldParams input.toList defaults.keys) => key_mem_of_mem_fieldParams hp
    exact ⟨_, parse_eq_fieldParams plainKeys_defaults input, hcheck,
      fun env fault => valueFault_of_lookup hcheck⟩

def timeoutText : String :=
  "status_timeout=10s timeout='30s'"

theorem plainKeys_timeout : PlainKeys ["timeout", "status_timeout"] :=
  ⟨by decide, by decide⟩

theorem fieldPlaces_timeoutText : fieldPlaces timeoutText.toList ["timeout", "status_timeout"] =
    [(0, "status_timeout"), (19, "timeout")] := by
  have htimeout : fieldStart? timeoutText.toList "timeout" = some 19 := by decide +kernel
  have hstatus : fieldStart? timeoutText.toList "status_timeout" = some 0 := by decide +kernel
  refine fieldPlaces_unique plainKeys_timeout (by simp) fun i key => ?_
  constructor
  · intro hplace
    simp only [List.mem_cons, Prod.mk.injEq, List.not_mem_nil, or_false] at hplace
    rcases hplace with ⟨rfl, rfl⟩ | ⟨rfl, rfl⟩
    · exact ⟨by decide, hstatus⟩
    · exact ⟨by decide, htimeout⟩
  · rintro ⟨hkey, hstart⟩
    simp only [List.mem_cons, List.not_mem_nil, or_false] at hkey
    rcases hkey with rfl | rfl
    · simp [Option.some.inj (htimeout.symm.trans hstart)]
    · simp [Option.some.inj (hstatus.symm.trans hstart)]

theorem parse_timeoutText : Params.parse timeoutText ["timeout", "status_timeout"] =
    .ok [⟨"status_timeout", "10s"⟩, ⟨"timeout", "30s"⟩] := by
  rw [parse_eq_fieldParams plainKeys_timeout, fieldParams, fieldPlaces_timeoutText]
  decide +kernel

theorem parse_cutInto_timeout :
    (∃ places, FirstPlaces timeoutText.toList ["timeout", "status_timeout"] places ∧
      CutInto timeoutText.toList places [⟨"status_timeout", "10s"⟩, ⟨"timeout", "30s"⟩]) ∧
    ¬ StartsAt "timeout" timeoutText.toList 7 := by
  obtain ⟨hparse, hinside, -⟩ := parse_cutInto timeoutText
  obtain ⟨places, ps, hps, hplaces, hcut⟩ := hparse _ plainKeys_timeout
  obtain rfl := Except.ok.inj (parse_timeoutText.symm.trans hps)
  have houter : timeoutText.toList =
      [] ++ ("status_timeout".toList ++ '=' :: "10s timeout='30s'".toList) := by
    decide
  exact ⟨⟨places, hplaces, hcut⟩,
    hinside _ _ _ _ 7 (by decide) houter (by decide) (by decide)⟩

end HealControl.Settings
