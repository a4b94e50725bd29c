import HealControl.Proofs.Settings.ParsedTexts

/-!
# Configurations

Every setting has one text that counts: that of its environment variable, or else of the first
parameter of its key, or else its default. A configuration is what these five texts are read as. It
is refused for the first thing that is wrong: the keys that are not known, then the endpoint and the
durations in order. What the environment overrules is never looked at.
-/
namespace HealControl.Settings

open HealControl.Time (Span)

/-- The text of a setting that counts. A variable that is set counts even if its text is empty, and
only the first of several parameters of one key does. -/
inductive Counts (ps : Params) (env : Environment) (s : Setting) : String → Prop
  | variable {text : String} (hvariable : env s.variableName = some text) : Counts ps env s text
  | param {before after : Params} {p : Param} (hunset : env s.variableName = none)
      (hsplit : ps = before ++ p :: after) (hkey : p.key = s.key)
      (hfirst : ∀ q ∈ before, q.key ≠ s.key) : Counts ps env s p.value
  | default (hunset : env s.variableName = none) (habsent : ∀ p ∈ ps, p.key ≠ s.key) :
      Counts ps env s s.defaultValue

/-- The keys that are neither a setting's nor that of a comment, in order and as often as they are
given. -/
def strangers (ps : Params) : List String :=
  (ps.map Param.key).filter fun key => key ≠ commentKey ∧ key ∉ Setting.all.map Setting.key

structure Holds (text : Setting → String) (c : Config) : Prop where
  endpoint : Url.parse (text .endpoint) = .ok c.endpoint
  token : ∀ t, c.authToken = some t ↔ text .authToken = t ∧ t ≠ ""
  timeout : Span.ofText (text .timeout) = .ok c.timeout
  statusTimeout : Span.ofText (text .statusTimeout) = .ok c.statusTimeout
  pollInterval : Span.ofText (text .pollInterval) = .ok c.pollInterval

inductive FirstFault (ps : Params) (text : Setting → String) : SettingsFault → Prop
  | unknownKeys (hkeys : strangers ps ≠ []) :
      FirstFault ps text (.unknownKeys (strangers ps) "heal_admin")
  | endpoint (hkeys : strangers ps = []) {fault : Url.UrlFault}
      (hurl : Url.parse (text .endpoint) = .error fault) :
      FirstFault ps text (.invalidEndpoint fault)
  | timeout (hkeys : strangers ps = []) {endpoint : Url} {fault : Time.SpanFault}
      (hurl : Url.parse (text .endpoint) = .ok endpoint)
      (hspan : Span.ofText (text .timeout) = .error fault) :
      FirstFault ps text (.invalidSpan "timeout" fault)
  | statusTimeout (hkeys : strangers ps = []) {endpoint : Url} {timeout : Span}
      {fault : Time.SpanFault} (hurl : Url.parse (text .endpoint) = .ok endpoint)
      (htimeout : Span.ofText (text .timeout) = .ok timeout)
      (hspan : Span.ofText (text .statusTimeout) = .error fault) :
      FirstFault ps text (.invalidSpan "status_timeout" fault)
  | pollInterval (hkeys : strangers ps = []) {endpoint : Url} {timeout statusTimeout : Span}
      {fault : Time.SpanFault} (hurl : Url.parse (text .endpoint) = .ok endpoint)
      (htimeout : Span.ofText (text .timeout) = .ok timeout)
      (hstatus : Span.ofText (text .statusTimeout) = .ok statusTimeout)
      (hspan : Span.ofText (text .pollInterval) = .error fault) :
      FirstFault ps text (.invalidSpan "poll_interval" fault)

/-- Parameters with the same keys, and with the same values except where the environment has its
own. -/
def DifferWhereOverruled (env : Environment) : Params → Params → Prop :=
  List.Forall₂ fun p q => p.key = q.key ∧
    (p.value = q.value ∨ ∃ s : Setting, s.key = p.key ∧ env s.variableName ≠ none)

structure LooksUp (ps : Params) (env : Environment) (text : Setting → String) : Prop where
  isOk_iff : (∃ c, Config.lookup ps env = .ok c) ↔
    (∀ p ∈ ps, p.key ≠ "comment" → ∃ s : Setting, p.key = s.key) ∧
    (∃ u, Url.parse (text .endpoint) = .ok u) ∧
    ∀ s ∈ [Setting.timeout, .statusTimeout, .pollInterval], ∃ d, Span.ofText (text s) = .ok d
  ok : ∀ c, Config.lookup ps env = .ok c → Holds text c
  error_iff : ∀ fault, Config.lookup ps env = .error fault ↔ FirstFault ps text fault
  overruled : ∀ qs, DifferWhereOverruled env ps qs → Config.lookup qs env = Config.lookup ps env

namespace Setting

theorem key_injective {s t : Setting} (h : s.key = t.key) : s = t := by
  revert h
  cases s <;> cases t <;> decide

theorem mem_all (s : Setting) : s ∈ Setting.all := by
  cases s <;> decide

end Setting

section
variable {ps qs : Params} {env : Environment} {s : Setting} {text : String}

/-! ## The texts that count -/

theorem Params.lookup?_eq_some_iff {key value : String} : ps.lookup? key = some value ↔
    ∃ before p after, ps = before ++ p :: after ∧ p.key = key ∧ p.value = value ∧
      ∀ q ∈ before, q.key ≠ key := by
  rw [Params.lookup?, Option.map_eq_some_iff]
  constructor
  · rintro ⟨p, hp, rfl⟩
    obtain ⟨hkey, before, after, hsplit, hfirst⟩ := List.find?_eq_some_iff_append.mp hp
    exact ⟨before, p, after, hsplit, by simpa using hkey, rfl, by simpa using hfirst⟩
  · rintro ⟨before, p, after, hsplit, hkey, rfl, hfirst⟩
    exact ⟨p, List.find?_eq_some_iff_append.mpr
      ⟨by simpa using hkey, before, after, hsplit, by simpa using hfirst⟩, rfl⟩

theorem Params.lookup?_eq_none_iff {key : String} :
    ps.lookup? key = none ↔ ∀ p ∈ ps, p.key ≠ key := by
  simp [Params.lookup?]

theorem counts_iff : Counts ps env s text ↔ effective ps env s = text := by
  rw [effective]
  constructor
  · rintro (hvariable | ⟨hunset, hsplit, hkey, hfirst⟩ | ⟨hunset, habsent⟩)
    · rw [hvariable]
      rfl
    · rw [hunset, Params.lookup?_eq_some_iff.mpr ⟨_, _, _, hsplit, hkey, rfl, hfirst⟩]
      rfl
    · rw [hunset, Params.lookup?_eq_none_iff.mpr habsent]
      rfl
  · rintro rfl
    cases hvariable : env s.variableName with
    | some value => exact .variable hvariable
    | none =>
      cases hvalue : ps.lookup? s.key with
      | none => exact .default hvariable (Params.lookup?_eq_none_iff.mp hvalue)
      | some value =>
        obtain ⟨before, p, after, hsplit, hkey, rfl, hfirst⟩ :=
          Params.lookup?_eq_some_iff.mp hvalue
        exact .param hvariable hsplit hkey hfirst

/-! ## Known keys -/

theorem isNone_lookup?_defaults (key : String) :
    (defaults.lookup? key).isNone = decide (key ∉ Setting.all.map Setting.key) := by
  rw [Bool.eq_iff_iff, Option.isNone_iff_eq_none, Params.lookup?_eq_none_iff, decide_eq_true_iff,
    List.mem_map, defaults, List.forall_mem_map]
  constructor
  · rintro habsent ⟨s, hs, hkey⟩
    exact habsent s hs hkey
  · exact fun hkey s hs hsame => hkey ⟨s, hs, hsame⟩

theorem unknownKeys_defaults (ps : Params) : ps.unknownKeys defaults = strangers ps := by
  simp only [Params.unknownKeys, strangers, isNone_lookup?_defaults, Bool.decide_and]

theorem check_defaults (ps : Params) : ps.check subsystem defaults =
    if strangers ps = [] then .ok () else .error (.unknownKeys (strangers ps) "heal_admin") := by
  simp only [Params.check, unknownKeys_defaults, List.isEmpty_iff]
  rfl

theorem strangers_eq_nil_iff : strangers ps = [] ↔
    ∀ p ∈ ps, p.key ≠ "comment" → ∃ s : Setting, p.key = s.key := by
  rw [strangers, List.filter_eq_nil_iff, List.forall_mem_map]
  refine forall₂_congr fun p _ => ?_
  simp only [decide_eq_true_iff, not_and, not_not, List.mem_map]
  refine imp_congr_right fun _ => ⟨?_, ?_⟩
  · rintro ⟨s, -, hs⟩
    exact ⟨s, hs.symm⟩
  · rintro ⟨s, hs⟩
    exact ⟨s, s.mem_all, hs.symm⟩

/-! ## Looking up -/

theorem lookupSpan_of_ok {d : Span} (h : Span.ofText (effective ps env s) = .ok d) :
    lookupSpan ps env s = .ok d := by
  rw [lookupSpan, h]
  rfl

theorem lookupSpan_of_error {fault : Time.SpanFault}
    (h : Span.ofText (effective ps env s) = .error fault) :
    lookupSpan ps env s = .error (.invalidSpan s.key fault) := by
  rw [lookupSpan, h]
  rfl

theorem lookupToken_eq_some_iff {token : String} :
    lookupToken ps env = some token ↔ effective ps env .authToken = token ∧ token ≠ "" := by
  simp only [lookupToken]
  split
  · next hempty =>
    rw [String.isEmpty_iff] at hempty
    rw [hempty]
    simp [eq_comm]
  · next hne =>
    rw [String.isEmpty_iff] at hne
    rw [Option.some.injEq]
    exact ⟨fun h => ⟨h, h ▸ hne⟩, And.left⟩

end

section
variable (ps : Params) (env : Environment)

/-- Either there is a first thing that is wrong, or there is nothing and the texts hold a
configuration. -/
theorem lookup_cases :
    (∃ c, strangers ps = [] ∧ Holds (effective ps env) c ∧ Config.lookup ps env = .ok c) ∨
    ∃ fault, FirstFault ps (effective ps env) fault ∧ Config.lookup ps env = .error fault := by
  by_cases hkeys : strangers ps = []
  case neg =>
    refine .inr ⟨_, .unknownKeys hkeys, ?_⟩
    rw [Config.lookup, check_defaults, if_neg hkeys]
    rfl
  rw [Config.lookup, check_defaults, if_pos hkeys]
  -- The steps after the check, in their order. The first one that fails settles the lookup.
  cases hurl : Url.parse (effective ps env .endpoint) with
  | error cause => exact .inr ⟨_, .endpoint hkeys hurl, rfl⟩
  | ok endpoint =>
    cases htimeout : Span.ofText (effective ps env .timeout) with
    | error cause =>
      refine .inr ⟨_, .timeout hkeys hurl htimeout, ?_⟩
      rw [lookupSpan_of_error htimeout]
      rfl
    | ok timeout =>
      rw [lookupSpan_of_ok htimeout]
      cases hstatus : Span.ofText (effective ps env .statusTimeout) with
      | error cause =>
        refine .inr ⟨_, .statusTimeout hkeys hurl htimeout hstatus, ?_⟩
        rw [lookupSpan_of_error hstatus]
        rfl
      | ok statusTimeout =>
        rw [lookupSpan_of_ok hstatus]
        cases hpoll : Span.ofText (effective ps env .pollInterval) with
        | error cause =>
          refine .inr ⟨_, .pollInterval hkeys hurl htimeout hstatus hpoll, ?_⟩
          rw [lookupSpan_of_error hpoll]
          rfl
        | ok pollInterval =>
          rw [lookupSpan_of_ok hpoll]
          exact .inl ⟨_, hkeys, ⟨hurl, fun _ => lookupToken_eq_some_iff, htimeout, hstatus, hpoll⟩,
            rfl⟩

end

section
variable {ps qs : Params} {env : Environment} {text : Setting → String}

theorem FirstFault.unique {fault fault' : SettingsFault} (h : FirstFault ps text fault)
    (h' : FirstFault ps text fault') : fault = fault' := by
  cases h <;> cases h' <;> simp_all

theorem FirstFault.not_holds {fault : SettingsFault} (h : FirstFault ps text fault)
    (hkeys : strangers ps = []) {c : Config} (hc : Holds text c) : False := by
  obtain ⟨hurl, -, htimeout, hstatus, hpoll⟩ := hc
  cases h <;> simp_all

theorem lookup_eq_ok {c : Config} (h : Config.lookup ps env = .ok c) :
    strangers ps = [] ∧ Holds (effective ps env) c := by
  rcases lookup_cases ps env with ⟨c', hkeys, hc, hlookup⟩ | ⟨fault, -, hlookup⟩
  · rw [hlookup, Except.ok.injEq] at h
    exact ⟨hkeys, h ▸ hc⟩
  · rw [hlookup] at h
    contradiction

theorem lookup_eq_error_iff (fault : SettingsFault) :
    Config.lookup ps env = .error fault ↔ FirstFault ps (effective ps env) fault := by
  rcases lookup_cases ps env with ⟨c, hkeys, hc, hlookup⟩ | ⟨fault', hfault, hlookup⟩
  · rw [hlookup]
    exact ⟨fun h => by contradiction, fun h => (h.not_holds hkeys hc).elim⟩
  · rw [hlookup, Except.error.injEq]
    exact ⟨fun h => h ▸ hfault, fun h => hfault.unique h⟩

/-- Whatever is known, can be read and can be measured is a configuration. -/
theorem exists_lookup_eq_ok (hkeys : strangers ps = [])
    (hurl : ∃ u, Url.parse (effective ps env .endpoint) = .ok u)
    (hspans : ∀ s ∈ [Setting.timeout, .statusTimeout, .pollInterval],
      ∃ d, Span.ofText (effective ps env s) = .ok d) :
    ∃ c, Config.lookup ps env = .ok c := by
  rcases lookup_cases ps env with ⟨c, -, -, hlookup⟩ | ⟨fault, hfault, -⟩
  · exact ⟨c, hlookup⟩
  obtain ⟨u, hurl⟩ := hurl
  obtain ⟨timeout, htimeout⟩ := hspans .timeout (by simp)
  obtain ⟨statusTimeout, hstatus⟩ := hspans .statusTimeout (by simp)
  obtain ⟨pollInterval, hpoll⟩ := hspans .pollInterval (by simp)
  -- The token is whatever text counts, so these four readings are a configuration.
  have hc : Holds (effective ps env)
      ⟨u, lookupToken ps env, timeout, statusTimeout, pollInterval⟩ :=
    ⟨hurl, fun _ => lookupToken_eq_some_iff, htimeout, hstatus, hpoll⟩
  exact (hfault.not_holds hkeys hc).elim

/-! ## What the environment overrules -/

theorem DifferWhereOverruled.lookup?_eq (h : DifferWhereOverruled env ps qs) {s : Setting}
    (hunset : env s.variableName = none) : qs.lookup? s.key = ps.lookup? s.key := by
  induction h with
  | nil => rfl
  | @cons p q _ _ hpq _ ih =>
    obtain ⟨hkey, hvalue⟩ := hpq
    rw [Params.lookup?_cons, Params.lookup?_cons, ih, ← hkey]
    by_cases hs : p.key = s.key
    · have hsame : p.value = q.value := by
        refine hvalue.resolve_right ?_
        rintro ⟨t, ht, hset⟩
        exact hset (Setting.key_injective (ht.trans hs) ▸ hunset)
      rw [if_pos hs, if_pos hs, hsame]
    · rw [if_neg hs, if_neg hs]

theorem DifferWhereOverruled.effective_eq (h : DifferWhereOverruled env ps qs) (s : Setting) :
    effective qs env s = effective ps env s := by
  rw [effective, effective]
  cases hvariable : env s.variableName with
  | some value => rfl
  | none => rw [h.lookup?_eq hvariable]

theorem DifferWhereOverruled.map_key_eq (h : DifferWhereOverruled env ps qs) :
    qs.map Param.key = ps.map Param.key := by
  induction h with
  | nil => rfl
  | cons hpq _ ih => rw [List.map_cons, List.map_cons, ih, hpq.1]

theorem DifferWhereOverruled.lookup_eq (h : DifferWhereOverruled env ps qs) :
    Config.lookup qs env = Config.lookup ps env := by
  have hunknown : qs.unknownKeys defaults = ps.unknownKeys defaults := by
    rw [Params.unknownKeys, Params.unknownKeys, h.map_key_eq]
  have hcheck : qs.check subsystem defaults = ps.check subsystem defaults := by
    rw [Params.check, Params.check, hunknown]
  simp only [Config.lookup, hcheck, lookupSpan, lookupToken, h.effective_eq]

end

theorem looksUp_effective (ps : Params) (env : Environment) :
    LooksUp ps env (effective ps env) where
  isOk_iff := by
    rw [← strangers_eq_nil_iff]
    constructor
    · rintro ⟨c, h⟩
      obtain ⟨hkeys, hc⟩ := lookup_eq_ok h
      refine ⟨hkeys, ⟨_, hc.endpoint⟩, ?_⟩
      simp [hc.timeout, hc.statusTimeout, hc.pollInterval]
    · rintro ⟨hkeys, hurl, hspans⟩
      exact exists_lookup_eq_ok hkeys hurl hspans
  ok _ h := (lookup_eq_ok h).2
  error_iff := lookup_eq_error_iff
  overruled _ h := h.lookup_eq

/-- Every setting has exactly one text that counts, and these texts and the keys of the parameters
settle what the configuration is or what is wrong first. -/
theorem lookup_of_counts (ps : Params) (env : Environment) :
    ∃ text : Setting → String, (∀ s t, Counts ps env s t ↔ text s = t) ∧ LooksUp ps env text :=
  ⟨effective ps env, fun _ _ => counts_iff, looksUp_effective ps env⟩

/-- A timeout that cannot be read is overruled by the environment, and a second endpoint by the
first one. -/
theorem lookup_of_counts_overruled :
    let env : Environment := fun name =>
      if name = "HULK_HEAL_ADMIN_TIMEOUT" then some "5s" else none
    let endpoints : Params := [⟨"endpoint", "http://node1:9000"⟩, ⟨"endpoint", "nowhere"⟩]
    ∃ c, Config.lookup (⟨"timeout", "soon"⟩ :: endpoints) env = .ok c ∧
      Url.parse "http://node1:9000" = .ok c.endpoint ∧ Span.ofText "5s" = .ok c.timeout ∧
      c.authToken = none ∧ Config.lookup (⟨"timeout", "30s"⟩ :: endpoints) env = .ok c := by
  intro env endpoints
  obtain ⟨text, hcounts, hlooks⟩ := lookup_of_counts (⟨"timeout", "soon"⟩ :: endpoints) env
  have hendpoint : text .endpoint = "http://node1:9000" := (hcounts .endpoint _).mp
    (.param rfl (show _ = [⟨"timeout", "soon"⟩] ++ ⟨"endpoint", "http://node1:9000"⟩ :: _ from rfl)
      rfl (by decide))
  have htoken : text .authToken = "" := (hcounts .authToken _).mp (.default rfl (by decide))
  have htimeout : text .timeout = "5s" := (hcounts .timeout _).mp (.variable rfl)
  have hstatus : text .statusTimeout = "10s" :=
    (hcounts .statusTimeout _).mp (.default rfl (by decide))
  have hpoll : text .pollInterval = "2s" := (hcounts .pollInterval _).mp (.default rfl (by decide))
  have hurl : ∃ u, Url.parse (text .endpoint) = .ok u := by
    rw [hendpoint]
    exact ⟨⟨"http", some ⟨[], [], some (.name "node1".toList), some 9000⟩, .segments [[]], none,
      none⟩, by decide +kernel⟩
  have hspans : ∀ s ∈ [Setting.timeout, .statusTimeout, .pollInterval],
      ∃ d, Span.ofText (text s) = .ok d := by
    simp only [List.forall_mem_cons, htimeout, hstatus, hpoll]
    exact ⟨⟨⟨5000000000⟩, by decide +kernel⟩, ⟨⟨10000000000⟩, by decide +kernel⟩,
      ⟨⟨2000000000⟩, by decide +kernel⟩, by simp⟩
  have hknown := strangers_eq_nil_iff.mp
    (show strangers (⟨"timeout", "soon"⟩ :: endpoints) = [] by decide)
  obtain ⟨c, hc⟩ := hlooks.isOk_iff.mpr ⟨hknown, hurl, hspans⟩
  have hholds := hlooks.ok c hc
  have hother := hlooks.overruled (⟨"timeout", "30s"⟩ :: endpoints)
    (.cons ⟨rfl, .inr ⟨.timeout, rfl, by decide⟩⟩
      (.cons ⟨rfl, .inl rfl⟩ (.cons ⟨rfl, .inl rfl⟩ .nil)))
  refine ⟨c, hc, hendpoint ▸ hholds.endpoint, htimeout ▸ hholds.timeout, ?_, hother.trans hc⟩
  rw [Option.eq_none_iff_forall_ne_some]
  intro t ht
  obtain ⟨hempty, hne⟩ := (hholds.token t).mp ht
  exact hne (hempty.symm.trans htoken)

end HealControl.Settings
