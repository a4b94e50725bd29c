import HealControl.Proofs.Url.PathReading

/-!
# Resolving paths

A path is resolved on the host of a URL whose scheme asks for one. What is read as a path there is
read segment by segment, and what is read as the rest of the text follows it. The text of a URL
tells its path and its query apart.
-/
namespace HealControl.Url

open HealControl.Text

structure OnHost (u : Url) : Prop where
  kind : schemeKind u.scheme = .special
  authority : ∃ a, u.authority = some a
  path : ∃ parts, u.path = .segments parts

/-! ## URLs with a host -/

section
variable {u : Url} {scheme : String} {kind : SchemeKind} {cs : List Char} {tail : Tail}

theorem readAfterSlashes_ok (h : readAfterSlashes scheme kind cs = .ok u) :
    u.scheme = scheme ∧ (∃ a, u.authority = some a) ∧ ∃ parts, u.path = .segments parts := by
  rw [readAfterSlashes] at h
  cases hauthority : readAuthority scheme kind (cs.takeWhile fun c => !endsAuthority kind c)
      (cs.dropWhile fun c => !endsAuthority kind c).isEmpty with
  | error fault =>
    rw [hauthority] at h
    contradiction
  | ok read =>
    rw [hauthority] at h
    cases h
    exact ⟨rfl, ⟨_, rfl⟩, _, rfl⟩

theorem scheme_readAfterFileSlashes (h : readAfterFileSlashes cs tail = .ok u) :
    u.scheme = "file" := by
  rw [readAfterFileSlashes] at h
  split at h
  · cases h
    rfl
  · cases hhost : readFileHost (visible (cs.takeWhile fun c => !isSlash .file c)) with
    | error fault =>
      rw [hhost] at h
      contradiction
    | ok host =>
      rw [hhost] at h
      cases host <;> cases h <;> rfl

theorem scheme_readFile (h : readFile cs = .ok u) : u.scheme = "file" := by
  rw [readFile] at h
  split at h
  · cases h
    rfl
  · split at h
    · cases h
      rfl
    · exact scheme_readAfterFileSlashes h

theorem scheme_readPlain (h : readPlain scheme cs = .ok u) : u.scheme = scheme := by
  rw [readPlain.eq_def] at h
  split at h
  · exact (readAfterSlashes_ok h).1
  · cases h
    rfl

theorem onHost_of_parse {s : String} (h : parse s = .ok u)
    (hkind : schemeKind u.scheme = .special) : OnHost u := by
  rw [parse] at h
  cases hscheme : readScheme (visible (trimOuter s.toList)) with
  | error fault =>
    rw [hscheme] at h
    contradiction
  | ok read =>
    obtain ⟨scheme, rest⟩ := read
    rw [hscheme] at h
    dsimp only [bind, Except.bind] at h
    cases hread : schemeKind scheme with
    | file =>
      rw [hread] at h
      rw [scheme_readFile h] at hkind
      contradiction
    | special =>
      rw [hread] at h
      obtain ⟨-, hauthority, hpath⟩ := readAfterSlashes_ok h
      exact ⟨hkind, hauthority, hpath⟩
    | plain =>
      rw [hread] at h
      rw [scheme_readPlain h, hread] at hkind
      contradiction

end

/-! ## Resolved URLs -/

section
variable {base : Url} {reference : String} {cs : List Char}

def pathTail (cs : List Char) : Tail :=
  readTail .special
    (visible ((dropEndWhile isOuterBlank cs).dropWhile fun c => !startsTail c))

theorem resolve_onHost (hbase : OnHost base) (hreference : reference.toList = '/' :: cs) :
    base.resolve reference = .ok { base with
      path := .segments (readSegments .special (pathRest cs))
      query := (pathTail cs).query
      fragment := (pathTail cs).fragment } := by
  obtain ⟨hkind, -, parts, hpath⟩ := hbase
  have hdrive : inheritedDrive base = [] := by
    rw [inheritedDrive, hkind]
  have htrim : trimOuter ('/' :: cs) = '/' :: dropEndWhile isOuterBlank cs := by
    rw [trimOuter, trimWhile_of_head (by simp [isOuterBlank])]
    exact dropEndWhile_append_cons (by decide) [] cs
  rw [resolve, hpath, hreference, htrim, hdrive, hkind]
  rfl

theorem pathTail_of_spelledOut (h : SpelledOut ('/' :: cs)) : pathTail cs = ⟨none, none⟩ := by
  have hnone : (dropEndWhile isOuterBlank cs).dropWhile (fun c => !startsTail c) = [] := by
    rw [List.dropWhile_eq_nil_iff]
    intro c hc
    have hmem : c ∈ cs := (List.rdropWhile_prefix isOuterBlank cs).mem hc
    simp [h.noTail c (.tail _ hmem)]
  rw [pathTail, hnone]
  rfl

theorem not_mem_percentEncode {set : Char → Bool} {c : Char} (hset : set c = true)
    (hpercent : c ≠ '%') (hplain : isFormChar c = false) : c ∉ percentEncode set cs := by
  intro h
  obtain ⟨d, -, hd⟩ := List.mem_flatMap.mp h
  rw [percentChar] at hd
  split at hd
  · rcases mem_flatMap_percentByte hd with hd | hd
    · exact hpercent hd
    · simp [hplain] at hd
  · next hkept =>
    rw [List.mem_singleton] at hd
    exact hkept (hd ▸ hset)

/-- The query starts at the first question mark of a URL whose path has none. -/
theorem eq_of_append_query_eq {path path' : List Char} {query query' : Option (List Char)}
    (hpath : '?' ∉ path) (hpath' : '?' ∉ path')
    (h : path ++ (query.map fun q => '?' :: q).getD [] =
      path' ++ (query'.map fun q => '?' :: q).getD []) : path = path' ∧ query = query' := by
  have hcut : ∀ {path : List Char} (query : Option (List Char)), '?' ∉ path →
      (path ++ (query.map fun q => '?' :: q).getD []).takeWhile (· != '?') = path := by
    intro path query hpath
    rw [List.takeWhile_append_of_pos fun c hc => by simpa using fun h : c = '?' => hpath (h ▸ hc)]
    cases query <;> simp
  have hsame : path = path' := by rw [← hcut query hpath, h, hcut query' hpath']
  subst hsame
  refine ⟨rfl, ?_⟩
  have hquery := List.append_cancel_left h
  cases query <;> cases query' <;> simp_all

theorem eq_of_text_eq {u u' : Url} (hscheme : u'.scheme = u.scheme)
    (hhost : ∃ a, u.authority = some a) (hauthority : u'.authority = u.authority)
    (hfragment : u.fragment = none) (hfragment' : u'.fragment = none)
    (hpath : '?' ∉ u.path.text) (hpath' : '?' ∉ u'.path.text) (h : u.text = u'.text) :
    u.path.text = u'.path.text ∧ u.query = u'.query := by
  obtain ⟨a, ha⟩ := hhost
  have hlist := congrArg String.toList h
  simp only [text, authorityText, hscheme, hauthority, ha, hfragment, hfragment',
    String.toList_ofList, List.append_assoc, List.append_cancel_left_eq, Option.map_none,
    Option.getD_none, List.append_nil] at hlist
  exact eq_of_append_query_eq hpath hpath' hlist

end

end HealControl.Url
