import HealControl.Admin.Client
import HealControl.Admin.Endpoint
import HealControl.Proofs.Url.Resolving

/-!
# Where requests go

The URL of a request is on the host of the endpoint, and its query holds the values of the request
in order. Bucket and prefix are put into it as they are, so it stands for the path of the request
exactly if they hold nothing that means something else in a URL. Calls of such paths never share a
URL unless they have the same path and the same values.
-/
namespace HealControl.Admin

open HealControl.Text
open HealControl.Url (OnHost SpelledOut)

/-- The URL stands for the path of a request and for its values in order. -/
structure Addresses (u : Url) (r : Request) : Prop where
  path : Url.percentDecode u.path.text = Utf8.bytes r.path
  query : Url.formDecode (u.query.getD []) =
    r.query.map fun pair => (Utf8.bytes pair.1, Utf8.bytes pair.2)

/-- What the URLs of heal calls on an endpoint stand for. -/
structure LocatesHeals (endpoint : Url) : Prop where
  host : ∀ c : HealCall, ∃ u, c.request.url endpoint = .ok u ∧ u.scheme = endpoint.scheme ∧
    u.authority = endpoint.authority
  addresses_iff : ∀ (c : HealCall) (u : Url), c.request.url endpoint = .ok u →
    (Addresses u c.request ↔ SpelledOut c.request.path.toList)
  distinct : ∀ (c c' : HealCall) (u u' : Url), SpelledOut c.request.path.toList →
    SpelledOut c'.request.path.toList → c.request.url endpoint = .ok u →
    c'.request.url endpoint = .ok u' → u.text = u'.text →
    c.request.path = c'.request.path ∧ c.request.query = c'.request.query

/-- What comes from where in the URL of a request, of whose path the text follows the first
slash. -/
structure ComesFrom (endpoint : Url) (r : Request) (cs : List Char) (u : Url) : Prop where
  scheme : u.scheme = endpoint.scheme
  authority : u.authority = endpoint.authority
  path : u.path = .segments (Url.readSegments .special (Url.pathRest cs))
  query : (Url.pathTail cs).query = none → u.query.getD [] = Url.formPairs [] r.query
  fragment : u.fragment = (Url.pathTail cs).fragment

section
variable {endpoint u u' : Url} {r r' : Request} {cs : List Char}

theorem exists_url (hendpoint : OnHost endpoint) (hpath : r.path.toList = '/' :: cs) :
    ∃ u, r.url endpoint = .ok u ∧ ComesFrom endpoint r cs u := by
  rw [Request.url, Url.resolve_onHost hendpoint hpath]
  refine ⟨_, rfl, ?_⟩
  cases hquery : r.query with
  | nil =>
    exact ⟨rfl, rfl, rfl, fun h => by simp [Url.withPairs, h, hquery, Url.formPairs], rfl⟩
  | cons pair rest =>
    exact ⟨rfl, rfl, rfl, fun h => by simp [Url.withPairs, h, hquery], rfl⟩

theorem comesFrom_url (hendpoint : OnHost endpoint) (hpath : r.path.toList = '/' :: cs)
    (hurl : r.url endpoint = .ok u) : ComesFrom endpoint r cs u := by
  obtain ⟨v, hv, hfrom⟩ := exists_url hendpoint hpath
  rw [hurl, Except.ok.injEq] at hv
  exact hv ▸ hfrom

theorem addresses_iff (hendpoint : OnHost endpoint) (hpath : r.path.toList = '/' :: cs)
    (hurl : r.url endpoint = .ok u) : Addresses u r ↔ SpelledOut r.path.toList := by
  have hfrom := comesFrom_url hendpoint hpath hurl
  have hread := Url.percentDecode_readSegments_iff cs
  rw [← hfrom.path, ← hpath] at hread
  constructor
  · exact fun h => hread.mp h.path
  · intro h
    refine ⟨hread.mpr h, ?_⟩
    rw [hpath] at h
    rw [hfrom.query (by rw [Url.pathTail_of_spelledOut h]), Url.formDecode_formPairs]

theorem Addresses.unique (h : Addresses u r) (h' : Addresses u' r')
    (hpath : u.path.text = u'.path.text) (hquery : u.query = u'.query) :
    r.path = r'.path ∧ r.query = r'.query := by
  have hbytes : ∀ {s t : String}, Utf8.bytes s = Utf8.bytes t → s = t := fun hsame => by
    simpa using congrArg Utf8.text? hsame
  refine ⟨hbytes ?_, ?_⟩
  · rw [← h.path, hpath, h'.path]
  · have hpairs := h.query
    rw [hquery, h'.query] at hpairs
    refine ((List.map_inj_right ?_).mp hpairs).symm
    intro pair pair' hsame
    rw [Prod.mk.injEq] at hsame
    exact Prod.ext (hbytes hsame.1) (hbytes hsame.2)

/-- Nothing of a path that is spelled out goes into the query or the fragment. -/
theorem tail_of_spelledOut (hfrom : ComesFrom endpoint r cs u) (h : SpelledOut ('/' :: cs)) :
    u.fragment = none ∧ '?' ∉ u.path.text := by
  rw [hfrom.fragment, Url.pathTail_of_spelledOut h, hfrom.path, Url.text_of_spelledOut h]
  exact ⟨rfl, Url.not_mem_percentEncode (by decide) (by decide) (by decide)⟩

theorem same_of_text_eq (hendpoint : OnHost endpoint) {cs' : List Char}
    (hpath : r.path.toList = '/' :: cs) (hpath' : r'.path.toList = '/' :: cs')
    (hurl : r.url endpoint = .ok u) (hurl' : r'.url endpoint = .ok u')
    (h : SpelledOut r.path.toList) (h' : SpelledOut r'.path.toList) (htext : u.text = u'.text) :
    r.path = r'.path ∧ r.query = r'.query := by
  have hfrom := comesFrom_url hendpoint hpath hurl
  have hfrom' := comesFrom_url hendpoint hpath' hurl'
  obtain ⟨hfragment, hmark⟩ := tail_of_spelledOut hfrom (hpath ▸ h)
  obtain ⟨hfragment', hmark'⟩ := tail_of_spelledOut hfrom' (hpath' ▸ h')
  have hscheme : u'.scheme = u.scheme := hfrom'.scheme.trans hfrom.scheme.symm
  have hauthority : u'.authority = u.authority := hfrom'.authority.trans hfrom.authority.symm
  have hhost : ∃ a, u.authority = some a := hfrom.authority ▸ hendpoint.authority
  obtain ⟨hsame, hquery⟩ := Url.eq_of_text_eq hscheme hhost hauthority hfragment hfragment'
    hmark hmark' htext
  exact ((addresses_iff hendpoint hpath hurl).mpr h).unique
    ((addresses_iff hendpoint hpath' hurl').mpr h') hsame hquery

end

theorem exists_toList_request (c : HealCall) : ∃ cs, c.request.path.toList = '/' :: cs := by
  have hstart : apiPath.toList = '/' :: apiPath.toList.tail := by decide
  rw [HealCall.request, healPath, String.toList_append, String.toList_append,
    String.toList_append, hstart]
  exact ⟨_, rfl⟩

/-- The URL of a heal call stands for its path and its values exactly if the path is spelled out,
and tells calls of such paths apart. -/
theorem locatesHeals_of_parse {text : String} {endpoint : Url}
    (hparse : Url.parse text = .ok endpoint)
    (hscheme : endpoint.scheme = "http" ∨ endpoint.scheme = "https") : LocatesHeals endpoint := by
  have hkind : Url.schemeKind endpoint.scheme = .special := by
    rcases hscheme with h | h <;> rw [h] <;> decide
  have hendpoint := Url.onHost_of_parse hparse hkind
  refine ⟨fun c => ?_, fun c u hurl => ?_, fun c c' u u' h h' hurl hurl' htext => ?_⟩
  · obtain ⟨cs, hcs⟩ := exists_toList_request c
    obtain ⟨u, hurl, hfrom⟩ := exists_url hendpoint hcs
    exact ⟨u, hurl, hfrom.scheme, hfrom.authority⟩
  · obtain ⟨cs, hcs⟩ := exists_toList_request c
    exact addresses_iff hendpoint hcs hurl
  · obtain ⟨cs, hcs⟩ := exists_toList_request c
    obtain ⟨cs', hcs'⟩ := exists_toList_request c'
    exact same_of_text_eq hendpoint hcs hcs' hurl hurl' h h' htext

/-- A stop on an object whose name holds a blank and a percent sign, with a token that holds the
marks of a query. -/
theorem locatesHeals_node1 :
    let endpoint : Url :=
      ⟨"http", some ⟨[], [], some (.name "node1".toList), some 9000⟩, .segments [[]], none, none⟩
    let c := HealCall.mk "photos" "a b/100%" default "t 1&x=y" false true
    Url.parse "http://node1:9000" = .ok endpoint ∧ LocatesHeals endpoint ∧
      ∃ u, c.request.url endpoint = .ok u ∧ Addresses u c.request := by
  intro endpoint c
  have hparse : Url.parse "http://node1:9000" = .ok endpoint := by decide +kernel
  have hlocates := locatesHeals_of_parse hparse (.inl rfl)
  obtain ⟨u, hurl, -, -⟩ := hlocates.host c
  have hspelled : SpelledOut c.request.path.toList := by decide +kernel
  exact ⟨hparse, hlocates, u, hurl, (hlocates.addresses_iff c u hurl).mpr hspelled⟩

/-- A question mark in the name of an object starts the query, and a part of two dots leads out of
the bucket to where another call goes. -/
theorem not_addresses_of_questionMark :
    let endpoint : Url :=
      ⟨"http", some ⟨[], [], some (.name "node1".toList), some 9000⟩, .segments [[]], none, none⟩
    let marked := HealCall.mk "photos" "a?b" default "" false false
    let outside := HealCall.mk "photos" "../videos" default "" false false
    let videos := HealCall.mk "videos" "" default "" false false
    Url.parse "http://node1:9000" = .ok endpoint ∧
      (∃ u, marked.request.url endpoint = .ok u ∧ ¬ Addresses u marked.request) ∧
      outside.request.path ≠ videos.request.path ∧
      ∃ u, outside.request.url endpoint = .ok u ∧ videos.request.url endpoint = .ok u := by
  intro endpoint marked outside videos
  have hparse : Url.parse "http://node1:9000" = .ok endpoint := by decide +kernel
  have hmarked : marked.request.url endpoint = .ok { endpoint with
      path := .segments (["hulk", "admin", "v3", "heal", "photos", "a"].map String.toList)
      query := some ['b'] } := by decide +kernel
  have houtside : outside.request.url endpoint = .ok { endpoint with
      path := .segments (["hulk", "admin", "v3", "heal", "videos"].map String.toList) } := by
    decide +kernel
  have hvideos : videos.request.url endpoint = .ok { endpoint with
      path := .segments (["hulk", "admin", "v3", "heal", "videos"].map String.toList) } := by
    decide +kernel
  refine ⟨hparse, ⟨_, hmarked, fun h => ?_⟩, by decide, _, houtside, hvideos⟩
  exact absurd h.path (by decide +kernel)

end HealControl.Admin
