import HostRouting.Api.Resource
import HostRouting.Cli
import HostRouting.Proofs.Escapes
import HostRouting.Proofs.Splitting
import Mathlib.Data.List.DropRight

/-!
# What is asked for under an address

An address is read by the generic syntax: the scheme and the authority come first, the path ends at
the first question mark or number sign, slashes part its segments, and each segment is decoded. The
program puts the host it is asked about at the end of the path as it is, so it asks for that host
just when these readings leave the host alone.
-/

namespace HostRouting

/-! ## The generic syntax -/

namespace Url

open Text

/-- The characters at which the first part of an address ends; a colon there makes it the scheme. -/
def endsScheme (c : Char) : Bool := c == ':' || c == '/' || c == '?' || c == '#'

/-- The characters at which the authority ends. -/
def endsAuthority (c : Char) : Bool := c == '/' || c == '?' || c == '#'

/-- The characters at which the path ends. -/
def endsPath (c : Char) : Bool := c == '?' || c == '#'

/-- What follows the scheme, if there is one. A scheme is not empty. -/
def afterScheme (cs : List Char) : List Char :=
  let rest := cs.dropWhile fun c => !endsScheme c
  if cs.head? ≠ some ':' ∧ rest.head? = some ':' then rest.tail else cs

/-- What follows the authority, if there is one. -/
def afterAuthority : List Char → List Char
  | '/' :: '/' :: r => r.dropWhile fun c => !endsAuthority c
  | cs => cs

/-- The path, and what follows it. -/
def fromPath (cs : List Char) : List Char := afterAuthority (afterScheme cs)

/-- The part before a question mark or a number sign. -/
def beforeQuery (s : String) : String := String.ofList (s.toList.takeWhile fun c => !endsPath c)

/-- The path of an address. -/
def path (url : String) : String := beforeQuery (String.ofList (fromPath url.toList))

/-- The path without the slashes at its end. -/
def basePath (url : String) : String := String.ofList ((path url).toList.rdropWhile (· == '/'))

/-- The segments of a path. -/
def segments (path : String) : List String := (fields '/' path).map percentDecoded

/-- The text is in a path what it is by itself. -/
structure IsSegment (s : String) : Prop where
  slash : '/' ∉ s.toList
  query : '?' ∉ s.toList
  fragment : '#' ∉ s.toList
  escape : ¬ HasEscape s.toList

variable {d : Char} {cs ds : List Char} {s t : String}

/-! ## The parts before the path -/

theorem dropWhile_append_cons {p : Char → Bool} (hd : p d = false) (cs ds : List Char) :
    (cs ++ d :: ds).dropWhile p = cs.dropWhile p ++ d :: ds := by
  rw [List.dropWhile_append]
  split
  · rename_i hnone
    rw [List.isEmpty_iff.1 hnone, List.nil_append, List.dropWhile_cons_of_neg (by simp [hd])]
  · rfl

theorem afterScheme_append_slash (cs ds : List Char) :
    afterScheme (cs ++ '/' :: ds) = afterScheme cs ++ '/' :: ds := by
  unfold afterScheme
  have hdrop := dropWhile_append_cons (p := fun c => !endsScheme c) (d := '/') rfl
  simp only [hdrop]
  cases cs with
  | nil => rfl
  | cons c cs =>
    cases (c :: cs).dropWhile fun c => !endsScheme c with
    | nil => simp
    | cons d rest => by_cases hcolon : c ≠ ':' ∧ d = ':' <;> simp [hcolon]

/-- A slash makes nothing an authority, unless another slash stands alone before it or after it. -/
theorem afterAuthority_append_slash (hcs : cs ≠ ['/']) (hds : ds.head? ≠ some '/') :
    afterAuthority (cs ++ '/' :: ds) = afterAuthority cs ++ '/' :: ds := by
  rw [afterAuthority.eq_def cs]
  split
  · exact dropWhile_append_cons rfl _ _
  · rename_i hnot
    rw [afterAuthority.eq_def]
    split
    · rename_i r heq
      match cs, hcs, hnot with
      | [], _, _ => simp_all
      | [c], hcs, _ => simp_all
      | c :: d :: cs, _, hnot => simp_all
    · rfl

theorem afterScheme_suffix (cs : List Char) : afterScheme cs <:+ cs := by
  rw [afterScheme]
  split
  · exact (List.tail_suffix _).trans (List.dropWhile_suffix _)
  · exact List.suffix_refl cs

theorem afterAuthority_suffix (cs : List Char) : afterAuthority cs <:+ cs := by
  rw [afterAuthority.eq_def]
  split
  · rename_i r
    exact (List.dropWhile_suffix _).trans ⟨['/', '/'], rfl⟩
  · exact List.suffix_refl _

theorem fromPath_suffix (cs : List Char) : fromPath cs <:+ cs :=
  (afterAuthority_suffix _).trans (afterScheme_suffix cs)

/-! ## Slashes at the end -/

/-- What ends a text without a slash at its end has none either. -/
theorem rdropWhile_eq_self_of_suffix {p : Char → Bool} (hsuffix : cs <:+ ds)
    (h : ds.rdropWhile p = ds) : cs.rdropWhile p = cs := by
  rw [List.rdropWhile_eq_self_iff] at h ⊢
  intro hcs
  have hds : ds ≠ [] := fun hnil => hcs (List.suffix_nil.1 (hnil ▸ hsuffix))
  rw [hsuffix.getLast hcs]
  exact h hds

theorem fromPath_append_slash (hcs : cs.rdropWhile (· == '/') = cs) (hds : ds.head? ≠ some '/') :
    fromPath (cs ++ '/' :: ds) = fromPath cs ++ '/' :: ds := by
  rw [fromPath, afterScheme_append_slash]
  refine afterAuthority_append_slash (fun hslash => ?_) hds
  have hbare := rdropWhile_eq_self_of_suffix (afterScheme_suffix cs) hcs
  rw [hslash] at hbare
  cases hbare

/-- Slashes at the end of an address are slashes at the end of its path, or none of them is in it. -/
theorem rdropWhile_fromPath (cs : List Char) :
    (fromPath cs).rdropWhile (· == '/') = fromPath (cs.rdropWhile (· == '/')) := by
  induction cs using List.reverseRecOn with
  | nil => rfl
  | append_singleton cs c ih =>
    by_cases hc : c = '/'
    · subst hc
      rw [List.rdropWhile_concat_pos _ _ _ rfl, ← ih, fromPath, afterScheme_append_slash]
      by_cases halone : afterScheme cs = ['/']
      · rw [fromPath, halone]
        rfl
      · rw [afterAuthority_append_slash halone (by simp), List.rdropWhile_concat_pos _ _ _ rfl, fromPath]
    · have hkept : (cs ++ [c]).rdropWhile (· == '/') = cs ++ [c] :=
        List.rdropWhile_concat_neg _ _ _ (by simpa using hc)
      rw [hkept]
      exact rdropWhile_eq_self_of_suffix (fromPath_suffix _) hkept

/-! ## What a segment is read as -/

theorem endsPath_iff (c : Char) : endsPath c = true ↔ c = '?' ∨ c = '#' := by
  simp [endsPath]

theorem beforeQuery_eq_self_iff : beforeQuery s = s ↔ '?' ∉ s.toList ∧ '#' ∉ s.toList := by
  rw [beforeQuery, ← String.toList_inj, String.toList_ofList, List.takeWhile_eq_self_iff]
  constructor
  · intro h
    exact ⟨fun hmem => absurd (h _ hmem) (by decide), fun hmem => absurd (h _ hmem) (by decide)⟩
  · rintro ⟨hquery, hfragment⟩ c hc
    rw [Bool.not_eq_true', Bool.eq_false_iff, Ne, endsPath_iff]
    rintro (rfl | rfl)
    · exact hquery hc
    · exact hfragment hc

theorem beforeQuery_append (hs : beforeQuery s = s) (t : String) :
    beforeQuery (s ++ t) = s ++ beforeQuery t := by
  rw [beforeQuery, ← String.toList_inj, String.toList_ofList, List.takeWhile_eq_self_iff] at hs
  rw [beforeQuery, String.toList_append, List.takeWhile_append_of_pos hs, String.ofList_append,
    String.ofList_toList, beforeQuery]

/-- A part of what has neither query nor fragment has none. -/
theorem beforeQuery_ofList_of_infix (hs : beforeQuery s = s) (hcs : cs <:+: s.toList) :
    beforeQuery (String.ofList cs) = String.ofList cs := by
  rw [beforeQuery_eq_self_iff] at hs ⊢
  rw [String.toList_ofList]
  exact ⟨fun h => hs.1 (hcs.subset h), fun h => hs.2 (hcs.subset h)⟩

/-- Neither decoding nor the end of the path makes up for what the other takes away. -/
theorem percentDecoded_beforeQuery_eq_self_iff : percentDecoded (beforeQuery s) = s ↔
    beforeQuery s = s ∧ ¬ HasEscape s.toList := by
  constructor
  · intro h
    have hstart : (beforeQuery s).toList <+: s.toList := by
      rw [beforeQuery, String.toList_ofList]
      exact List.takeWhile_prefix _
    have hle := length_percentDecoded_le (beforeQuery s)
    rw [h] at hle
    have hself : beforeQuery s = s := String.toList_injective (hstart.eq_of_length_le hle)
    rw [hself] at h
    exact ⟨hself, percentDecoded_eq_self_iff.1 h⟩
  · rintro ⟨hself, hescape⟩
    rw [hself, percentDecoded_eq_self_iff.2 hescape]

theorem isSegment_iff : IsSegment s ↔
    '/' ∉ s.toList ∧ percentDecoded (beforeQuery s) = s := by
  rw [percentDecoded_beforeQuery_eq_self_iff, beforeQuery_eq_self_iff]
  exact ⟨fun h => ⟨h.slash, ⟨h.query, h.fragment⟩, h.escape⟩,
    fun ⟨hslash, ⟨hquery, hfragment⟩, hescape⟩ => ⟨hslash, hquery, hfragment, hescape⟩⟩

instance (s : String) : Decidable (IsSegment s) := decidable_of_iff _ isSegment_iff.symm

theorem segments_append_slash (s t : String) :
    segments (s ++ "/" ++ t) = segments s ++ segments t := by
  have hslash : "/" = String.singleton '/' := rfl
  rw [segments, hslash, fields_append, List.map_append]
  rfl

/-- **A text is the one segment that is read of it just when nothing in it is syntax.** -/
theorem segments_beforeQuery_eq_singleton_iff : segments (beforeQuery s) = [s] ↔ IsSegment s := by
  constructor
  · intro h
    obtain ⟨f, hfields, hdecoded⟩ := List.map_eq_singleton_iff.1 h
    obtain ⟨hslash, rfl⟩ := fields_eq_singleton_iff.1 hfields
    have hself := (percentDecoded_beforeQuery_eq_self_iff.1 hdecoded).1
    exact isSegment_iff.2 ⟨hself ▸ hslash, hdecoded⟩
  · intro h
    obtain ⟨hslash, hdecoded⟩ := isSegment_iff.1 h
    have hself := (percentDecoded_beforeQuery_eq_self_iff.1 hdecoded).1
    rw [segments, fields_eq_singleton_iff.2 ⟨hself.symm ▸ hslash, rfl⟩, List.map_singleton, hdecoded]

/-- An escaped slash does not part segments. -/
example : segments (beforeQuery "a%2Fb?c") = ["a/b"] := by decide

end Url

/-! ## The resource of a route -/

namespace Api

theorem stem_isPrefix (key : String) : Resource.routeStem <+: ("/routes/" ++ key).toList := by
  rw [String.toList_append]
  exact List.prefix_append _ _

/-- No fixed path begins like those of routes. -/
theorem find?_fixed_eq_none (key : String) : (Resource.fixed.find? fun e =>
    "/routes/" ++ key == e.1 || "/routes/" ++ key == e.1 ++ "\n") = none := by
  have hfixed : ∀ e ∈ Resource.fixed, ¬ Resource.routeStem <+: e.1.toList ∧
      ¬ Resource.routeStem <+: (e.1 ++ "\n").toList := by
    decide
  rw [List.find?_eq_none]
  intro e he heq
  rw [Bool.or_eq_true, beq_iff_eq, beq_iff_eq] at heq
  rcases heq with heq | heq
  · exact (hfixed e he).1 (heq ▸ stem_isPrefix key)
  · exact (hfixed e he).2 (heq ▸ stem_isPrefix key)

/-- What follows the stem is the key of a route, if it can be one. -/
theorem ofPath?_route_iff {key host : String} : Resource.ofPath? ("/routes/" ++ key) =
    some (.route host) ↔ key = host ∧ host ≠ "" ∧ '/' ∉ host.toList := by
  have hkey : ("/routes/" ++ key).toList.drop Resource.routeStem.length = key.toList := by
    rw [String.toList_append]
    exact List.drop_left
  have hstem := List.isPrefixOf_iff_prefix.2 (stem_isPrefix key)
  simp only [Resource.ofPath?, find?_fixed_eq_none, hkey, hstem, String.ofList_toList]
  simp only [Bool.true_and, Option.ite_none_right_eq_some, Bool.and_eq_true, Bool.not_eq_true',
    List.isEmpty_eq_false_iff, List.contains_eq_mem, decide_eq_false_iff_not, ne_eq,
    String.toList_eq_nil_iff, Option.some.injEq, Resource.route.injEq]
  constructor
  · rintro ⟨⟨hne, hslash⟩, rfl⟩
    exact ⟨rfl, hne, hslash⟩
  · rintro ⟨rfl, hne, hslash⟩
    exact ⟨⟨hne, hslash⟩, rfl⟩

end Api

namespace Cli

open Text Url

variable {api host : String}

theorem toList_baseUrl (api : String) : (baseUrl api).toList = api.toList.rdropWhile (· == '/') := by
  rw [baseUrl, String.toList_ofList]
  rfl

/-- The path of an address is that of the address without slashes at its end. -/
theorem basePath_eq (hapi : beforeQuery api = api) :
    basePath api = String.ofList (fromPath (baseUrl api).toList) := by
  have hpath : path api = String.ofList (fromPath api.toList) :=
    beforeQuery_ofList_of_infix hapi (fromPath_suffix _).isInfix
  rw [basePath, hpath, String.toList_ofList, rdropWhile_fromPath, toList_baseUrl]

/-- The path that is asked for ends with the host, as far as no query or fragment begins in it. -/
theorem path_route_request (hapi : beforeQuery api = api) (host : String) :
    path (baseUrl api ++ "/routes/" ++ host) = basePath api ++ ("/routes/" ++ beforeQuery host) := by
  have hbare : (baseUrl api).toList.rdropWhile (· == '/') = (baseUrl api).toList := by
    rw [toList_baseUrl, List.rdropWhile_idempotent]
  have hfrom : fromPath (baseUrl api ++ "/routes/" ++ host).toList =
      fromPath (baseUrl api).toList ++ ("/routes/" ++ host).toList := by
    rw [String.append_assoc, String.toList_append, String.toList_append]
    refine fromPath_append_slash hbare (fun h => ?_)
    cases h
  have hbase : beforeQuery (basePath api) = basePath api := by
    rw [basePath_eq hapi]
    refine beforeQuery_ofList_of_infix hapi ((fromPath_suffix _).isInfix.trans ?_)
    rw [toList_baseUrl]
    exact (List.rdropWhile_prefix _ _).isInfix
  rw [path, hfrom, String.ofList_append, String.ofList_toList, ← basePath_eq hapi,
    beforeQuery_append hbase, beforeQuery_append (by rfl)]

/-- The segments that are asked for are those of the base, the word for routes, and those of the
host. -/
theorem segments_route_request (hapi : beforeQuery api = api) (host : String) :
    segments (path (baseUrl api ++ "/routes/" ++ host)) =
      segments (basePath api) ++ "routes" :: segments (beforeQuery host) := by
  have hslashes : basePath api ++ ("/routes/" ++ beforeQuery host) =
      basePath api ++ "/" ++ ("routes" ++ "/" ++ beforeQuery host) := by
    have hstem : "/routes/" = "/" ++ "routes" ++ "/" := by decide
    rw [hstem]
    simp only [String.append_assoc]
  have hword : segments "routes" = ["routes"] := by decide
  rw [path_route_request hapi, hslashes, segments_append_slash, segments_append_slash, hword]
  rfl

/-- What the service receives below the base path names the route of the host just when the host is
one segment. This is about the generic syntax of addresses: a client may besides take the segments
`.` and `..` out of a path before it asks, and that is not considered. -/
theorem ofPath?_route_request_iff (hhost : host ≠ "") : Api.Resource.ofPath?
    (percentDecoded ("/routes/" ++ beforeQuery host)) = some (.route host) ↔ IsSegment host := by
  rw [percentDecoded_append (by decide), Api.ofPath?_route_iff, isSegment_iff]
  constructor
  · rintro ⟨hself, -, hslash⟩
    exact ⟨hslash, hself⟩
  · rintro ⟨hslash, hself⟩
    exact ⟨hself, hhost, hslash⟩

/-- **The program asks for the host it was given just when the host is one segment as it stands.** It
puts the host into the path without escapes, so what is syntax in the host is read as syntax. The
path is read as the generic syntax says; that some clients remove the segments `.` and `..` from it is
not considered. -/
theorem route_request_names_host_iff (api host : String) (hquery : '?' ∉ api.toList)
    (hfragment : '#' ∉ api.toList) (hhost : host ≠ "") :
    ∃ r below, request? api (.route host) = some r ∧ r.params? = none ∧
      path r.url = basePath api ++ below ∧
      segments (path r.url) = segments (basePath api) ++ "routes" :: segments (beforeQuery host) ∧
      (segments (path r.url) = segments (basePath api) ++ ["routes", host] ↔ IsSegment host) ∧
      (Api.Resource.ofPath? (percentDecoded below) = some (.route host) ↔ IsSegment host) := by
  have hapi : beforeQuery api = api := beforeQuery_eq_self_iff.2 ⟨hquery, hfragment⟩
  refine ⟨_, "/routes/" ++ beforeQuery host, rfl, rfl, path_route_request hapi host,
    segments_route_request hapi host, ?_, ofPath?_route_request_iff hhost⟩
  rw [segments_route_request hapi, List.append_cancel_left_eq, List.cons_inj_right,
    segments_beforeQuery_eq_singleton_iff]

/-- A host name, and an address with a path and a slash too many. -/
theorem route_request_names_host_iff_shop :
    IsSegment "shop.example.com" ∧ ∃ r below,
      request? "http://drd:8000/api//" (.route "shop.example.com") = some r ∧
      path r.url = "/api" ++ below ∧
      segments (path r.url) = ["", "api", "routes", "shop.example.com"] ∧
      Api.Resource.ofPath? (percentDecoded below) = some (.route "shop.example.com") := by
  have hsegment : IsSegment "shop.example.com" := by decide
  have hbase : basePath "http://drd:8000/api//" = "/api" := by decide
  obtain ⟨r, below, hr, -, hpath, -, hsegments, hreceived⟩ := route_request_names_host_iff
    "http://drd:8000/api//" "shop.example.com" (by decide) (by decide) (by decide)
  rw [hbase] at hpath hsegments
  exact ⟨hsegment, r, below, hr, hpath, hsegments.2 hsegment, hreceived.2 hsegment⟩

/-- The path ends at a question mark in the host, and another route is asked for. -/
theorem question_mark_asks_for_another : ∃ r, request? defaultApi (.route "a?b") = some r ∧
    segments (path r.url) = ["", "routes", "a"] ∧
    segments (path r.url) ≠ segments (basePath defaultApi) ++ ["routes", "a?b"] ∧
    Api.Resource.ofPath? (percentDecoded (path r.url)) = some (.route "a") := by
  refine ⟨_, rfl, ?_, ?_, ?_⟩ <;> decide

end Cli

end HostRouting
