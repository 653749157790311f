import Mathlib.Tactic
import Switchboard.Net.Url.Parse
import Switchboard.Proofs.Net.Hosts
import Switchboard.Proofs.Results
import Switchboard.Proofs.Text.Pieces

/-!
# URLs of endpoints

An endpoint is named by the text of a URL with a path put behind it, and that text is read again before
it is used. What is read is at the same place as the URL: the path cannot turn a part of the host into
a user, since the text of the host ends at the first slash behind it, and holds no at sign before that.

Reading cleans the text and cuts off query and fragment. None of it reaches the scheme and the host,
which have no character that is dropped or cut at (`exists_frontOf_eq`).

## Main results

* `isRead_of_parse`: what is known of a URL that was read.
* `isPlain_of_parse_join`: an endpoint has no user if its URL has none.
-/

namespace Switchboard.Net

/-! ### Cutting -/

/-- Items at the end are dropped only up to the last one that stays. -/
theorem trimEnd_append {p : Char → Bool} {front : List Char} (hlast : ∀ c ∈ front.getLast?, ¬ p c)
    (tail : List Char) :
    ((front ++ tail).reverse.dropWhile p).reverse =
      front ++ (tail.reverse.dropWhile p).reverse := by
  have hfront : front.reverse.dropWhile p = front.reverse := by
    cases front using List.reverseRecOn with
    | nil => rfl
    | append_singleton front c =>
        rw [List.reverse_append, List.reverse_singleton, List.singleton_append]
        exact List.dropWhile_cons_of_neg (hlast c (by simp))
  rw [List.reverse_append, List.dropWhile_append]
  split
  · next hnil => rw [List.isEmpty_iff.mp hnil, hfront, List.reverse_reverse, List.reverse_nil,
      List.append_nil]
  · rw [List.reverse_append, List.reverse_reverse]

/-- Trimming leaves the beginning of a text. -/
theorem isPrefix_trimEnd (p : Char → Bool) (tail : List Char) :
    (tail.reverse.dropWhile p).reverse <+: tail := by
  have hprefix := List.reverse_prefix.mpr (List.dropWhile_suffix p (l := tail.reverse))
  rwa [List.reverse_reverse] at hprefix

namespace Url

variable {mark : Char} {front tail cs : List Char}

/-- What stands before a mark. -/
theorem cut_fst (mark : Char) (cs : List Char) : (cut mark cs).1 = cs.takeWhile (· ≠ mark) := by
  induction cs with
  | nil => rfl
  | cons c cs ih =>
      rw [cut] at ih ⊢
      rw [Text.Split.once]
      by_cases hc : c = mark
      · simp [hc]
      · have hprefix : ¬ [mark].isPrefixOf (c :: cs) := by simpa using Ne.symm hc
        rw [if_neg hprefix, List.takeWhile_cons_of_pos (by simpa using hc), ← ih]
        cases Text.Split.once [mark] cs with
        | none => rfl
        | some parts => rfl

/-! ### The front of a text -/

/-- Characters that are neither dropped when a text is cleaned nor a mark to cut at. -/
def isSolid (c : Char) : Bool := 0x20 < c.toNat && c ≠ '#' && c ≠ '?'

/-- Solid characters are not trimmed. -/
theorem not_isPadding_of_isSolid {c : Char} (h : isSolid c) : ¬ isPadding c := by
  simp only [isSolid, Bool.and_eq_true, decide_eq_true_eq] at h
  simp only [isPadding, decide_eq_true_eq]
  omega

/-- What is behind a host: nothing, or a path, a query or a fragment. -/
def EndsPlace (tail : List Char) : Prop := ∀ c ∈ tail.head?, c = '/' ∨ c = '?' ∨ c = '#'

/-- A tail that is cut off still ends the place before it. -/
theorem EndsPlace.of_prefix (h : EndsPlace tail) {tail' : List Char} (hsub : tail' <+: tail) :
    EndsPlace tail' := by
  obtain ⟨rest, rfl⟩ := hsub
  cases tail' with
  | nil => exact fun c hc => absurd hc (by simp)
  | cons c tail' => exact h

/-- The text in front of query and fragment. -/
def frontOf (cs : List Char) : List Char := (cut '?' (cut '#' (clean cs)).1).1

/-- Text without padding holds no line ends and no tabs. -/
theorem filter_eq_self_of_not_isPadding (h : ∀ c ∈ cs, ¬ isPadding c) :
    cs.filter (fun c => c ≠ '\t' && c ≠ '\n' && c ≠ '\r') = cs := by
  refine List.filter_eq_self.mpr fun c hc => ?_
  have hne (d : Char) (hd : d.toNat ≤ 0x20) : c ≠ d := by
    rintro rfl
    exact h c hc (by simpa [isPadding] using hd)
  simp [hne '\t' (by decide), hne '\n' (by decide), hne '\r' (by decide)]

/-- The front of a text stays as it is, and what is left of a path, a query or a fragment behind it is
the path. -/
theorem exists_frontOf_eq (hne : front ≠ []) (hsolid : ∀ c ∈ front, isSolid c)
    (tail : List Char) :
    ∃ tail', frontOf (front ++ tail) = front ++ tail' ∧
      (EndsPlace tail → ∀ c ∈ tail'.head?, c = '/') := by
  have hpadding : ∀ c ∈ front, ¬ isPadding c := fun c hc => not_isPadding_of_isSolid (hsolid c hc)
  have htrim := trimEnd_append (fun c hc => hpadding c (List.mem_of_getLast? hc)) tail
  have hprefix := isPrefix_trimEnd isPadding tail
  generalize (tail.reverse.dropWhile isPadding).reverse = tail₁ at htrim hprefix
  have hstart : (front ++ tail).dropWhile isPadding = front ++ tail := by
    obtain ⟨c, rest, rfl⟩ := List.exists_cons_of_ne_nil hne
    rw [List.cons_append, List.dropWhile_cons_of_neg (hpadding c List.mem_cons_self)]
  have hkept := filter_eq_self_of_not_isPadding hpadding
  have hmark (mark : Char) (hm : isSolid mark = false) (rest : List Char) :
      (front ++ rest).takeWhile (· ≠ mark) = front ++ rest.takeWhile (· ≠ mark) := by
    refine List.takeWhile_append_of_pos fun c hc => ?_
    simp only [ne_eq, decide_eq_true_eq]
    rintro rfl
    exact absurd (hsolid c hc) (by simp [hm])
  refine ⟨((tail₁.filter fun c => c ≠ '\t' && c ≠ '\n' && c ≠ '\r').takeWhile (· ≠ '#')).takeWhile
    (· ≠ '?'), ?_, fun hends => ?_⟩
  · simp only [frontOf, cut_fst, clean, hstart, htrim, List.filter_append, hkept]
    rw [hmark '#' (by decide), hmark '?' (by decide)]
  · have hends₁ := hends.of_prefix hprefix
    cases tail₁ with
    | nil => simp
    | cons c tail₁ =>
        rcases hends₁ c rfl with rfl | rfl | rfl <;> simp

/-! ### What reading a URL takes -/

/-- The schemes of URLs that are fetched. -/
def webSchemes : List (List Char) := [['h', 't', 't', 'p'], ['h', 't', 't', 'p', 's']]

/-- The schemes of the web are special, and their URLs have hosts. -/
theorem isSpecial_of_mem_webSchemes {scheme : List Char} (h : scheme ∈ webSchemes) :
    Scheme.isSpecial scheme ∧ scheme ≠ Scheme.file := by
  rw [webSchemes, List.mem_cons, List.mem_singleton] at h
  rcases h with rfl | rfl <;> decide

/-- In a special scheme, hosts are read as such. -/
theorem parse_of_hostOf {scheme : List Char} {hasPort : Bool} {host : Host}
    (h : hostOf scheme cs hasPort = .ok host) (hspecial : Scheme.isSpecial scheme) :
    Host.parse cs = .ok host := by
  simp only [hostOf, hspecial, if_true] at h
  split at h
  · exact absurd h (by simp)
  · exact eq_ok_of_mapError_eq_ok h

/-- What an authority is put together from: the user in front of the last at sign, a host and perhaps a
port. With a port and without one, these are the same parts. -/
theorem exists_of_authorityOf {scheme left : List Char} {more : Bool} {authority : Authority}
    (h : authorityOf scheme cs more = .ok (authority, left)) :
    ∃ name hasPort host port, hostOf scheme name hasPort = .ok host ∧
      (port = none ∨ ∃ digits, portOf scheme digits = .ok (port, left)) ∧
      authority =
        { username := (userOf ((splitUser cs).getD ([], cs)).1).1
          password := (userOf ((splitUser cs).getD ([], cs)).1).2
          host, port } := by
  unfold authorityOf at h
  simp only at h
  split at h
  · exact absurd h (by simp)
  · obtain ⟨host, hhost, h⟩ := exists_of_bind_eq_ok h
    split at h
    all_goals
      obtain ⟨⟨port, left'⟩, hport, h⟩ := exists_of_bind_eq_ok h
      split at h
      · exact absurd h (by simp)
      obtain ⟨rfl, rfl⟩ := Prod.mk.inj (Except.ok.inj h)
      refine ⟨_, _, host, port, hhost, ?_, rfl⟩
    · exact .inl (Prod.mk.inj (Except.ok.inj hport)).1.symm
    · exact .inr ⟨_, hport⟩

/-- The authority of a special scheme is at a host, and its user is what stands in front of the last at
sign. -/
theorem authorityOf_eq_ok {scheme : List Char} {more : Bool} {authority : Authority}
    {left : List Char} (h : authorityOf scheme cs more = .ok (authority, left))
    (hspecial : Scheme.isSpecial scheme) :
    authority.host.IsPlace ∧
      (authority.username, authority.password) = userOf ((splitUser cs).getD ([], cs)).1 := by
  obtain ⟨_, _, host, port, hhost, -, rfl⟩ := exists_of_authorityOf h
  exact ⟨Host.isPlace_of_parse (parse_of_hostOf hhost hspecial), rfl⟩

/-- A path that is read has segments. -/
theorem exists_pathOf_eq {scheme : List Char} (cs : List Char) :
    ∃ segments, pathOf scheme cs = .segments segments := by
  unfold pathOf
  cases cs with
  | nil => exact ⟨_, rfl⟩
  | cons c cs => exact ⟨_, rfl⟩

/-- **Behind a scheme of the web** there is an authority, up to the first slash, and a path. -/
theorem behindScheme_eq_ok {scheme : List Char} {marks : Bool} {authority : Option Authority}
    {path : Path} (h : behindScheme scheme cs marks = .ok (authority, path))
    (hweb : scheme ∈ webSchemes) :
    ∃ known more left behind,
      authorityOf scheme ((cs.dropWhile (isSlash true)).takeWhile fun c => !isSlash true c) more =
        .ok (known, left) ∧
      authority = some known ∧ path = pathOf scheme behind := by
  obtain ⟨hspecial, hfile⟩ := isSpecial_of_mem_webSchemes hweb
  simp only [behindScheme, if_neg hfile, hspecial, if_true, behindSlashes] at h
  obtain ⟨⟨known, known'⟩, hknown, h⟩ := exists_of_bind_eq_ok h
  obtain ⟨⟨authority', left⟩, hauthority, hknown⟩ := exists_of_bind_eq_ok hknown
  obtain ⟨rfl, rfl⟩ := Prod.mk.inj (Except.ok.inj hknown)
  obtain ⟨rfl, rfl⟩ := Prod.mk.inj (Except.ok.inj h)
  exact ⟨_, _, _, _, hauthority, rfl, rfl⟩

/-- **What a URL is read from**: its scheme, what stands behind it, its query and its fragment. -/
theorem parseChars_eq_ok {url : Url} (h : parseChars cs = .ok url) :
    ∃ rest marks query fragment, scheme? (frontOf cs) = some (url.scheme, rest) ∧
      behindScheme url.scheme rest marks = .ok (url.authority, url.path) ∧
      url.query = Option.map
        (Percent.encode (Percent.inQuery (Scheme.isSpecial url.scheme))) query ∧
      url.fragment = Option.map (Percent.encode Percent.inFragment) fragment := by
  simp only [parseChars] at h
  split at h
  · exact absurd h (by simp)
  · next scheme rest hscheme =>
      obtain ⟨⟨authority, path⟩, hresult, h⟩ := exists_of_bind_eq_ok h
      obtain rfl := Except.ok.inj h
      exact ⟨rest, _, _, _, hscheme, hresult, rfl, rfl⟩

/-! ### URLs that were read -/

/-- Schemes are ASCII. -/
theorem toNat_lt_of_isSchemeChar {c : Char} (h : isSchemeChar c) : c.toNat < 0x80 := by
  unfold isSchemeChar Char.isAlphanum Char.isAlpha Char.isUpper Char.isLower Char.isDigit at h
  simp only [Bool.or_eq_true, Bool.and_eq_true, decide_eq_true_eq, UInt32.le_iff_toNat_le] at h
  rcases h with (((((⟨-, h⟩ | ⟨-, h⟩) | ⟨-, h⟩) | rfl) | rfl) | rfl)
  · exact lt_of_le_of_lt h (by decide)
  · exact lt_of_le_of_lt h (by decide)
  · exact lt_of_le_of_lt h (by decide)
  · decide
  · decide
  · decide

/-- Characters of schemes end nothing, and their lower case is one of them. -/
theorem isSchemeChar_cases {c : Char} (h : isSchemeChar c) :
    isSolid c ∧ c ≠ ':' ∧ isSchemeChar c.toLower ∧ c.toLower.toLower = c.toLower := by
  obtain ⟨n, hn, rfl⟩ := Text.exists_ofNat_eq (toNat_lt_of_isSchemeChar h)
  revert n
  decide

/-- What is known of a URL that was read: its scheme is in lower case, and if it is one that is fetched
the URL is at a host. -/
structure IsRead (url : Url) : Prop where
  scheme : ∀ c ∈ url.scheme, isSchemeChar c ∧ c.toLower = c
  place : url.scheme ∈ webSchemes → ∃ authority segments, url.authority = some authority ∧
    authority.host.IsPlace ∧ url.path = .segments segments

/-- A scheme stands in front of the first colon, and is kept in small letters. -/
theorem scheme?_eq_some {scheme rest : List Char} (h : scheme? cs = some (scheme, rest)) :
    ∃ raw, Text.Split.once [':'] cs = some (raw, rest) ∧ (∀ c ∈ raw, isSchemeChar c) ∧
      scheme = raw.map Char.toLower := by
  simp only [scheme?, Option.bind_eq_bind, Option.bind_eq_some_iff, Option.pure_def,
    Option.some.injEq, Option.guard_eq_some', Bool.and_eq_true] at h
  obtain ⟨⟨raw, rest'⟩, honce, -, ⟨-, hall⟩, heq⟩ := h
  obtain ⟨rfl, rfl⟩ := Prod.mk.inj heq
  exact ⟨raw, honce, List.all_eq_true.mp hall, rfl⟩

/-- **Reading** gives a URL whose parts can be told apart when it is written. -/
theorem isRead_of_parse {s : String} {url : Url} (h : parse s = .ok url) : url.IsRead := by
  obtain ⟨rest, marks, -, -, hscheme, hbehind, -⟩ := parseChars_eq_ok h
  obtain ⟨raw, -, hraw, heq⟩ := scheme?_eq_some hscheme
  refine ⟨fun c hc => ?_, fun hweb => ?_⟩
  · rw [heq] at hc
    obtain ⟨d, hd, rfl⟩ := List.mem_map.mp hc
    obtain ⟨-, -, hlower, hsame⟩ := isSchemeChar_cases (hraw d hd)
    exact ⟨hlower, hsame⟩
  · obtain ⟨known, more, left, behind, hknown, hauthority, hpath⟩ :=
      behindScheme_eq_ok hbehind hweb
    obtain ⟨hplace, -⟩ := authorityOf_eq_ok hknown (isSpecial_of_mem_webSchemes hweb).1
    obtain ⟨segments, hsegments⟩ := exists_pathOf_eq behind
    exact ⟨known, segments, hauthority, hplace, hpath.trans hsegments⟩

/-- A URL at another port keeps its scheme, its user and its host. -/
theorem atPort?_eq_some {url url' : Url} {port : Nat} (h : url.atPort? port = some url') :
    ∃ authority, url.authority = some authority ∧
      url' =
        { scheme := url.scheme
          authority := some { authority with port := Scheme.normalPort url.scheme port }
          path := rootPath url.scheme } := by
  simp only [atPort?, Option.bind_eq_bind, Option.bind_eq_some_iff, Option.pure_def,
    Option.some.injEq, Option.guard_eq_some'] at h
  obtain ⟨authority, hauthority, -, -, rfl⟩ := h
  exact ⟨authority, hauthority, rfl⟩

/-- A URL at another port is one that could have been read. -/
theorem isRead_of_atPort? {url url' : Url} {port : Nat} (h : url.IsRead)
    (hport : url.atPort? port = some url') : url'.IsRead := by
  obtain ⟨authority, hauthority, rfl⟩ := atPort?_eq_some hport
  refine ⟨h.scheme, fun hweb => ?_⟩
  obtain ⟨known, -, hknown, hplace, -⟩ := h.place hweb
  obtain rfl := Option.some.inj (hauthority.symm.trans hknown)
  exact ⟨_, _, rfl, hplace, rfl⟩

/-! ### Endpoints -/

/-- No user name and no password stand in a URL. -/
def IsPlain (url : Url) : Prop := ∀ authority ∈ url.authority, authority.userInfo = []

/-- An authority without a user is written without characters that would end it. -/
theorem isPlaceChar_of_mem_authority {authority : Authority} (hplace : authority.host.IsPlace)
    (huser : authority.userInfo = []) {c : Char} (hc : c ∈ authority.text) : isPlaceChar c := by
  rw [Authority.text, huser, List.nil_append, List.mem_append] at hc
  rcases hc with hc | hc
  · exact hplace.2 c hc
  · split at hc
    · rcases List.mem_cons.mp hc with rfl | hc
      · decide
      · exact isPlaceChar_of_mem_toDigits (by decide) (by decide) hc
    · exact absurd hc List.not_mem_nil

/-- A path, a query and a fragment end the place before them. -/
theorem endsPlace_of_segments (segments : List (List Char)) (query fragment : Option (List Char)) :
    EndsPlace ((Path.segments segments).text ++
      (match query with
        | some query => '?' :: query
        | none => []) ++
      (match fragment with
        | some fragment => '#' :: fragment
        | none => [])) := by
  intro c hc
  cases segments with
  | cons segment segments => exact .inl (by simpa [Path.text] using hc.symm)
  | nil =>
      cases query with
      | some query => exact .inr (.inl (by simpa [Path.text] using hc.symm))
      | none =>
          cases fragment with
          | some fragment => exact .inr (.inr (by simpa [Path.text] using hc.symm))
          | none => exact absurd hc (by simp [Path.text])

/-- A URL to be fetched, as it is written: the host stands between two slashes and what is behind
it. -/
theorem exists_chars_eq {url : Url} (h : url.IsRead) (hplain : url.IsPlain)
    (hweb : url.scheme ∈ webSchemes) :
    ∃ place tail, url.chars = (url.scheme ++ ':' :: '/' :: '/' :: place) ++ tail ∧ place ≠ [] ∧
      (∀ c ∈ place, isPlaceChar c) ∧ EndsPlace tail := by
  obtain ⟨authority, segments, hauthority, hplace, hpath⟩ := h.place hweb
  have huser := hplain authority hauthority
  refine ⟨authority.text, _, ?_, ?_, fun c => isPlaceChar_of_mem_authority hplace huser,
    endsPlace_of_segments segments url.query url.fragment⟩
  · cases hquery : url.query <;> cases hfragment : url.fragment <;>
      simp only [chars, guardText, hauthority, hpath, hquery, hfragment, List.append_assoc,
        List.cons_append, List.nil_append]
  · rw [Authority.text, huser, List.nil_append]
    exact fun hnil => hplace.1 (List.append_eq_nil_iff.mp hnil).1

/-- A path put behind a URL leaves alone what does not end in a slash. -/
theorem exists_join_eq {base : Url} {path : String} (hchars : base.chars = front ++ tail)
    (hlast : ∀ c ∈ front.getLast?, c ≠ '/') (hpath : path.toList.head? = some '/') :
    ∃ tail', (base.join path).toList = front ++ tail' ∧ (EndsPlace tail → EndsPlace tail') := by
  have htrim := trimEnd_append (p := (· = '/')) (fun c hc => by simpa using hlast c hc) tail
  have hprefix := isPrefix_trimEnd (· = '/') tail
  generalize (tail.reverse.dropWhile (· = '/')).reverse = tail₁ at htrim hprefix
  refine ⟨tail₁ ++ path.toList, ?_, fun hends c hc => ?_⟩
  · rw [join, String.toList_ofList, hchars, htrim, List.append_assoc]
  · cases tail₁ with
    | nil =>
        rw [List.nil_append, hpath] at hc
        exact .inl (Option.some.inj hc).symm
    | cons d tail₁ => exact hends.of_prefix hprefix c hc

/-- Characters of places are not trimmed, and neither divide a path nor end a user. -/
theorem isSolid_of_isPlaceChar {c : Char} (h : isPlaceChar c) : isSolid c ∧ c ≠ '/' ∧ c ≠ '@' := by
  simp only [isPlaceChar, Bool.and_eq_true, decide_eq_true_eq, List.mem_cons, List.not_mem_nil,
    or_false, not_or] at h
  obtain ⟨hprintable, hmark, hslash, hquery, hat, -⟩ := h
  exact ⟨by simp [isSolid, hprintable, hmark, hquery], hslash, hat⟩

/-- Characters of places are slashes of neither kind. -/
theorem not_isSlash_of_isPlaceChar {c : Char} (h : isPlaceChar c) : ¬ isSlash true c := by
  simp only [isPlaceChar, Bool.and_eq_true, decide_eq_true_eq, List.mem_cons, List.not_mem_nil,
    or_false, not_or] at h
  simp [isSlash, h.2.2.1, h.2.2.2.2.2]

/-- The scheme of a text that begins with one. -/
theorem scheme?_append_cons {scheme rest scheme' rest' : List Char}
    (h : ∀ c ∈ scheme, isSchemeChar c ∧ c.toLower = c)
    (hread : scheme? (scheme ++ ':' :: rest) = some (scheme', rest')) :
    scheme' = scheme ∧ rest' = rest := by
  obtain ⟨raw, honce, -, rfl⟩ := scheme?_eq_some hread
  rw [Text.Split.once_append_cons fun hc => (isSchemeChar_cases (h ':' hc).1).2.1 rfl] at honce
  obtain ⟨rfl, rfl⟩ := Prod.mk.inj (Option.some.inj honce)
  refine ⟨?_, rfl⟩
  conv_rhs => rw [← List.map_id scheme]
  exact List.map_congr_left fun c hc => (h c hc).2

/-- The double slash is skipped, and what stands behind it goes up to the next slash. -/
theorem slashes_eq {place rest : List Char} (hne : place ≠ [])
    (hplace : ∀ c ∈ place, ¬ isSlash true c) (hrest : ∀ c ∈ rest.head?, c = '/') :
    ('/' :: '/' :: (place ++ rest)).dropWhile (isSlash true) = place ++ rest ∧
      (place ++ rest).takeWhile (fun c => !isSlash true c) = place ∧
      (place ++ rest).dropWhile (fun c => !isSlash true c) = rest := by
  have hstop : ∀ c ∈ place, !isSlash true c := fun c hc => by simpa using hplace c hc
  refine ⟨?_, ?_, ?_⟩
  · obtain ⟨c, place, rfl⟩ := List.exists_cons_of_ne_nil hne
    rw [List.dropWhile_cons_of_pos rfl, List.dropWhile_cons_of_pos rfl, List.cons_append,
      List.dropWhile_cons_of_neg (hplace c List.mem_cons_self)]
  · rw [List.takeWhile_append_of_pos hstop]
    cases rest with
    | nil => rw [List.takeWhile_nil, List.append_nil]
    | cons c rest =>
        obtain rfl := hrest c rfl
        rw [List.takeWhile_cons_of_neg (by decide), List.append_nil]
  · rw [List.dropWhile_append_of_pos hstop]
    cases rest with
    | nil => rfl
    | cons c rest =>
        obtain rfl := hrest c rfl
        exact List.dropWhile_cons_of_neg (by decide)

/-- A text with a host and no at sign before the end of the host names no user. -/
theorem isPlain_of_behindScheme {scheme place rest : List Char} {marks : Bool}
    {authority : Option Authority} {path : Path} (hweb : scheme ∈ webSchemes) (hne : place ≠ [])
    (hplace : ∀ c ∈ place, isPlaceChar c) (hrest : ∀ c ∈ rest.head?, c = '/')
    (h : behindScheme scheme ('/' :: '/' :: (place ++ rest)) marks = .ok (authority, path)) :
    ∀ known ∈ authority, known.userInfo = [] := by
  obtain ⟨known, more, left, -, hknown, rfl, -⟩ := behindScheme_eq_ok h hweb
  obtain ⟨hskip, hhost, -⟩ :=
    slashes_eq hne (fun c hc => not_isSlash_of_isPlaceChar (hplace c hc)) hrest
  have huser : splitUser place = none := by
    rw [splitUser, Text.Split.once_eq_none, Option.map_none]
    exact fun hat => (isSolid_of_isPlaceChar (hplace '@' (List.mem_reverse.mp hat))).2.2 rfl
  rw [hskip, hhost] at hknown
  obtain ⟨-, huserOf⟩ := authorityOf_eq_ok hknown (isSpecial_of_mem_webSchemes hweb).1
  rw [huser] at huserOf
  obtain ⟨hname, hpassword⟩ := Prod.mk.inj huserOf
  intro known' hknown'
  obtain rfl := Option.some.inj hknown'
  have hname : known.username = [] := hname
  have hpassword : known.password = [] := hpassword
  rw [Authority.userInfo, hname, hpassword]
  rfl

/-- Characters of schemes are not trimmed. -/
theorem IsRead.isSolid_of_mem_scheme {url : Url} (h : url.IsRead) {c : Char} (hc : c ∈ url.scheme) :
    isSolid c :=
  (isSchemeChar_cases (h.scheme c hc).1).1

/-- An endpoint is read with the scheme of its URL. -/
theorem scheme_eq_of_parse_join {base url : Url} {path : String} (hread : base.IsRead)
    (hpath : path.toList.head? = some '/') (h : parse (base.join path) = .ok url) :
    url.scheme = base.scheme := by
  obtain ⟨rest', marks, -, -, hscheme, -⟩ := parseChars_eq_ok h
  obtain ⟨rest, hchars⟩ : ∃ rest, base.chars = (base.scheme ++ [':']) ++ rest :=
    ⟨_, List.append_cons base.scheme ':' _⟩
  have hsolid : ∀ c ∈ base.scheme ++ [':'], isSolid c := by
    intro c hc
    rcases List.mem_append.mp hc with hc | hc
    · exact hread.isSolid_of_mem_scheme hc
    · rw [List.mem_singleton.mp hc]
      decide
  obtain ⟨tail, htext, -⟩ := exists_join_eq hchars (by simp) hpath
  obtain ⟨tail', hfront, -⟩ := exists_frontOf_eq (by simp) hsolid tail
  rw [htext, hfront, List.append_assoc] at hscheme
  exact (scheme?_append_cons hread.scheme hscheme).1

/-- **Endpoints** at a URL without a user are read again without one, whatever their path holds. The
scheme is kept, so what is read is at a host again. -/
theorem isPlain_of_parse_join {base url : Url} {path : String} (hread : base.IsRead)
    (hplain : base.IsPlain) (hpath : path.toList.head? = some '/')
    (h : parse (base.join path) = .ok url) (hweb : url.scheme ∈ webSchemes) : url.IsPlain := by
  obtain ⟨rest', marks, -, -, hscheme, hbehind, -⟩ := parseChars_eq_ok h
  rw [scheme_eq_of_parse_join hread hpath h] at hweb hbehind hscheme
  obtain ⟨place, tail, hchars, hne, hplace, hends⟩ := exists_chars_eq hread hplain hweb
  have hlast : ∀ c ∈ (base.scheme ++ ':' :: '/' :: '/' :: place).getLast?, c ≠ '/' := by
    intro c hc
    rw [List.append_cons, List.append_cons, List.append_cons,
      List.getLast?_append_of_ne_nil _ hne] at hc
    exact (isSolid_of_isPlaceChar (hplace c (List.mem_of_getLast? hc))).2.1
  have hsolid : ∀ c ∈ base.scheme ++ ':' :: '/' :: '/' :: place, isSolid c := by
    intro c hc
    simp only [List.mem_append, List.mem_cons] at hc
    rcases hc with hc | rfl | rfl | rfl | hc
    · exact hread.isSolid_of_mem_scheme hc
    · decide
    · decide
    · decide
    · exact (isSolid_of_isPlaceChar (hplace c hc)).1
  obtain ⟨tail₁, htext, hends₁⟩ := exists_join_eq hchars hlast hpath
  obtain ⟨tail₂, hfront, hslash⟩ := exists_frontOf_eq (by simp) hsolid tail₁
  rw [htext, hfront, List.append_assoc] at hscheme
  obtain ⟨-, rfl⟩ := scheme?_append_cons hread.scheme hscheme
  exact isPlain_of_behindScheme hweb hne hplace (hslash (hends₁ hends)) hbehind

end Url

end Switchboard.Net
