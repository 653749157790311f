import Switchboard.Proofs.Net.NormalUrls

/-!
# URLs with a path put behind them

A path is put behind the text of a URL, and not behind its path. What this text means is said by
`Url.extend`: the path goes on with the last part that is written, which is the path of the URL only if
the URL has neither a query nor a fragment. In any case the scheme and the authority stay the same.

The path that is put behind is written with letters, digits, hyphens, underscores and slashes, none of
which is encoded in any part of a URL or makes up a dot segment.

## Main results

* `parse_join`: what is read from a URL with a path behind it.
-/

namespace Switchboard.Net.Url

open Percent (inFragment inQuery isKept)

/-- A text without the slashes at its end. -/
def trimSlashes (cs : List Char) : List Char := (cs.reverse.dropWhile (· = '/')).reverse

/-- Characters of the paths that are put behind URLs. -/
def isPathChar (c : Char) : Bool := c.isAlphanum || c ∈ ['-', '_', '/']

/-- The URL that goes on with a path. -/
def extend (base : Url) (path : List Char) : Url :=
  match base.fragment, base.query with
  | some fragment, _ => { base with fragment := some (trimSlashes fragment ++ path) }
  | none, some query => { base with query := some (trimSlashes query ++ path) }
  | none, none =>
    let text := trimSlashes base.path.text ++ path
    { base with path := .segments (text.tail.splitOn '/') }

variable {base : Url} {path front tail : List Char}

/-- Behind a URL with a fragment, a path goes on with the fragment. -/
theorem extend_fragment {fragment : List Char} (hfragment : base.fragment = some fragment) :
    base.extend path = { base with fragment := some (trimSlashes fragment ++ path) } := by
  rw [extend, hfragment]

/-- Behind a URL with a query but no fragment, it goes on with the query. -/
theorem extend_query {query : List Char} (hfragment : base.fragment = none)
    (hquery : base.query = some query) :
    base.extend path = { base with query := some (trimSlashes query ++ path) } := by
  rw [extend, hfragment, hquery]

/-- Otherwise it goes on with the path. -/
theorem extend_path (hfragment : base.fragment = none) (hquery : base.query = none) :
    base.extend path =
      { base with
        path := .segments ((trimSlashes base.path.text ++ path).tail.splitOn '/') } := by
  rw [extend, hfragment, hquery]

/-! ### Slashes at the end -/

/-- Slashes at the end are those behind the last other character. -/
theorem trimSlashes_append (hlast : ∀ c ∈ front.getLast?, c ≠ '/') (tail : List Char) :
    trimSlashes (front ++ tail) = front ++ trimSlashes tail :=
  trimEnd_append (fun c hc => by simpa using hlast c hc) tail

/-- In front of a character that is no slash, none is dropped. -/
theorem trimSlashes_append_cons {c : Char} (hc : c ≠ '/') (front tail : List Char) :
    trimSlashes (front ++ c :: tail) = front ++ c :: trimSlashes tail := by
  rw [List.append_cons, trimSlashes_append (by simpa using hc), ← List.append_cons]

/-- What is dropped is slashes. -/
theorem exists_eq_trimSlashes_append (cs : List Char) :
    ∃ slashes, cs = trimSlashes cs ++ slashes ∧ ∀ c ∈ slashes, c = '/' := by
  refine ⟨(cs.reverse.takeWhile (· = '/')).reverse, ?_, fun c hc => ?_⟩
  · rw [trimSlashes, ← List.reverse_append, List.takeWhile_append_dropWhile, List.reverse_reverse]
  · simpa using List.mem_takeWhile_imp (List.mem_reverse.mp hc)

/-! ### Text between slashes -/

/-- A text with segments between its slashes. -/
def HasSegments (cs : List Char) : Prop := ∀ segment ∈ cs.splitOn '/', IsSegment segment

/-- A slash divides segments. -/
theorem hasSegments_append_cons :
    HasSegments (front ++ '/' :: tail) ↔ HasSegments front ∧ HasSegments tail := by
  simp only [HasSegments, List.splitOn_append_cons_self, List.forall_mem_append]

/-- Dropping slashes at the end drops empty segments only. -/
theorem hasSegments_trimSlashes {cs : List Char} (h : HasSegments cs) :
    HasSegments (trimSlashes cs) := by
  obtain ⟨slashes, heq, hslashes⟩ := exists_eq_trimSlashes_append cs
  cases slashes with
  | nil =>
      rw [List.append_nil] at heq
      exact heq ▸ h
  | cons c slashes =>
      obtain rfl := hslashes c List.mem_cons_self
      rw [heq] at h
      exact (hasSegments_append_cons.mp h).1

/-- A path that is written has the segments it was written from. -/
theorem hasSegments_text {segments : List (List Char)} (hne : segments ≠ [])
    (h : ∀ segment ∈ segments, IsSegment segment) :
    HasSegments (Path.segments segments).text := by
  have hslash : ∀ segment ∈ segments, '/' ∉ segment := fun segment hsegment hc =>
    (isSegmentChar_cases ((h segment hsegment).chars '/' hc)).2.2.1 rfl
  rw [text_segments hne, ← List.nil_append ('/' :: _), hasSegments_append_cons]
  refine ⟨List.forall_mem_singleton.mpr isSegment_nil, ?_⟩
  rwa [HasSegments, List.splitOn_intercalate '/' hslash hne]

/-- A text that begins with a slash is the path of its segments. -/
theorem text_splitOn {cs : List Char} (h : cs.head? = some '/') :
    (Path.segments (cs.tail.splitOn '/')).text = cs := by
  cases cs with
  | nil => exact absurd h (by simp)
  | cons c cs =>
      obtain rfl : c = '/' := Option.some.inj h
      rw [text_segments (List.splitOn_ne_nil _ _), List.tail_cons, List.intercalate_splitOn]

/-! ### Paths put behind -/

/-- Dot segments are written with points and percent signs. -/
theorem exists_mem_of_isDot {segment : List Char}
    (h : isSingleDot segment ∨ isDoubleDot segment) :
    ∃ c ∈ segment, c.toLower = '.' ∨ c.toLower = '%' := by
  have hmem : '.' ∈ segment.map Char.toLower ∨ '%' ∈ segment.map Char.toLower := by
    rcases h with h | h
    · simp only [isSingleDot, decide_eq_true_eq, List.mem_cons, List.not_mem_nil, or_false] at h
      rcases h with h | h <;> rw [h] <;> decide
    · simp only [isDoubleDot, decide_eq_true_eq, List.mem_cons, List.not_mem_nil, or_false] at h
      rcases h with h | h | h | h <;> rw [h] <;> decide
  rcases hmem with hmem | hmem <;> obtain ⟨c, hc, heq⟩ := List.mem_map.mp hmem
  · exact ⟨c, hc, .inl heq⟩
  · exact ⟨c, hc, .inr heq⟩

/-- Characters of configured paths stand for themselves in a query, in a fragment and in a segment,
and make up no segment of points. -/
theorem isPathChar_cases {c : Char} (h : isPathChar c) :
    isKept (inQuery true) c ∧ isKept inFragment c ∧ (c ≠ '/' → isSegmentChar c) ∧
      c.toLower ≠ '.' ∧ c.toLower ≠ '%' := by
  have hascii : c.toNat < 0x80 := by
    have hcases := h
    simp only [isPathChar, Bool.or_eq_true, decide_eq_true_eq, List.mem_cons, List.not_mem_nil,
      or_false] at hcases
    rcases hcases with halpha | rfl | rfl | rfl
    · exact toNat_lt_of_isSchemeChar (by simp [isSchemeChar, halpha])
    · decide
    · decide
    · decide
  obtain ⟨n, hn, rfl⟩ := Text.exists_ofNat_eq hascii
  clear hascii
  revert n
  decide

/-- So a configured path has segments. -/
theorem hasSegments_of_isPathChar (h : ∀ c ∈ path, isPathChar c) : HasSegments path := by
  intro segment hsegment
  have hchar {c : Char} (hc : c ∈ segment) : isPathChar c ∧ c ≠ '/' := by
    rw [← Text.Split.all_eq_splitOn] at hsegment
    exact (Text.Split.mem_of_mem_all hsegment hc).imp_left (h c)
  have hdot : ¬ (isSingleDot segment ∨ isDoubleDot segment) := by
    intro hdot
    obtain ⟨c, hc, heq⟩ := exists_mem_of_isDot hdot
    obtain ⟨-, -, -, hpoint, hpercent⟩ := isPathChar_cases (hchar hc).1
    exact heq.elim hpoint hpercent
  exact ⟨fun c hc => (isPathChar_cases (hchar hc).1).2.2.1 (hchar hc).2,
    fun hsingle => hdot (.inl hsingle), fun hdouble => hdot (.inr hdouble)⟩

/-- The path of a URL goes on with a slash: what is left of it is empty, or begins with one. -/
theorem head?_trimSlashes_append (h : base.IsNormal) (hhead : path.head? = some '/') :
    (trimSlashes base.path.text ++ path).head? = some '/' := by
  obtain ⟨segments, hne, hsegments, -⟩ := h.path
  obtain ⟨rest, hrest⟩ := isPrefix_trimEnd (· = '/') base.path.text
  change trimSlashes base.path.text ++ rest = base.path.text at hrest
  cases htrim : trimSlashes base.path.text with
  | nil => exact hhead
  | cons c trimmed =>
      rw [htrim, hsegments, text_segments hne] at hrest
      exact congrArg some (List.cons.inj hrest).1

/-- It goes on with segments. -/
theorem hasSegments_trimSlashes_append (h : base.IsNormal) (hpath : ∀ c ∈ path, isPathChar c)
    (hhead : path.head? = some '/') : HasSegments (trimSlashes base.path.text ++ path).tail := by
  obtain ⟨segments, hne, hsegments, hall⟩ := h.path
  have hslash := head?_trimSlashes_append h hhead
  have htotal : HasSegments (trimSlashes base.path.text ++ path) := by
    have hfront := hasSegments_trimSlashes (hsegments ▸ hasSegments_text hne hall)
    cases path with
    | nil => exact absurd hhead (by simp)
    | cons c path =>
        obtain rfl : c = '/' := Option.some.inj hhead
        exact hasSegments_append_cons.mpr
          ⟨hfront, hasSegments_of_isPathChar (List.forall_mem_cons.mp hpath).2⟩
  cases htext : trimSlashes base.path.text ++ path with
  | nil => exact absurd hslash (by simp [htext])
  | cons c cs =>
      rw [htext] at hslash htotal
      obtain rfl : c = '/' := Option.some.inj hslash
      have hparts : HasSegments [] ∧ HasSegments cs := hasSegments_append_cons.mp htotal
      exact hparts.2

/-- **Going on** with a path gives a URL as it is kept. -/
theorem isNormal_extend (h : base.IsNormal) (hpath : ∀ c ∈ path, isPathChar c)
    (hhead : path.head? = some '/') : (base.extend path).IsNormal := by
  have htrim {cs : List Char} {special : Char → Bool} (hcs : ∀ c ∈ cs, isKept special c)
      (hkept : ∀ c, isPathChar c → isKept special c) :
      ∀ c ∈ trimSlashes cs ++ path, isKept special c := by
    intro c hc
    rcases List.mem_append.mp hc with hc | hc
    · exact hcs c ((isPrefix_trimEnd _ _).mem hc)
    · exact hkept c (hpath c hc)
  cases hfragment : base.fragment with
  | some fragment =>
      rw [extend_fragment hfragment]
      refine { h with fragment := ?_ }
      rintro _ ⟨⟩
      exact htrim (h.fragment fragment hfragment) fun c hc => (isPathChar_cases hc).2.1
  | none =>
      cases hquery : base.query with
      | some query =>
          rw [extend_query hfragment hquery]
          refine { h with query := ?_ }
          rintro _ ⟨⟩
          exact htrim (h.query query hquery) fun c hc => (isPathChar_cases hc).1
      | none =>
          rw [extend_path hfragment hquery]
          exact { h with
            path := ⟨_, List.splitOn_ne_nil _ _, rfl, hasSegments_trimSlashes_append h hpath hhead⟩ }

/-- The path goes on with the last part that is written. -/
theorem trimSlashes_chars_append (h : base.IsNormal) (hhead : path.head? = some '/') :
    trimSlashes base.chars ++ path = (base.extend path).chars := by
  obtain ⟨authority, hauthority, hnormal⟩ := h.authority
  have hhead := head?_trimSlashes_append h hhead
  obtain ⟨scheme, known, basePath, query, fragment⟩ := base
  obtain rfl : known = some authority := hauthority
  cases fragment with
  | some fragment =>
      rw [extend_fragment rfl, chars_mk, chars_mk]
      simp only [marked]
      rw [trimSlashes_append_cons (by decide), List.append_assoc, List.cons_append]
  | none =>
      cases query with
      | some query =>
          rw [extend_query rfl rfl, chars_mk, chars_mk]
          simp only [marked, List.append_nil]
          rw [trimSlashes_append_cons (by decide), List.append_assoc, List.cons_append]
      | none =>
          have hlast : ∀ c ∈ (scheme ++ ':' :: '/' :: '/' :: authority.text).getLast?, c ≠ '/' := by
            intro c hc
            rw [List.append_cons, List.append_cons, List.append_cons,
              List.getLast?_append_of_ne_nil _ (text_ne_nil hnormal)] at hc
            rintro rfl
            exact (isSolid_of_mem_text hnormal _ (List.mem_of_getLast? hc)).2 rfl
          have hsplit (path : List Char) : scheme ++ ':' :: '/' :: '/' :: (authority.text ++ path) =
              (scheme ++ ':' :: '/' :: '/' :: authority.text) ++ path := by
            simp only [List.append_assoc, List.cons_append]
          rw [extend_path rfl rfl, chars_mk, chars_mk]
          simp only [marked, List.append_nil, hsplit]
          rw [trimSlashes_append hlast, List.append_assoc, text_splitOn hhead]

/-- **A path behind a URL** is written behind all that there is of it. -/
theorem toList_join {path : String} (h : base.IsNormal) (hhead : path.toList.head? = some '/') :
    (base.join path).toList = (base.extend path.toList).chars := by
  rw [join, String.toList_ofList]
  exact trimSlashes_chars_append h hhead

/-- **A URL with a path behind it** is read as the URL that goes on with the path. -/
theorem parse_join {path : String} (h : base.IsNormal) (hpath : ∀ c ∈ path.toList, isPathChar c)
    (hhead : path.toList.head? = some '/') :
    parse (base.join path) = .ok (base.extend path.toList) := by
  rw [parse, toList_join h hhead, parseChars_chars (isNormal_extend h hpath hhead)]

/-- A URL that goes on with a path: with the scheme, the user, the host and the port of the base, and
with its path as long as nothing is written behind that. A fragment takes the path in, or else a
query. -/
structure Extends (base : Url) (path : List Char) (url : Url) : Prop where
  scheme : url.scheme = base.scheme
  authority : url.authority = base.authority
  pathText : url.path.text =
    if base.query = none ∧ base.fragment = none then trimSlashes base.path.text ++ path
    else base.path.text
  query : url.query =
    if base.fragment = none then base.query.map (trimSlashes · ++ path) else base.query
  fragment : url.fragment = base.fragment.map (trimSlashes · ++ path)

/-- What a URL with a path behind it keeps, and what it is written as. -/
theorem extends_extend (h : base.IsNormal) (hhead : path.head? = some '/') :
    Extends base path (base.extend path) := by
  cases hfragment : base.fragment with
  | some fragment =>
      rw [extend_fragment hfragment]
      exact ⟨rfl, rfl, by simp [hfragment], by simp [hfragment], by simp [hfragment]⟩
  | none =>
      cases hquery : base.query with
      | some query =>
          rw [extend_query hfragment hquery]
          exact ⟨rfl, rfl, by simp [hquery], by simp [hfragment, hquery], by simp [hfragment]⟩
      | none =>
          have htext := text_splitOn (head?_trimSlashes_append h hhead)
          rw [extend_path hfragment hquery]
          exact ⟨rfl, rfl, by simp [hfragment, hquery, htext], by simp [hquery], by simp [hfragment]⟩

/-- A path put behind a base is read as a URL that goes on with it. -/
theorem exists_extends {path : String} (h : base.IsNormal)
    (hpath : ∀ c ∈ path.toList, isPathChar c) (hhead : path.toList.head? = some '/') :
    ∃ url, parse (base.join path) = .ok url ∧ Extends base path.toList url :=
  ⟨_, parse_join h hpath hhead, extends_extend h hhead⟩

end Switchboard.Net.Url
