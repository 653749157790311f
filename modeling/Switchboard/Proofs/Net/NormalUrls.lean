import Switchboard.Proofs.Net.Addresses
import Switchboard.Proofs.Net.Endpoints

/-!
# URLs are read back

A URL that was read is kept in a normal form: every part is encoded where it has to be, the host is
written as hosts are, the default port is left out and dot segments are resolved. Such a URL is read
back from its text. The parts are told apart by marks that do not occur in the parts before them, none
of them is encoded a second time, and no segment is resolved again.

This is said of the schemes of the web.

## Main results

* `isNormal_of_parse`, `isNormal_of_atPort?`: URLs that are read or derived are normal.
* `parse_text`: normal URLs are read back.
-/

namespace Switchboard.Net

open Percent (encode inFragment inPath inQuery inUserInfo isKept)

/-! ### Normal forms -/

/-- A user, a host and a port as they are kept. -/
structure Authority.IsNormal (scheme : List Char) (authority : Authority) : Prop where
  username : ∀ c ∈ authority.username, isKept inUserInfo c
  password : ∀ c ∈ authority.password, isKept inUserInfo c
  host : authority.host.IsNormal
  place : authority.host.IsPlace
  port : ∀ port ∈ authority.port, port ≤ 65535 ∧ Scheme.normalPort scheme port = some port

namespace Url

/-- Characters of segments as they are kept. -/
def isSegmentChar (c : Char) : Bool := isKept inPath c && c ≠ '/' && c ≠ '\\'

/-- A segment as it is kept. -/
structure IsSegment (segment : List Char) : Prop where
  chars : ∀ c ∈ segment, isSegmentChar c
  singleDot : ¬ isSingleDot segment
  doubleDot : ¬ isDoubleDot segment

/-- A URL of the web as it is kept. -/
structure IsNormal (url : Url) : Prop where
  scheme : url.scheme ∈ webSchemes
  authority : ∃ authority, url.authority = some authority ∧ authority.IsNormal url.scheme
  path : ∃ segments, segments ≠ [] ∧ url.path = .segments segments ∧
    ∀ segment ∈ segments, IsSegment segment
  query : ∀ query ∈ url.query, ∀ c ∈ query, isKept (inQuery true) c
  fragment : ∀ fragment ∈ url.fragment, ∀ c ∈ fragment, isKept inFragment c

/-! ### Paths that were read -/

/-- A segment may be empty. -/
theorem isSegment_nil : IsSegment [] := ⟨List.forall_mem_nil _, by decide, by decide⟩

/-- Going up gives no new segments. -/
theorem mem_of_mem_shorten {path : List (List Char)} {segment : List Char}
    (h : segment ∈ shorten path) : segment ∈ path := by
  unfold shorten at h
  split at h
  · exact h
  · exact List.mem_of_mem_dropLast h

/-- Dot segments are resolved, and the others stay as they are. -/
theorem isSegment_of_mem_resolve {path texts : List (List Char)}
    (hpath : ∀ segment ∈ path, IsSegment segment)
    (htexts : ∀ text ∈ texts, ∀ c ∈ text, isSegmentChar c) :
    ∀ segment ∈ resolve false path texts, IsSegment segment := by
  induction texts generalizing path with
  | nil => exact hpath
  | cons text texts ih =>
      obtain ⟨htext, htexts⟩ := List.forall_mem_cons.mp htexts
      have hconcat {path : List (List Char)} {last : List Char}
          (hpath : ∀ segment ∈ path, IsSegment segment) (hlast : IsSegment last) :
          ∀ segment ∈ path ++ [last], IsSegment segment := fun segment h =>
        (List.mem_append.mp h).elim (hpath segment) fun h => List.mem_singleton.mp h ▸ hlast
      have hshorten : ∀ segment ∈ shorten path, IsSegment segment := fun segment h =>
        hpath segment (mem_of_mem_shorten h)
      rw [resolve]
      split
      · split
        · exact hconcat hshorten isSegment_nil
        · exact ih hshorten htexts
      · next hdouble =>
          split
          · split
            · exact hconcat hpath isSegment_nil
            · exact ih hpath htexts
          · next hsingle => exact ih (hconcat hpath ⟨htext, hsingle, hdouble⟩) htexts

/-- Resolving points leaves at least one segment. -/
theorem resolve_ne_nil {path texts : List (List Char)} (h : texts ≠ [] ∨ path ≠ []) :
    resolve false path texts ≠ [] := by
  induction texts generalizing path with
  | nil => exact h.resolve_left (fun hne => hne rfl)
  | cons text texts ih =>
      rw [resolve]
      split
      · split
        · exact List.append_ne_nil_of_right_ne_nil _ (List.cons_ne_nil _ _)
        · next hne => exact ih (.inl (by simpa using hne))
      · split
        · split
          · exact List.append_ne_nil_of_right_ne_nil _ (List.cons_ne_nil _ _)
          · next hne => exact ih (.inl (by simpa using hne))
        · exact ih (.inr (List.append_ne_nil_of_right_ne_nil _ (List.cons_ne_nil _ _)))

/-- Segments that are kept are not resolved again. -/
theorem resolve_eq_append {texts : List (List Char)} (h : ∀ text ∈ texts, IsSegment text)
    (path : List (List Char)) : resolve false path texts = path ++ texts := by
  induction texts generalizing path with
  | nil => rw [resolve, List.append_nil]
  | cons text texts ih =>
      obtain ⟨htext, htexts⟩ := List.forall_mem_cons.mp h
      rw [resolve, if_neg htext.doubleDot, if_neg htext.singleDot, ih htexts, List.append_assoc]
      rfl

/-- Slashes of the web are between segments. -/
theorem isSegmentChar_of_isKept {c : Char} (hslash : (if isSlash true c then '/' else c) ≠ '/')
    (hkept : isKept inPath (if isSlash true c then '/' else c)) :
    isSegmentChar (if isSlash true c then '/' else c) := by
  by_cases hc : isSlash true c
  · rw [if_pos hc] at hslash
    exact absurd rfl hslash
  · rw [if_neg hc] at hkept ⊢
    simp only [isSlash, Bool.true_and, Bool.or_eq_true, decide_eq_true_eq, not_or] at hc
    simp [isSegmentChar, hkept, hc]

/-- **The path** of a URL of the web is not empty, and its segments are in their normal form. -/
theorem isSegment_of_mem_segmentsOf {scheme : List Char} (hweb : scheme ∈ webSchemes)
    (cs : List Char) :
    segmentsOf scheme cs ≠ [] ∧ ∀ segment ∈ segmentsOf scheme cs, IsSegment segment := by
  obtain ⟨hspecial, hfile⟩ := isSpecial_of_mem_webSchemes hweb
  simp only [segmentsOf, hspecial, hfile, decide_false]
  refine ⟨resolve_ne_nil (.inl ?_), isSegment_of_mem_resolve (List.forall_mem_nil _) ?_⟩
  · rw [Text.Split.all_eq_splitOn]
    exact fun hnil => List.splitOn_ne_nil _ _ (List.map_eq_nil_iff.mp hnil)
  · intro text htext
    obtain ⟨piece, hpiece, rfl⟩ := List.mem_map.mp htext
    refine Percent.forall_mem_encode (fun c hc hkept => ?_) (by decide) (by decide)
    obtain ⟨hmem, hslash⟩ := Text.Split.mem_of_mem_all hpiece hc
    obtain ⟨d, -, rfl⟩ := List.mem_map.mp hmem
    exact isSegmentChar_of_isKept hslash hkept

/-- The path of a URL of the web has segments. -/
theorem exists_pathOf_eq_segments {scheme : List Char} (hweb : scheme ∈ webSchemes)
    (cs : List Char) :
    ∃ segments, segments ≠ [] ∧ pathOf scheme cs = .segments segments ∧
      ∀ segment ∈ segments, IsSegment segment := by
  cases cs with
  | nil =>
      refine ⟨[[]], List.cons_ne_nil _ _, ?_, List.forall_mem_singleton.mpr isSegment_nil⟩
      rw [pathOf, rootPath, if_pos (isSpecial_of_mem_webSchemes hweb).1]
  | cons c cs =>
      obtain ⟨hne, hall⟩ := isSegment_of_mem_segmentsOf hweb
        (if isSlash (Scheme.isSpecial scheme) c then cs else c :: cs)
      refine ⟨_, hne, ?_, hall⟩
      rw [pathOf, apply_ite (segmentsOf scheme)]

/-! ### Authorities that were read -/

/-- What is read of a user is escaped. -/
theorem isKept_userOf (cs : List Char) :
    (∀ c ∈ (userOf cs).1, isKept inUserInfo c) ∧ ∀ c ∈ (userOf cs).2, isKept inUserInfo c :=
  ⟨Percent.isKept_of_mem_encode (by decide) (by decide),
    Percent.isKept_of_mem_encode (by decide) (by decide)⟩

/-- A port that is kept is kept again. -/
theorem normalPort_eq_some {scheme : List Char} {port known : Nat}
    (h : Scheme.normalPort scheme port = some known) :
    port = known ∧ Scheme.normalPort scheme known = some known := by
  have hsame : port = known := by
    unfold Scheme.normalPort at h
    split at h
    · cases h
    · exact Option.some.inj h
  exact ⟨hsame, hsame ▸ h⟩

/-- A port that is kept is in range, and is not the one of the scheme. -/
theorem portOf_eq_ok {scheme cs left : List Char} {port : Option Nat}
    (h : portOf scheme cs = .ok (port, left)) :
    ∀ known ∈ port, known ≤ 65535 ∧ Scheme.normalPort scheme known = some known := by
  intro known hknown
  unfold portOf at h
  simp only at h
  split_ifs at h with hleft hnone hrange
  · obtain ⟨rfl, -⟩ := Prod.mk.inj (Except.ok.inj h)
    cases hknown
  · obtain ⟨rfl, -⟩ := Prod.mk.inj (Except.ok.inj h)
    obtain ⟨rfl, hnormal⟩ := normalPort_eq_some hknown
    exact ⟨Nat.not_lt.mp hrange, hnormal⟩

/-- **An authority** that is read is in its normal form. -/
theorem isNormal_of_authorityOf {scheme cs left : List Char} {more : Bool} {authority : Authority}
    (h : authorityOf scheme cs more = .ok (authority, left)) (hspecial : Scheme.isSpecial scheme) :
    authority.IsNormal scheme := by
  obtain ⟨name, hasPort, host, port, hhost, hport, rfl⟩ := exists_of_authorityOf h
  obtain ⟨hname, hpassword⟩ := isKept_userOf ((splitUser cs).getD ([], cs)).1
  have hparse := parse_of_hostOf hhost hspecial
  refine ⟨hname, hpassword, Host.isNormal_of_parse hparse, Host.isPlace_of_parse hparse, ?_⟩
  rcases hport with rfl | ⟨digits, hdigits⟩
  · exact fun _ hnone => absurd hnone (Option.not_mem_none _)
  · exact portOf_eq_ok hdigits

/-! ### URLs that were read -/

/-- **Reading** gives a URL in its normal form. -/
theorem isNormal_of_parse {s : String} {url : Url} (h : parse s = .ok url)
    (hweb : url.scheme ∈ webSchemes) : url.IsNormal := by
  obtain ⟨hspecial, -⟩ := isSpecial_of_mem_webSchemes hweb
  obtain ⟨rest, marks, query, fragment, -, hbehind, hquery, hfragment⟩ := parseChars_eq_ok h
  obtain ⟨known, more, left, behind, hknown, hauthority, hpath⟩ := behindScheme_eq_ok hbehind hweb
  obtain ⟨segments, hne, hsegments, hall⟩ := exists_pathOf_eq_segments hweb behind
  refine ⟨hweb, ⟨known, hauthority, isNormal_of_authorityOf hknown hspecial⟩,
    ⟨segments, hne, hpath.trans hsegments, hall⟩, fun part hpart => ?_, fun part hpart => ?_⟩
  · rw [hquery, hspecial] at hpart
    obtain ⟨raw, -, rfl⟩ := Option.map_eq_some_iff.mp hpart
    exact Percent.isKept_of_mem_encode (by decide) (by decide)
  · rw [hfragment] at hpart
    obtain ⟨raw, -, rfl⟩ := Option.map_eq_some_iff.mp hpart
    exact Percent.isKept_of_mem_encode (by decide) (by decide)

/-- A URL at another port is in its normal form. -/
theorem isNormal_of_atPort? {url url' : Url} {port : Nat} (h : url.IsNormal)
    (hport : url.atPort? port = some url') (hrange : port ≤ 65535) : url'.IsNormal := by
  obtain ⟨authority, hauthority, rfl⟩ := atPort?_eq_some hport
  obtain ⟨known, hknown, hnormal⟩ := h.authority
  obtain rfl := Option.some.inj (hauthority.symm.trans hknown)
  refine ⟨h.scheme, ⟨_, rfl, { hnormal with port := ?_ }⟩, ?_,
    fun _ hnone => absurd hnone (Option.not_mem_none _),
    fun _ hnone => absurd hnone (Option.not_mem_none _)⟩
  · intro known hknown
    obtain ⟨rfl, hsame⟩ := normalPort_eq_some hknown
    exact ⟨hrange, hsame⟩
  · refine ⟨[[]], List.cons_ne_nil _ _, ?_, List.forall_mem_singleton.mpr isSegment_nil⟩
    exact congrArg Path.segments (if_pos (isSpecial_of_mem_webSchemes h.scheme).1)

/-! ### Marks -/

/-- What stands behind a mark, with the mark in front of it. -/
def marked (mark : Char) : Option (List Char) → List Char
  | some cs => mark :: cs
  | none => []

/-- What is known of a mark and of what is kept behind it. -/
theorem forall_mem_marked {p : Char → Prop} {mark : Char} {part : Option (List Char)}
    (hmark : p mark) (hpart : ∀ cs ∈ part, ∀ c ∈ cs, p c) : ∀ c ∈ marked mark part, p c := by
  cases part with
  | none => exact List.forall_mem_nil _
  | some cs => exact List.forall_mem_cons.mpr ⟨hmark, hpart cs rfl⟩

/-- A mark is found where it was written. -/
theorem cut_append_marked {mark : Char} {front : List Char} (h : mark ∉ front)
    (behind : Option (List Char)) : cut mark (front ++ marked mark behind) = (front, behind) := by
  cases behind with
  | some cs => rw [marked, cut, Text.Split.once_append_cons h]
  | none => rw [marked, List.append_nil, cut, Text.Split.once_eq_none h]

/-- Text without padding is kept when it is cleaned. -/
theorem clean_eq_self {cs : List Char} (h : ∀ c ∈ cs, ¬ isPadding c) : clean cs = cs := by
  have hdrop {cs : List Char} (h : ∀ c ∈ cs, ¬ isPadding c) : cs.dropWhile isPadding = cs := by
    cases cs with
    | nil => rfl
    | cons c cs => exact List.dropWhile_cons_of_neg (h c List.mem_cons_self)
  unfold clean
  simp only
  rw [hdrop h, hdrop fun c hc => h c (List.mem_reverse.mp hc), List.reverse_reverse]
  exact filter_eq_self_of_not_isPadding h

/-! ### Authorities are read back -/

/-- The user and the password as they are written. -/
def userText (authority : Authority) : List Char :=
  authority.username ++
    marked ':' (if authority.password.isEmpty then none else some authority.password)

/-- The host and the port as they are written. -/
def placeText (authority : Authority) : List Char :=
  authority.host.text ++ marked ':' (authority.port.map (Nat.toDigits 10))

/-- A user is written with an at sign, unless there is none. -/
theorem userInfo_eq (authority : Authority) :
    authority.userInfo = if userText authority = [] then [] else userText authority ++ ['@'] := by
  obtain ⟨username, password, host, port⟩ := authority
  rw [Authority.userInfo, userText]
  cases username <;> cases password <;> simp [marked]

/-- An authority is written as its user and its place. -/
theorem text_authority (authority : Authority) :
    authority.text = authority.userInfo ++ placeText authority := by
  obtain ⟨username, password, host, port⟩ := authority
  cases port <;> exact List.append_assoc _ _ _

section Authorities

variable {scheme : List Char} {authority : Authority}

/-- Characters of users end nothing. -/
theorem isUserChar_of_isKept {c : Char} (h : isKept inUserInfo c) : isPlaceChar c ∧ c ≠ ':' := by
  obtain ⟨n, hn, rfl⟩ := Text.exists_ofNat_eq (Percent.toNat_lt_of_isKept h)
  revert n
  decide

/-- A user is written without characters that would end it. -/
theorem isPlaceChar_of_mem_userText (h : authority.IsNormal scheme) :
    ∀ c ∈ userText authority, isPlaceChar c := by
  refine List.forall_mem_append.mpr ⟨fun c hc => (isUserChar_of_isKept (h.username c hc)).1,
    forall_mem_marked (by decide) fun password hpassword c hc => ?_⟩
  split at hpassword
  · cases hpassword
  · obtain rfl := Option.some.inj hpassword
    exact (isUserChar_of_isKept (h.password c hc)).1

/-- A host and its port are written without characters that would end them. -/
theorem isPlaceChar_of_mem_placeText (h : authority.IsNormal scheme) :
    ∀ c ∈ placeText authority, isPlaceChar c := by
  refine List.forall_mem_append.mpr ⟨h.place.2,
    forall_mem_marked (by decide) fun digits hdigits c hc => ?_⟩
  obtain ⟨port, -, rfl⟩ := Option.map_eq_some_iff.mp hdigits
  exact isPlaceChar_of_mem_toDigits (by decide) (by decide) hc

/-- A host is not empty. -/
theorem placeText_ne_nil (h : authority.IsNormal scheme) : placeText authority ≠ [] :=
  fun hnil => h.place.1 (List.append_eq_nil_iff.mp hnil).1

/-- An authority ends at the next slash or mark. -/
theorem isSolid_of_mem_text (h : authority.IsNormal scheme) :
    ∀ c ∈ authority.text, isSolid c ∧ ¬ isSlash true c := by
  have hplace {c : Char} (hc : isPlaceChar c) : isSolid c ∧ ¬ isSlash true c :=
    ⟨(isSolid_of_isPlaceChar hc).1, not_isSlash_of_isPlaceChar hc⟩
  intro c hc
  rw [text_authority, userInfo_eq, List.mem_append] at hc
  rcases hc with hc | hc
  · split at hc
    · exact absurd hc List.not_mem_nil
    · rcases List.mem_append.mp hc with hc | hc
      · exact hplace (isPlaceChar_of_mem_userText h c hc)
      · rw [List.mem_singleton.mp hc]
        decide
  · exact hplace (isPlaceChar_of_mem_placeText h c hc)

/-- An authority is not empty. -/
theorem text_ne_nil (h : authority.IsNormal scheme) : authority.text ≠ [] := by
  rw [text_authority]
  exact List.append_ne_nil_of_right_ne_nil _ (placeText_ne_nil h)

/-- The user ends at the at sign. -/
theorem splitUser_text (h : authority.IsNormal scheme) :
    (splitUser authority.text).getD ([], authority.text) =
      (userText authority, placeText authority) := by
  have hat : '@' ∉ (placeText authority).reverse := fun hmem =>
    absurd (isPlaceChar_of_mem_placeText h '@' (List.mem_reverse.mp hmem)) (by decide)
  rw [text_authority, userInfo_eq]
  by_cases huser : userText authority = []
  · rw [if_pos huser, List.nil_append, splitUser, Text.Split.once_eq_none hat, huser]
    rfl
  · have hreverse : (userText authority ++ ['@'] ++ placeText authority).reverse =
        (placeText authority).reverse ++ '@' :: (userText authority).reverse := by
      simp
    rw [if_neg huser, splitUser, hreverse, Text.Split.once_append_cons hat]
    simp only [Option.map_some, Option.getD_some, List.reverse_reverse]

/-- **A user** is read back. -/
theorem userOf_userText (h : authority.IsNormal scheme) :
    userOf (userText authority) = (authority.username, authority.password) := by
  have hcolon : ':' ∉ authority.username := fun hmem =>
    (isUserChar_of_isKept (h.username ':' hmem)).2 rfl
  have hpassword : (if authority.password.isEmpty then none else some authority.password).getD [] =
      authority.password := by
    cases authority.password <;> rfl
  rw [userOf, userText, cut_append_marked hcolon]
  simp only [hpassword, Percent.encode_eq_self h.username, Percent.encode_eq_self h.password]

/-- **A port** is read back. -/
theorem portOf_toDigits (h : authority.IsNormal scheme) {port : Nat}
    (hport : authority.port = some port) :
    portOf scheme (Nat.toDigits 10 port) = .ok (some port, []) := by
  obtain ⟨hrange, hnormal⟩ := h.port port hport
  have hdigits (c : Char) (hc : c ∈ Nat.toDigits 10 port) : c.isDigit :=
    Nat.isDigit_of_mem_toDigits (by decide) (by decide) hc
  have htake : (Nat.toDigits 10 port).takeWhile Char.isDigit = Nat.toDigits 10 port :=
    List.takeWhile_eq_self_iff.mpr hdigits
  have hdrop : (Nat.toDigits 10 port).dropWhile Char.isDigit = [] :=
    List.dropWhile_eq_nil_iff.mpr hdigits
  have hne : ¬ (Nat.toDigits 10 port).isEmpty := by simp [Nat.toDigits_ne_nil]
  unfold portOf
  simp only [htake, hdrop, Text.Whole.decimal_toDigits]
  rw [if_neg (by decide), if_neg hne, if_neg (Nat.not_lt.mpr hrange), hnormal]

/-- **A host** is read back. -/
theorem hostOf_text (h : authority.IsNormal scheme) (hspecial : Scheme.isSpecial scheme)
    (hasPort : Bool) : hostOf scheme authority.host.text hasPort = .ok authority.host := by
  have hne : ¬ (authority.host.text.isEmpty && (Scheme.isSpecial scheme || hasPort)) := by
    simp [h.place.1]
  unfold hostOf
  simp only
  rw [if_neg hne, if_pos hspecial, Host.parse_text h.host]
  rfl

/-- **Authorities** are read back. -/
theorem authorityOf_text (h : authority.IsNormal scheme) (hspecial : Scheme.isSpecial scheme)
    (more : Bool) : authorityOf scheme authority.text more = .ok (authority, []) := by
  have hstart : StartsPort (marked ':' (authority.port.map (Nat.toDigits 10))) := by
    intro c hc
    cases hport : authority.port <;> rw [hport] at hc
    · exact absurd hc (by simp [marked])
    · exact (Option.some.inj hc).symm
  have hnone : authority.host ≠ Host.none := by
    intro heq
    exact h.place.1 (heq ▸ rfl)
  unfold authorityOf
  simp only [splitUser_text h, userOf_userText h]
  rw [if_neg (by simp [placeText_ne_nil h]), placeText, Host.splitPort_text h.host hstart]
  simp only [hostOf_text h hspecial]
  have hguard (b : Bool) : ¬ (decide (authority.host = Host.none) && b) := by simp [hnone]
  cases hport : authority.port with
  | none =>
      simp only [Option.map_none, marked, bind, Except.bind]
      rw [if_neg (hguard _), ← hport]
      rfl
  | some port =>
      simp only [Option.map_some, marked, bind, Except.bind, portOf_toDigits h hport]
      rw [if_neg (hguard _), ← hport]
      rfl

end Authorities

/-! ### Paths are read back -/

/-- A path is written with a slash in front of each segment. -/
theorem text_segments {segments : List (List Char)} (hne : segments ≠ []) :
    (Path.segments segments).text = '/' :: ['/'].intercalate segments := by
  induction segments with
  | nil => exact absurd rfl hne
  | cons segment segments ih =>
      cases segments with
      | nil => simp [Path.text]
      | cons next segments =>
          rw [List.intercalate_cons_cons, List.append_assoc, List.singleton_append,
            ← ih (List.cons_ne_nil _ _)]
          rfl

/-- Characters of segments are kept, are not trimmed, and divide no path. -/
theorem isSegmentChar_cases {c : Char} (h : isSegmentChar c) :
    isKept inPath c ∧ isSolid c ∧ c ≠ '/' ∧ ¬ isSlash true c := by
  have hascii : c.toNat < 0x80 := by
    simp only [isSegmentChar, Bool.and_eq_true] at h
    exact Percent.toNat_lt_of_isKept h.1.1
  obtain ⟨n, hn, rfl⟩ := Text.exists_ofNat_eq hascii
  clear hascii
  revert n
  decide

section Paths

variable {scheme : List Char} {segments : List (List Char)}

/-- So a written path is not trimmed. -/
theorem isSolid_of_mem_path (h : ∀ segment ∈ segments, IsSegment segment) :
    ∀ c ∈ (Path.segments segments).text, isSolid c := by
  intro c hc
  obtain ⟨segment, hsegment, hc⟩ := List.mem_flatMap.mp hc
  rcases List.mem_cons.mp hc with rfl | hc
  · decide
  · exact (isSegmentChar_cases ((h segment hsegment).chars c hc)).2.1

/-- **Paths** are read back. -/
theorem pathOf_text (hweb : scheme ∈ webSchemes) (hne : segments ≠ [])
    (h : ∀ segment ∈ segments, IsSegment segment) :
    pathOf scheme (Path.segments segments).text = .segments segments := by
  obtain ⟨hspecial, hfile⟩ := isSpecial_of_mem_webSchemes hweb
  have hchar {segment : List Char} (hsegment : segment ∈ segments) {c : Char} (hc : c ∈ segment) :=
    isSegmentChar_cases ((h segment hsegment).chars c hc)
  have hslashes : (['/'].intercalate segments).map (fun c => if isSlash true c then '/' else c) =
      ['/'].intercalate segments := by
    conv_rhs => rw [← List.map_id (['/'].intercalate segments)]
    refine List.map_congr_left fun c hc => ?_
    rcases Text.mem_of_mem_intercalate hc with hc | ⟨segment, hsegment, hc⟩
    · rw [List.mem_singleton.mp hc]
      rfl
    · exact if_neg (hchar hsegment hc).2.2.2
  have hencode : segments.map (Percent.encode inPath) = segments := by
    conv_rhs => rw [← List.map_id segments]
    exact List.map_congr_left fun segment hsegment =>
      Percent.encode_eq_self fun c hc => (hchar hsegment hc).1
  have hsplit : (['/'].intercalate segments).splitOn '/' = segments :=
    List.splitOn_intercalate '/' (fun segment hsegment hc => (hchar hsegment hc).2.2.1 rfl) hne
  rw [text_segments hne, pathOf, if_pos (by rfl), segmentsOf]
  simp only [hspecial, hfile, decide_false, hslashes, Text.Split.all_eq_splitOn, hsplit, hencode]
  rw [resolve_eq_append h, List.nil_append]

end Paths

/-! ### URLs are read back -/

/-- **A scheme** of the web is read back. -/
theorem scheme?_of_mem_webSchemes {scheme : List Char} (hweb : scheme ∈ webSchemes)
    (rest : List Char) : scheme? (scheme ++ ':' :: rest) = some (scheme, rest) := by
  have hscheme : ':' ∉ scheme ∧ scheme.map Char.toLower = scheme ∧
      ((scheme.head?.map Char.isAlpha).getD false && scheme.all isSchemeChar) = true := by
    rw [webSchemes, List.mem_cons, List.mem_singleton] at hweb
    rcases hweb with rfl | rfl <;> decide
  obtain ⟨hcolon, hlower, hchars⟩ := hscheme
  simp only [scheme?, Text.Split.once_append_cons hcolon, Option.bind_eq_bind, Option.bind_some,
    guard, if_pos hchars, hlower]
  rfl

/-- What is behind the scheme is read back. -/
theorem behindScheme_text {scheme : List Char} {authority : Authority}
    {segments : List (List Char)} (hweb : scheme ∈ webSchemes)
    (hauthority : authority.IsNormal scheme) (hne : segments ≠ [])
    (hsegments : ∀ segment ∈ segments, IsSegment segment) (marks : Bool) :
    behindScheme scheme ('/' :: '/' :: (authority.text ++ (Path.segments segments).text)) marks =
      .ok (some authority, .segments segments) := by
  obtain ⟨hspecial, hfile⟩ := isSpecial_of_mem_webSchemes hweb
  have hhead : ∀ c ∈ (Path.segments segments).text.head?, c = '/' := by
    rw [text_segments hne]
    exact fun c hc => (Option.some.inj hc).symm
  obtain ⟨hskip, htake, hdrop⟩ := slashes_eq (text_ne_nil hauthority)
    (fun c hc => (isSolid_of_mem_text hauthority c hc).2) hhead
  unfold behindScheme behindSlashes
  simp only [if_neg hfile, hspecial, if_true, hskip, htake, hdrop,
    authorityOf_text hauthority hspecial, bind, Except.bind, pure, Except.pure, List.nil_append,
    pathOf_text hweb hne hsegments]

/-- A URL with an authority, as it is written. -/
theorem chars_mk (scheme : List Char) (authority : Authority) (path : Path)
    (query fragment : Option (List Char)) :
    chars ⟨scheme, some authority, path, query, fragment⟩ =
      scheme ++ ':' :: '/' :: '/' :: (authority.text ++ path.text) ++ marked '?' query ++
        marked '#' fragment := by
  cases query <;> cases fragment <;> simp [chars, guardText, marked]

/-- A URL that is known to have an authority, as it is written. -/
theorem chars_eq {url : Url} {authority : Authority} (h : url.authority = some authority) :
    url.chars = url.scheme ++ ':' :: '/' :: '/' :: (authority.text ++ url.path.text) ++
      marked '?' url.query ++ marked '#' url.fragment := by
  obtain ⟨scheme, known, path, query, fragment⟩ := url
  obtain rfl := h
  exact chars_mk scheme authority path query fragment

/-- Characters of queries are not trimmed, and end no query. -/
theorem not_isPadding_of_isKept_inQuery {c : Char} (h : isKept (inQuery true) c) :
    ¬ isPadding c ∧ c ≠ '#' := by
  obtain ⟨n, hn, rfl⟩ := Text.exists_ofNat_eq (Percent.toNat_lt_of_isKept h)
  revert n
  decide

/-- Characters of fragments are not trimmed. -/
theorem not_isPadding_of_isKept_inFragment {c : Char} (h : isKept inFragment c) : ¬ isPadding c := by
  obtain ⟨n, hn, rfl⟩ := Text.exists_ofNat_eq (Percent.toNat_lt_of_isKept h)
  revert n
  decide

/-- What stands before query and fragment is not trimmed. -/
theorem isSolid_of_mem_front {url : Url} {authority : Authority} (h : url.IsNormal)
    (hauthority : url.authority = some authority) :
    ∀ c ∈ url.scheme ++ ':' :: '/' :: '/' :: (authority.text ++ url.path.text), isSolid c := by
  have hscheme : ∀ c ∈ url.scheme, isSolid c := by
    have hweb := h.scheme
    rw [webSchemes, List.mem_cons, List.mem_singleton] at hweb
    rcases hweb with hweb | hweb <;> rw [hweb] <;> exact List.all_eq_true.mp (by decide)
  obtain ⟨known, hknown, hnormal⟩ := h.authority
  obtain rfl := Option.some.inj (hauthority.symm.trans hknown)
  obtain ⟨segments, -, hpath, hsegments⟩ := h.path
  intro c hc
  simp only [List.mem_append, List.mem_cons, hpath] at hc
  rcases hc with hc | rfl | rfl | rfl | hc | hc
  · exact hscheme c hc
  · decide
  · decide
  · decide
  · exact (isSolid_of_mem_text hnormal c hc).1
  · exact isSolid_of_mem_path hsegments c hc

/-- The parts of a text that are cut off and cleaned are those that were written. -/
theorem cut_chars {url : Url} {authority : Authority} (h : url.IsNormal)
    (hauthority : url.authority = some authority) :
    ∃ front, cut '#' (clean url.chars) = (front, url.fragment) ∧
      cut '?' front =
        (url.scheme ++ ':' :: '/' :: '/' :: (authority.text ++ url.path.text), url.query) := by
  have hfront := isSolid_of_mem_front h hauthority
  have hquery : ∀ c ∈ marked '?' url.query, ¬ isPadding c ∧ c ≠ '#' :=
    forall_mem_marked (by decide) fun query hquery c hc =>
      not_isPadding_of_isKept_inQuery (h.query query hquery c hc)
  have hfragment : ∀ c ∈ marked '#' url.fragment, ¬ isPadding c :=
    forall_mem_marked (by decide) fun fragment hfragment c hc =>
      not_isPadding_of_isKept_inFragment (h.fragment fragment hfragment c hc)
  have hpadding : ∀ c ∈ url.chars, ¬ isPadding c := by
    intro c hc
    rw [chars_eq hauthority, List.mem_append, List.mem_append] at hc
    rcases hc with (hc | hc) | hc
    · exact not_isPadding_of_isSolid (hfront c hc)
    · exact (hquery c hc).1
    · exact hfragment c hc
  refine ⟨_, ?_, cut_append_marked (fun hc => absurd (hfront '?' hc) (by decide)) url.query⟩
  rw [clean_eq_self hpadding, chars_eq hauthority]
  refine cut_append_marked (fun hc => ?_) url.fragment
  rcases List.mem_append.mp hc with hc | hc
  · exact absurd (hfront '#' hc) (by decide)
  · exact (hquery '#' hc).2 rfl

/-- What was escaped is not escaped again. -/
theorem map_encode_eq_self {special : Char → Bool} {part : Option (List Char)}
    (h : ∀ cs ∈ part, ∀ c ∈ cs, isKept special c) : part.map (Percent.encode special) = part := by
  cases part with
  | none => rfl
  | some cs => exact congrArg some (Percent.encode_eq_self (h cs rfl))

/-- **URLs** that were read are read back. -/
theorem parseChars_chars {url : Url} (h : url.IsNormal) : parseChars url.chars = .ok url := by
  obtain ⟨authority, hauthority, hnormal⟩ := h.authority
  obtain ⟨segments, hne, hpath, hsegments⟩ := h.path
  obtain ⟨front, hfragment, hquery⟩ := cut_chars h hauthority
  have hspecial := (isSpecial_of_mem_webSchemes h.scheme).1
  rw [hpath] at hquery
  unfold parseChars
  simp only [hfragment, hquery, scheme?_of_mem_webSchemes h.scheme,
    behindScheme_text h.scheme hnormal hne hsegments, hspecial, map_encode_eq_self h.query,
    map_encode_eq_self h.fragment, bind, Except.bind]
  rw [← hauthority, ← hpath]
  rfl

/-- **A URL** in its normal form is read back from its text. -/
theorem parse_text {url : Url} (h : url.IsNormal) : parse url.text = .ok url := by
  rw [parse, text, String.toList_ofList, parseChars_chars h]

end Url

end Switchboard.Net
