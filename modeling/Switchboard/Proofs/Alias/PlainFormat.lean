import Std.Data.String.ToNat
import Switchboard.Alias.Recognizer
import Switchboard.Proofs.Pattern.Reading

/-!
# What a plain format is compiled to

A format is plain when its literal text holds no character with a meaning in patterns.
The pattern of a plain format is read without faults, and its meaning is known in closed
form: `formatExpr` is the sequence of its letters, of a lazy wildcard for every
placeholder, of the trailer, and of the end of the text.

## Main results

* `tree_pattern`: the tree that the pattern of a plain format is read as.
* `ofTree_formatTree`: the meaning of this tree.
* `expr_of_compile`: the expression in the recognizer of a plain format.
-/

namespace Switchboard.Alias

/-- Plain segments: literal text holds no metacharacter. -/
def Segment.Plain : Segment → Prop
  | .literal text => ∀ c ∈ text, c ∉ Pattern.Parse.metacharacters
  | .placeholder _ => True

instance (segment : Segment) : Decidable segment.Plain :=
  match segment with
  | .literal text => List.decidableBAll (· ∉ Pattern.Parse.metacharacters) text
  | .placeholder _ => .isTrue trivial

/-- What a format is compiled to. -/
theorem Recognizer.exists_of_compile {owner format : String} {recognizer : Recognizer}
    (h : compile owner format = .ok recognizer) :
    ∃ compiled, Pattern.compile (Format.pattern format) = .ok compiled ∧
      recognizer = ⟨format, owner, Format.placeholders format, compiled⟩ := by
  unfold compile at h
  split at h
  · exact absurd h (by simp)
  · split at h
    · next compiled hcompile => exact ⟨compiled, hcompile, (Except.ok.inj h).symm⟩
    · exact absurd h (by simp)

namespace Format

open Pattern (Tree Expr Atom)
open Unicode (CharSet)
open Pattern.Parse (Frame Reads plainItems)

/-- **Plain formats**: no literal text of the format holds a metacharacter. -/
def Plain (format : String) : Prop := ∀ segment ∈ split format.toList, segment.Plain

instance (format : String) : Decidable (Plain format) :=
  inferInstanceAs (Decidable (∀ segment ∈ split format.toList, segment.Plain))

/-! ### The names of groups -/

/-- Groups are named by a letter and a number. -/
theorem toList_groupName (index : Nat) :
    (groupName index).toList = 'p' :: Nat.toDigits 10 index := by
  rw [groupName, String.toList_append]
  exact congrArg ('p' :: ·) Nat.toList_repr

/-- Different groups have different names. -/
theorem groupName_injective {i j : Nat} (h : groupName i = groupName j) : i = j := by
  have hlist := congrArg String.toList h
  rw [toList_groupName, toList_groupName] at hlist
  refine Nat.repr_injective (String.toList_inj.mp ?_)
  rw [Nat.toList_repr, Nat.toList_repr]
  exact (List.cons.inj hlist).2

/-- No value is taken for the trailer. -/
theorem groupName_ne_trailerName (index : Nat) : groupName index ≠ trailerName := by
  intro h
  have hlist := congrArg String.toList h
  rw [toList_groupName] at hlist
  exact absurd (List.cons.inj hlist).1 (by decide)

/-- Digits may stand in the name of a group. -/
theorem isNameChar_of_isDigit {c : Char} (h : c.isDigit) :
    Pattern.Parse.isNameChar false c := by
  have hdigits : ∀ n ∈ List.range' 48 10, Unicode.Property.isAlphanumeric n := by decide
  have hc : c.toNat ∈ List.range' 48 10 := by
    rw [List.mem_range'_1]
    simp only [Char.isDigit, Bool.and_eq_true, decide_eq_true_eq, ge_iff_le,
      UInt32.le_iff_toNat_le] at h
    exact ⟨h.1, Nat.lt_succ_of_le h.2⟩
  simp [Pattern.Parse.isNameChar, hdigits _ hc]

/-- The names of groups are names in the syntax of patterns. -/
theorem isName_groupName (index : Nat) : Pattern.Parse.IsName (groupName index).toList := by
  rw [toList_groupName]
  refine ⟨by decide, fun c hc => isNameChar_of_isDigit ?_⟩
  exact Nat.isDigit_of_mem_toDigits (by decide) (by decide) hc

/-- The names of the groups of placeholders before the one of the given number. -/
def NamedBelow (index : Nat) (names : List String) : Prop :=
  ∀ name ∈ names, ∃ i < index, name = groupName i

namespace NamedBelow

variable {index : Nat} {names : List String}

/-- No names are below any index. -/
theorem nil (index : Nat) : NamedBelow index [] := fun _ hname => absurd hname List.not_mem_nil

/-- The name for the next index comes in. -/
theorem cons (h : NamedBelow index names) :
    NamedBelow (index + 1) (groupName index :: names) := by
  intro name hname
  rcases List.mem_cons.mp hname with rfl | hname
  · exact ⟨index, by omega, rfl⟩
  · obtain ⟨i, hi, heq⟩ := h name hname
    exact ⟨i, by omega, heq⟩

/-- The name for the next index is new. -/
theorem groupName_not_mem (h : NamedBelow index names) : groupName index ∉ names := by
  intro hmem
  obtain ⟨i, hi, heq⟩ := h _ hmem
  have := groupName_injective heq
  omega

/-- The name of the trailer stays free. -/
theorem trailerName_not_mem (h : NamedBelow index names) : trailerName ∉ names := by
  intro hmem
  obtain ⟨i, -, heq⟩ := h _ hmem
  exact groupName_ne_trailerName i heq.symm

end NamedBelow

/-! ### Reading -/

/-- One or more characters of a line, as few as possible. -/
def wildcardTree : Tree := .repetition 1 none false .dot

/-- The items that some segments are read as, the first placeholder having the given number. -/
def segmentItems : (index : Nat) → List Segment → List Tree
  | _, [] => []
  | index, .literal text :: rest => plainItems text ++ segmentItems index rest
  | index, .placeholder _ :: rest =>
    .group (.named (groupName index)) wildcardTree :: segmentItems (index + 1) rest

/-- The class of the characters in keys and values. -/
def wordTree : Tree :=
  .brackets false (.union
    [.range ⟨'0', false⟩ ⟨'9', false⟩, .range ⟨'A', false⟩ ⟨'Z', false⟩,
      .range ⟨'a', false⟩ ⟨'z', false⟩, .literal ⟨'_', false⟩])

/-- A pair behind at most one blank. -/
def pairTree : Tree :=
  .concat
    [.repetition 0 (some 1) true (.perl .space false), .repetition 1 none true wordTree,
      .literal ⟨'=', false⟩, .repetition 1 none true wordTree]

/-- Blanks, and then pairs. -/
def trailerTree : Tree :=
  .group (.named trailerName) (.concat
    [.repetition 0 (some 1) true
        (.group (.flagged []) (.repetition 1 none true (.perl .space false))),
      .repetition 0 none true (.group (.flagged []) pairTree)])

/-- The tree of the pattern for some segments. -/
def formatTree (segments : List Segment) : Tree :=
  .concat (segmentItems 0 segments ++ [trailerTree, .assertion .endLine])

/-- The group of a placeholder. -/
theorem reads_groupPattern (stack : List Frame) (items : List Tree) {names : List String}
    {index : Nat} (hnew : groupName index ∉ names) (rest : List Char) :
    Reads ⟨stack, items, false, names⟩ (groupPattern index ++ rest)
      ⟨stack, .group (.named (groupName index)) wildcardTree :: items, false,
        groupName index :: names⟩ rest := by
  have hopening := Pattern.Parse.reads_opening stack items (isName_groupName index)
    (by rwa [String.ofList_toList]) ('.' :: '+' :: '?' :: ')' :: rest)
  rw [String.ofList_toList] at hopening
  have hpattern : groupPattern index ++ rest =
      '(' :: '?' :: 'P' :: '<' ::
        ((groupName index).toList ++ '>' :: '.' :: '+' :: '?' :: ')' :: rest) := by
    simp [groupPattern]
  rw [hpattern]
  exact hopening.trans ⟨3, by simp only [List.length_cons]; omega, fun fuel => rfl⟩

/-- The segments of a plain format. The names so far are those of the placeholders before. -/
theorem reads_patternFrom {segments : List Segment} (hplain : ∀ segment ∈ segments, segment.Plain)
    {index : Nat} (items : List Tree) {names : List String} (rest : List Char)
    (hnames : NamedBelow index names) :
    ∃ index' names', NamedBelow index' names' ∧
      Reads ⟨[], items, false, names⟩ (patternFrom index segments ++ rest)
        ⟨[], (segmentItems index segments).reverse ++ items, false, names'⟩ rest := by
  induction segments generalizing index items names with
  | nil => exact ⟨index, names, hnames, Reads.refl _ _⟩
  | cons segment segments ih =>
      obtain ⟨hsegment, hrest⟩ := List.forall_mem_cons.mp hplain
      cases segment with
      | literal text =>
          obtain ⟨index', names', hnames', hreads⟩ :=
            ih hrest ((plainItems text).reverse ++ items) hnames
          refine ⟨index', names', hnames', ?_⟩
          have hplainText := Pattern.Parse.reads_plain [] items names hsegment
            (patternFrom index segments ++ rest)
          simpa [patternFrom, segmentItems] using hplainText.trans hreads
      | placeholder inner =>
          obtain ⟨index', names', hnames', hreads⟩ := ih hrest
            (.group (.named (groupName index)) wildcardTree :: items) hnames.cons
          refine ⟨index', names', hnames', ?_⟩
          have hgroup := reads_groupPattern [] items hnames.groupName_not_mem
            (patternFrom (index + 1) segments ++ rest)
          simpa [patternFrom, segmentItems] using hgroup.trans hreads

/-- The trailer, behind other items. -/
theorem reads_trailerPattern (stack : List Frame) (items : List Tree) {names : List String}
    (hnew : trailerName ∉ names) :
    Reads ⟨stack, items, false, names⟩ trailerPattern
      ⟨stack, .assertion .endLine :: trailerTree :: items, false, trailerName :: names⟩ [] := by
  have hname : Pattern.Parse.IsName trailerName.toList :=
    ⟨by decide, List.all_eq_true.mp (by decide)⟩
  have hopening := Pattern.Parse.reads_opening stack items hname
    (by rwa [String.ofList_toList]) (trailerPattern.drop 12)
  rw [String.ofList_toList] at hopening
  have hpattern : trailerPattern =
      '(' :: '?' :: 'P' :: '<' :: (trailerName.toList ++ '>' :: trailerPattern.drop 12) := by
    decide
  rw [hpattern]
  exact hopening.trans ⟨17, by decide, fun fuel => rfl⟩

/-! ### Depth -/

/-- The nesting of items is that of the deepest one. -/
theorem depths_append (xs ys : List Tree) :
    Pattern.Parse.depths (xs ++ ys) = max (Pattern.Parse.depths xs) (Pattern.Parse.depths ys) := by
  induction xs with
  | nil => simp [Pattern.Parse.depths]
  | cons x xs ih => simp only [List.cons_append, Pattern.Parse.depths, ih, Nat.max_assoc]

/-- Letters are not nested. -/
theorem depths_plainItems (text : List Char) : Pattern.Parse.depths (plainItems text) = 0 := by
  induction text with
  | nil => rfl
  | cons c text ih =>
      simp only [plainItems, List.map_cons, Pattern.Parse.depths, Pattern.Parse.depth] at ih ⊢
      omega

/-- A placeholder nests two levels deep, a repetition within a group. -/
theorem depths_segmentItems_le (index : Nat) (segments : List Segment) :
    Pattern.Parse.depths (segmentItems index segments) ≤ 2 := by
  induction segments generalizing index with
  | nil => exact Nat.zero_le 2
  | cons segment segments ih =>
      cases segment with
      | literal text =>
          have := ih index
          rw [segmentItems, depths_append, depths_plainItems]
          omega
      | placeholder inner =>
          have := ih (index + 1)
          have hwildcard : Pattern.Parse.depth
              (.group (.named (groupName index)) wildcardTree) = 2 := rfl
          rw [segmentItems, Pattern.Parse.depths, hwildcard]
          omega

/-- **The limit of nesting** is far away from the pattern of a format. -/
theorem depth_formatTree_le (segments : List Segment) :
    Pattern.Parse.depth (formatTree segments) ≤ Pattern.nestLimit := by
  have hsegments := depths_segmentItems_le 0 segments
  have htrailer : Pattern.Parse.depths [trailerTree, .assertion .endLine] ≤ 10 := by decide
  rw [formatTree, Pattern.Parse.depth, depths_append, Pattern.nestLimit]
  omega

/-- At least two items stay a sequence. -/
theorem ofConcat_append (items : List Tree) (first second : Tree) :
    Tree.ofConcat (items ++ [first, second]) = .concat (items ++ [first, second]) := by
  cases items with
  | nil => rfl
  | cons item rest => cases rest <;> rfl

/-- **Reading.** The pattern of a plain format is read without faults. -/
theorem tree_pattern {format : String} (hplain : Plain format) :
    Pattern.Parse.tree (pattern format).toList = .ok (formatTree (split format.toList)) := by
  obtain ⟨index, names, hnames, hsegments⟩ :=
    reads_patternFrom hplain [] trailerPattern (.nil 0)
  have htrailer := reads_trailerPattern [] (segmentItems 0 (split format.toList)).reverse
    hnames.trailerName_not_mem
  rw [List.append_nil] at hsegments
  rw [pattern, String.toList_ofList]
  refine Pattern.Parse.tree_of_reads (hsegments.trans htrailer) rfl ?_ (depth_formatTree_le _)
  simp [Pattern.Parse.State.finish, Pattern.Parse.State.innermost, formatTree, ofConcat_append]

/-! ### Meaning -/

/-- A character of literal text, in any case. -/
def letterExpr (c : Char) : Expr Atom := .atom (.set (.sameFold c.toNat))

/-- Anything but the end of a line. -/
def lineSet : CharSet := .compl (.single '\n')

/-- A placeholder: some characters of a line, as few as possible. -/
def wildcardExpr : Expr Atom := .loop false (.atom (.set lineSet))

/-- White space. -/
def spaceSet : CharSet := .tables [Unicode.Property.whiteSpace]

/-- The characters of keys and values before case is ignored. -/
def asciiWordSet : CharSet :=
  .union (.span 48 57) (.union (.span 65 90) (.union (.span 97 122) (.union (.span 95 95) .empty)))

/-- The characters of keys and values. -/
def wordSet : CharSet := .folded asciiWordSet

/-- A key or a value. -/
def wordExpr : Expr Atom := .loop true (.atom (.set wordSet))

/-- A pair behind at most one blank. -/
def pairExpr : Expr Atom :=
  .cat (.opt true (.atom (.set spaceSet))) (.cat wordExpr (.cat (letterExpr '=') wordExpr))

/-- Blanks, if there are any. -/
def gapExpr : Expr Atom := .opt true (.loop true (.atom (.set spaceSet)))

/-- Blanks, and then pairs. -/
def trailerExpr : Expr Atom :=
  .capture trailerName (.cat gapExpr (.opt true (.loop true pairExpr)))

/-- The end of the text. -/
def finishExpr : Expr Atom := .atom (.look .finish)

/-- The expressions of some segments, the first placeholder having the given number. -/
def segmentExprs : (index : Nat) → List Segment → List (Expr Atom)
  | _, [] => []
  | index, .literal text :: rest => text.map letterExpr ++ segmentExprs index rest
  | index, .placeholder _ :: rest =>
    .capture (groupName index) wildcardExpr :: segmentExprs (index + 1) rest

/-- What a plain format means. -/
def formatExpr (segments : List Segment) : Expr Atom :=
  .concat (segmentExprs 0 segments ++ [trailerExpr, finishExpr])

/-- The meaning of items is found one by one, while no flag changes. -/
theorem ofTrees_cons {tree : Tree} {rest : List Tree} {e : Expr Atom} {es : List (Expr Atom)}
    (htree : Pattern.Meaning.ofTree .initial tree = .ok (e, .initial))
    (hrest : Pattern.Meaning.ofTrees .initial rest = .ok (es, .initial)) :
    Pattern.Meaning.ofTrees .initial (tree :: rest) = .ok (e :: es, .initial) := by
  rw [Pattern.Meaning.ofTrees, htree]
  simp only [bind, Except.bind, hrest]
  rfl

/-- **Letters** of a format are matched as letters, whatever follows. -/
theorem ofTrees_plainItems (text : List Char) {rest : List Tree} {es : List (Expr Atom)}
    (hrest : Pattern.Meaning.ofTrees .initial rest = .ok (es, .initial)) :
    Pattern.Meaning.ofTrees .initial (plainItems text ++ rest) =
      .ok (text.map letterExpr ++ es, .initial) := by
  induction text with
  | nil => exact hrest
  | cons c text ih => exact ofTrees_cons rfl ih

/-- **Segments** of a format have the meaning of their expressions, whatever follows. -/
theorem ofTrees_segmentItems (index : Nat) (segments : List Segment) {rest : List Tree}
    {es : List (Expr Atom)}
    (hrest : Pattern.Meaning.ofTrees .initial rest = .ok (es, .initial)) :
    Pattern.Meaning.ofTrees .initial (segmentItems index segments ++ rest) =
      .ok (segmentExprs index segments ++ es, .initial) := by
  induction segments generalizing index with
  | nil => exact hrest
  | cons segment segments ih =>
      cases segment with
      | literal text =>
          rw [segmentItems, segmentExprs, List.append_assoc, List.append_assoc]
          exact ofTrees_plainItems text (ih index)
      | placeholder inner => exact ofTrees_cons rfl (ih (index + 1))

/-- **Meaning.** The tree of a plain format means what `formatExpr` says. -/
theorem ofTree_formatTree (segments : List Segment) :
    Pattern.Meaning.ofTree .initial (formatTree segments) =
      .ok (formatExpr segments, .initial) := by
  have htail : Pattern.Meaning.ofTrees .initial [trailerTree, .assertion .endLine] =
      .ok ([trailerExpr, finishExpr], .initial) := rfl
  have htrees := ofTrees_segmentItems 0 segments htail
  rw [formatTree, Pattern.Meaning.ofTree, htrees]
  rfl

/-- **Compilation.** The recognizer of a plain format, if the format is compiled at all. -/
theorem expr_of_compile {owner format : String} {recognizer : Recognizer}
    (hplain : Plain format) (hcompile : Recognizer.compile owner format = .ok recognizer) :
    recognizer.placeholders = placeholders format ∧
      recognizer.pattern.expr = formatExpr (split format.toList) := by
  obtain ⟨compiled, hpattern, rfl⟩ := Recognizer.exists_of_compile hcompile
  refine ⟨rfl, ?_⟩
  rw [Pattern.compile, tree_pattern hplain] at hpattern
  simp only [bind, Except.bind, ofTree_formatTree] at hpattern
  split at hpattern
  · exact (Except.ok.inj hpattern) ▸ rfl
  · exact absurd hpattern (by simp)

/-- A format that is accepted has a recognizer. -/
theorem exists_of_isSome_compile {owner format : String}
    (h : (Recognizer.compile owner format).toOption.isSome) :
    ∃ recognizer, Recognizer.compile owner format = .ok recognizer := by
  cases hcompile : Recognizer.compile owner format with
  | error fault => rw [hcompile] at h; exact absurd h (by simp [Except.toOption])
  | ok recognizer => exact ⟨recognizer, rfl⟩

/-- A plain format that is accepted for an alias. Whatever is said about the recognizer of a plain
format can be said about it. -/
structure Accepted where
  owner : String
  format : String
  plain : Plain format
  compiles : (Recognizer.compile owner format).toOption.isSome

/-- An accepted format has a recognizer. -/
theorem Accepted.exists_recognizer (accepted : Accepted) :
    ∃ recognizer, Recognizer.compile accepted.owner accepted.format = .ok recognizer :=
  exists_of_isSome_compile accepted.compiles

/-- The format of a command with one value. -/
def Accepted.play : Accepted :=
  ⟨"music", "play {{title}}", by decide +kernel, by decide +kernel⟩

end Format

end Switchboard.Alias
