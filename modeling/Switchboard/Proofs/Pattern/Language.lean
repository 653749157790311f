import Switchboard.Proofs.Pattern.Reach

/-!
# The language of an expression

`Matches e pre cs post` says that expression `e` matches the piece `cs` of a text between
`pre` and `post`. It is the meaning of an expression in terms of texts alone: what is
before and behind the piece counts only for conditions on places, and sequence is the
concatenation of pieces.

## Main results

* `reaches_iff_matches`: leading from one position to another is matching the piece
  between them.
* `Match.found_iff_matches`: a match is found in a text exactly when the text can be cut
  so that the expression matches the piece in the middle.
-/

namespace Switchboard.Pattern

/-- Expression `e` matches the piece `cs` between `pre` and `post`. -/
inductive Matches : Expr Atom → (pre cs post : List Char) → Prop
  | empty {pre post : List Char} : Matches .empty pre [] post
  | set {s : Unicode.CharSet} {c : Char} {pre post : List Char} :
      s.has c → Matches (.atom (.set s)) pre [c] post
  | look {l : Look} {pre post : List Char} :
      Match.holds pre.getLast? post.head? l → Matches (.atom (.look l)) pre [] post
  | capture {name : Option String} {e : Expr Atom} {pre cs post : List Char} :
      Matches e pre cs post → Matches (.capture name e) pre cs post
  | cat {e f : Expr Atom} {pre xs ys post : List Char} :
      Matches e pre xs (ys ++ post) → Matches f (pre ++ xs) ys post →
      Matches (.cat e f) pre (xs ++ ys) post
  | altLeft {e f : Expr Atom} {pre cs post : List Char} :
      Matches e pre cs post → Matches (.alt e f) pre cs post
  | altRight {e f : Expr Atom} {pre cs post : List Char} :
      Matches f pre cs post → Matches (.alt e f) pre cs post
  | optNone {greedy : Bool} {e : Expr Atom} {pre post : List Char} :
      Matches (.opt greedy e) pre [] post
  | optSome {greedy : Bool} {e : Expr Atom} {pre cs post : List Char} :
      Matches e pre cs post → Matches (.opt greedy e) pre cs post
  | loopOnce {greedy : Bool} {e : Expr Atom} {pre cs post : List Char} :
      Matches e pre cs post → Matches (.loop greedy e) pre cs post
  | loopMore {greedy : Bool} {e : Expr Atom} {pre xs ys post : List Char} :
      Matches e pre xs (ys ++ post) → Matches (.loop greedy e) (pre ++ xs) ys post →
      Matches (.loop greedy e) pre (xs ++ ys) post
  | timesZero {e : Expr Atom} {pre post : List Char} : Matches (.times 0 e) pre [] post
  | timesSucc {k : Nat} {e : Expr Atom} {pre xs ys post : List Char} :
      Matches e pre xs (ys ++ post) → Matches (.times k e) (pre ++ xs) ys post →
      Matches (.times (k + 1) e) pre (xs ++ ys) post
  | upToStop {k : Nat} {greedy : Bool} {e : Expr Atom} {pre post : List Char} :
      Matches (.upTo k greedy e) pre [] post
  | upToMore {k : Nat} {greedy : Bool} {e : Expr Atom} {pre xs ys post : List Char} :
      Matches e pre xs (ys ++ post) → Matches (.upTo k greedy e) (pre ++ xs) ys post →
      Matches (.upTo (k + 1) greedy e) pre (xs ++ ys) post

/-! ### From pieces to positions -/

/-- The end of a piece that is cut in two. -/
theorem length_add_append (pre xs ys : List Char) :
    pre.length + (xs ++ ys).length = (pre ++ xs).length + ys.length := by
  simp only [List.length_append]
  omega

/-- Matching a piece leads over it. -/
theorem Matches.reaches {e : Expr Atom} {pre cs post : List Char} (h : Matches e pre cs post) :
    Reaches (pre ++ cs ++ post) e pre.length (pre.length + cs.length) := by
  induction h with
  | empty => rfl
  | @set s c pre post hc => exact ⟨⟨c, by simp, hc⟩, rfl⟩
  | @look l pre post hl =>
      have hnext : (pre ++ post)[pre.length]? = post.head? := by
        rw [List.getElem?_append_right (Nat.le_refl _), Nat.sub_self, List.head?_eq_getElem?]
      exact ⟨⟨by simp, by simpa [hnext] using hl⟩, rfl⟩
  | capture _ ih => exact ih
  | @cat e f pre xs ys post _ _ ihe ihf =>
      rw [length_add_append]
      refine ⟨(pre ++ xs).length, ?_, ?_⟩
      · simpa using ihe
      · simpa using ihf
  | altLeft _ ih => exact Or.inl ih
  | altRight _ ih => exact Or.inr ih
  | optNone => exact Or.inl rfl
  | optSome _ ih => exact Or.inr ih
  | loopOnce _ ih => exact Relation.TransGen.single ih
  | @loopMore greedy e pre xs ys post _ _ ihe ihf =>
      rw [length_add_append]
      refine Relation.TransGen.head (b := (pre ++ xs).length) ?_ ?_
      · simpa using ihe
      · simpa [Reaches] using ihf
  | timesZero => exact Positions.Steps.stay _
  | @timesSucc k e pre xs ys post _ _ ihe ihf =>
      rw [length_add_append]
      refine Positions.Steps.step (m := (pre ++ xs).length) ?_ ?_
      · simpa using ihe
      · simpa [Reaches] using ihf
  | upToStop => exact ⟨0, Nat.zero_le _, Positions.Steps.stay _⟩
  | @upToMore k greedy e pre xs ys post _ _ ihe ihf =>
      rw [length_add_append]
      obtain ⟨m, hm, hsteps⟩ := ihf
      refine ⟨m + 1, by omega, Positions.Steps.step (m := (pre ++ xs).length) ?_ ?_⟩
      · simpa using ihe
      · simpa using hsteps

/-! ### From positions to pieces -/

/-- The piece of a text between two positions. -/
def piece (text : List Char) (i j : Nat) : List Char := (text.drop i).take (j - i)

/-- Nothing stands between a position and itself. -/
@[simp] theorem piece_self (text : List Char) (i : Nat) : piece text i i = [] := by
  simp [piece]

/-- The middle of a text is a piece of it. -/
@[simp] theorem piece_middle (pre cs post : List Char) :
    piece (pre ++ cs ++ post) pre.length (pre.length + cs.length) = cs := by
  simp [piece]

/-- Pieces join where they meet. -/
theorem piece_append {text : List Char} {i k j : Nat} (hik : i ≤ k) (hkj : k ≤ j) :
    piece text i k ++ piece text k j = piece text i j := by
  unfold piece
  have hk : text.drop k = (text.drop i).drop (k - i) := by
    rw [List.drop_drop]
    congr 1
    omega
  have hj : j - i = (k - i) + (j - k) := by omega
  rw [hk, hj, List.take_add]

/-- A piece goes on from the beginning of a text. -/
theorem take_append_piece {text : List Char} {i k : Nat} (hik : i ≤ k) :
    text.take i ++ piece text i k = text.take k := by
  have h : piece text 0 i ++ piece text i k = piece text 0 k := piece_append (Nat.zero_le i) hik
  simpa [piece] using h

/-- The rest of a text goes on from a piece. -/
theorem piece_append_drop {text : List Char} {k j : Nat} (hkj : k ≤ j) :
    piece text k j ++ text.drop j = text.drop k := by
  unfold piece
  have hj : text.drop j = (text.drop k).drop (j - k) := by
    rw [List.drop_drop]
    congr 1
    omega
  rw [hj, List.take_append_drop]

/-- A match of the piece from `i` to `j`, by way of the position `k`. -/
theorem matches_pieces {text : List Char} {e f g : Expr Atom} {i k j : Nat}
    (hjoin : ∀ {pre xs ys post}, Matches e pre xs (ys ++ post) → Matches f (pre ++ xs) ys post →
      Matches g pre (xs ++ ys) post)
    (hik : i ≤ k) (hkj : k ≤ j)
    (he : Matches e (text.take i) (piece text i k) (text.drop k))
    (hf : Matches f (text.take k) (piece text k j) (text.drop j)) :
    Matches g (text.take i) (piece text i j) (text.drop j) := by
  rw [← piece_append_drop hkj] at he
  rw [← take_append_piece hik] at hf
  rw [← piece_append hik hkj]
  exact hjoin he hf

/-- Leading from one position to another is matching the piece between them. -/
theorem Reaches.matches {text : List Char} {e : Expr Atom} {i j : Nat} (h : Reaches text e i j) :
    Matches e (text.take i) (piece text i j) (text.drop j) := by
  induction e generalizing i j with
  | empty =>
      obtain rfl : i = j := h
      rw [piece_self]
      exact .empty
  | atom a =>
      cases a with
      | set s =>
          obtain ⟨⟨c, hc, hs⟩, rfl⟩ := h
          obtain ⟨hi, rfl⟩ := List.getElem?_eq_some_iff.mp hc
          have hpiece : piece text i (i + 1) = [text[i]] := by
            rw [piece, List.drop_eq_getElem_cons hi, Nat.add_sub_cancel_left, List.take_succ_cons,
              List.take_zero]
          rw [hpiece]
          exact .set hs
      | look l =>
          obtain ⟨⟨-, hl⟩, rfl⟩ := h
          rw [piece_self]
          exact .look (by rwa [List.head?_drop])
  | capture name e ih => exact .capture (ih h)
  | cat e f ihe ihf =>
      obtain ⟨k, hik, hkj⟩ := h
      exact matches_pieces .cat hik.le hkj.le (ihe hik) (ihf hkj)
  | alt e f ihe ihf =>
      rcases h with h | h
      · exact .altLeft (ihe h)
      · exact .altRight (ihf h)
  | opt greedy e ih =>
      rcases h with rfl | h
      · rw [piece_self]
        exact .optNone
      · exact .optSome (ih h)
  | loop greedy e ih =>
      induction h using Relation.TransGen.head_induction_on with
      | single hij => exact .loopOnce (ih hij)
      | @head i k hik hkj ihk =>
          have hle : k ≤ j := Reaches.le (e := .loop greedy e) hkj
          exact matches_pieces .loopMore hik.le hle (ih hik) ihk
  | times k e ih =>
      induction h with
      | stay i =>
          rw [piece_self]
          exact .timesZero
      | @step k i m j him hmj ihm =>
          exact matches_pieces .timesSucc him.le (hmj.le Reaches.le) (ih him) ihm
  | upTo k greedy e ih =>
      obtain ⟨m, hmk, hsteps⟩ := h
      induction hsteps generalizing k with
      | stay i =>
          rw [piece_self]
          exact .upToStop
      | @step m i a j hia haj iha =>
          obtain ⟨k, rfl⟩ : ∃ k', k = k' + 1 := ⟨k - 1, by omega⟩
          exact matches_pieces .upToMore hia.le (haj.le Reaches.le) (ih hia) (iha k (by omega))

/-! ### The language -/

/-- **Positions and pieces.** An expression leads over a piece of a text exactly when it matches
the piece where it stands. -/
theorem reaches_iff_matches {e : Expr Atom} {pre cs post : List Char} :
    Reaches (pre ++ cs ++ post) e pre.length (pre.length + cs.length) ↔ Matches e pre cs post := by
  refine ⟨fun h => ?_, Matches.reaches⟩
  have hmatches := h.matches
  have htake : (pre ++ cs ++ post).take pre.length = pre := by simp
  have hdrop : (pre ++ cs ++ post).drop (pre.length + cs.length) = post := by
    rw [← List.length_append, List.drop_left]
  rwa [htake, piece_middle, hdrop] at hmatches

/-- **What is found.** A match is found in a text exactly when the text can be cut so that the
expression matches the piece in the middle. -/
theorem Match.found_iff_matches (e : Expr Atom) (text : List Char) :
    Match.found e text ↔ ∃ pre cs post, text = pre ++ cs ++ post ∧ Matches e pre cs post := by
  rw [found_iff]
  constructor
  · rintro ⟨i, j, hij, hj⟩
    refine ⟨text.take i, piece text i j, text.drop j, ?_, hij.matches⟩
    rw [take_append_piece hij.le, List.take_append_drop]
  · rintro ⟨pre, cs, post, rfl, h⟩
    exact ⟨pre.length, pre.length + cs.length, h.reaches, by simp⟩

/-! ### Cutting a piece -/

section Cutting

variable {e f : Expr Atom} {pre cs post : List Char}

/-- A set matches one of its characters. -/
theorem matches_set_iff {s : Unicode.CharSet} :
    Matches (.atom (.set s)) pre cs post ↔ ∃ c, cs = [c] ∧ s.has c := by
  constructor
  · rintro ⟨⟩
    exact ⟨_, rfl, ‹_›⟩
  · rintro ⟨c, rfl, hc⟩
    exact .set hc

/-- The end of the text is matched there only. -/
theorem matches_finish_iff :
    Matches (.atom (.look .finish)) pre cs post ↔ cs = [] ∧ post = [] := by
  constructor
  · rintro ⟨⟩
    next h => exact ⟨rfl, by simpa [Match.holds] using h⟩
  · rintro ⟨rfl, rfl⟩
    exact .look rfl

/-- A group matches what stands in it. -/
theorem matches_capture_iff {name : Option String} :
    Matches (.capture name e) pre cs post ↔ Matches e pre cs post := by
  constructor
  · rintro ⟨⟩
    assumption
  · exact .capture

/-- A sequence matches two parts, each with the other one around it. -/
theorem matches_cat_iff :
    Matches (.cat e f) pre cs post ↔
      ∃ xs ys, cs = xs ++ ys ∧ Matches e pre xs (ys ++ post) ∧ Matches f (pre ++ xs) ys post := by
  constructor
  · rintro ⟨⟩
    exact ⟨_, _, rfl, ‹_›, ‹_›⟩
  · rintro ⟨xs, ys, rfl, he, hf⟩
    exact .cat he hf

/-- An option matches nothing, or what it has. -/
theorem matches_opt_iff {greedy : Bool} :
    Matches (.opt greedy e) pre cs post ↔ cs = [] ∨ Matches e pre cs post := by
  constructor
  · rintro ⟨⟩
    · exact Or.inl rfl
    · exact Or.inr ‹_›
  · rintro (rfl | h)
    · exact .optNone
    · exact .optSome h

/-- The first of some expressions matches a piece in front of what the others match. -/
theorem matches_concat_cons_iff {es : List (Expr Atom)} :
    Matches (.concat (e :: es)) pre cs post ↔
      ∃ xs ys, cs = xs ++ ys ∧ Matches e pre xs (ys ++ post) ∧
        Matches (.concat es) (pre ++ xs) ys post := by
  cases es with
  | cons f es => exact matches_cat_iff
  | nil =>
      constructor
      · intro h
        exact ⟨cs, [], (List.append_nil cs).symm, h, .empty⟩
      · rintro ⟨xs, ys, rfl, he, hnil⟩
        obtain ⟨⟩ := hnil
        simpa [Expr.concat] using he

/-- **Loops.** A loop over an expression that matches wherever it stands cuts the piece into
pieces, at least one of them, that the expression matches. -/
theorem matches_loop_iff {p : List Char → Prop}
    (hp : ∀ {pre cs post}, Matches e pre cs post ↔ p cs) {greedy : Bool} :
    Matches (.loop greedy e) pre cs post ↔
      ∃ pieces, pieces ≠ [] ∧ (∀ piece ∈ pieces, p piece) ∧ cs = pieces.flatten := by
  constructor
  · intro h
    generalize hloop : Expr.loop greedy e = l at h
    induction h <;> cases hloop
    case mp.loopOnce.refl cs _ h _ => exact ⟨[cs], by simp, by simpa using hp.mp h, by simp⟩
    case mp.loopMore.refl xs ys _ h _ _ ih =>
        obtain ⟨pieces, -, hpieces, rfl⟩ := ih rfl
        exact ⟨xs :: pieces, by simp, by simpa using ⟨hp.mp h, hpieces⟩, rfl⟩
  · rintro ⟨pieces, hne, hpieces, rfl⟩
    induction pieces generalizing pre with
    | nil => exact absurd rfl hne
    | cons first rest ih =>
        have hfirst : p first := hpieces first List.mem_cons_self
        cases rest with
        | nil => simpa using Matches.loopOnce (hp.mpr hfirst)
        | cons second rest =>
            exact .loopMore (hp.mpr hfirst)
              (ih (by simp) fun piece h => hpieces piece (List.mem_cons_of_mem _ h))

/-- A loop over the characters of a set matches the pieces of such characters. -/
theorem matches_loop_set_iff {s : Unicode.CharSet} {greedy : Bool} :
    Matches (.loop greedy (.atom (.set s))) pre cs post ↔ cs ≠ [] ∧ ∀ c ∈ cs, s.has c := by
  rw [matches_loop_iff matches_set_iff]
  constructor
  · rintro ⟨pieces, hne, hpieces, rfl⟩
    refine ⟨?_, fun c hc => ?_⟩
    · obtain ⟨first, rest, rfl⟩ := List.exists_cons_of_ne_nil hne
      obtain ⟨c, rfl, -⟩ := hpieces first List.mem_cons_self
      simp
    · obtain ⟨piece, hpiece, hmem⟩ := List.mem_flatten.mp hc
      obtain ⟨d, rfl, hd⟩ := hpieces piece hpiece
      rwa [List.mem_singleton.mp hmem]
  · rintro ⟨hne, hcs⟩
    refine ⟨cs.map fun c => [c], by simpa using hne, fun piece hpiece => ?_, ?_⟩
    · obtain ⟨c, hc, rfl⟩ := List.mem_map.mp hpiece
      exact ⟨c, rfl, hcs c hc⟩
    · rw [← List.flatMap_def, List.flatMap_singleton']

end Cutting

end Switchboard.Pattern
