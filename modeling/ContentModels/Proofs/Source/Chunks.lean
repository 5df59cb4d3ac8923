import ContentModels.Proofs.Source.Appending.Tokens

/-!
# Texts are read piece by piece

What a text is read as does not depend on what was read before, and hardly on what follows: only the
last punctuation may learn that more of it follows. So the tokens of a text that is put together
from pieces are the tokens of the pieces, up to the places where they stand.

## Main definitions

* `commentFree` — whether no comment stands between the tokens of a text.
* `Lexer.Lexes` — what a piece of text is read as before other text.

## Main statements

* `Lexer.Lexes.append` — one piece after the other.
* `Lexer.lexes_of_tokenize` — a text that is read alone is read alike as a piece.
* `Lexer.likes_of_tokenize` — the words of a text are such as a text can hold.
-/

namespace ContentModels.Source

/-! ## Tokens in different places -/

mutual

theorem Token.Like.symm {t u : Token} (h : t.Like u) : u.Like t := by
  cases h with
  | word p q h => exact .word q p h
  | punct => exact .punct ..
  | lifetime => exact .lifetime ..
  | literal => exact .literal ..
  | group d p q close close' h => exact .group d q p close' close h.symm

theorem Likes.symm {ts us : List Token} (h : Likes ts us) : Likes us ts := by
  cases h with
  | nil => exact .nil
  | cons h hs => exact .cons h.symm hs.symm

end

mutual

theorem Token.Like.trans {t u v : Token} (h : t.Like u) (h' : u.Like v) : t.Like v := by
  cases h with
  | word p q hw => cases h'; exact .word _ _ hw
  | punct => cases h'; exact .punct ..
  | lifetime => cases h'; exact .lifetime ..
  | literal => cases h'; exact .literal ..
  | group d p q close close' h =>
    cases h' with
    | group _ _ _ _ _ h' => exact .group _ _ _ _ _ (h.trans h')

theorem Likes.trans {ts us vs : List Token} (h : Likes ts us) (h' : Likes us vs) : Likes ts vs := by
  cases h with
  | nil => exact h'
  | cons h hs =>
    cases h' with
    | cons h' hs' => exact .cons (h.trans h') (hs.trans hs')

end

theorem Likes.append {ts us vs ws : List Token} (h : Likes ts us) (h' : Likes vs ws) :
    Likes (ts ++ vs) (us ++ ws) := by
  induction ts generalizing us with
  | nil => cases h; exact h'
  | cons t ts ih =>
    cases h with
    | cons ht hs => exact .cons ht (ih hs)

theorem Likes.reverse {ts us : List Token} (h : Likes ts us) : Likes ts.reverse us.reverse := by
  induction ts generalizing us with
  | nil => cases h; exact .nil
  | cons t ts ih =>
    cases h with
    | cons ht hs =>
      rw [List.reverse_cons, List.reverse_cons]
      exact (ih hs).append (.cons ht .nil)

namespace Lexer

open Text

/-- Whether no comment stands between the tokens at the start of a text, as far as there are any. -/
def uncommented : Nat → List Char → Bool
  | 0, _ => true
  | fuel + 1, cs =>
    match cs.dropWhile isGap with
    | [] => true
    | c :: rest =>
      if opensComment (c :: rest) then false
      else if (Delimiter.ofOpening c).isSome || (Delimiter.ofClosing c).isSome then
        uncommented fuel rest
      else
        match leaf {} (c :: rest) with
        | some (_, after) => uncommented fuel after
        | none => true

end Lexer

/-- Whether no comment stands between the tokens of a text. -/
def commentFree (s : String) : Bool := Lexer.uncommented (s.toList.length + 1) s.toList

namespace Lexer

open Text

variable {X : List Char} {outer outer' base : List OpenGroup} {read read' baseRead ts us : List Token}
  {p : Position} {fuel : Nat} {cs : List Char} {c : Char}

/-! ## Steps -/

theorem run_gaps {gaps : List Char} (h : ∀ c ∈ gaps, isGap c = true) (p : Position) :
    run (fuel + 1) outer read p (gaps ++ cs) = run (fuel + 1) outer read (p.advance gaps) cs := by
  induction gaps generalizing p with
  | nil => rfl
  | cons c gaps ih =>
    rw [List.cons_append, run_gap (h c List.mem_cons_self),
      ih fun d hd => h d (List.mem_cons_of_mem _ hd)]
    rfl

/-- Behind blanks, reading ends only outside of all groups. -/
theorem run_nil_ok (h : run fuel outer read p [] = .ok ts) :
    0 < fuel ∧ outer = [] ∧ ts = read.reverse := by
  cases fuel with
  | zero => cases h
  | succ fuel =>
    rw [run.eq_def] at h
    have hskip : skip 1 [] = [] := skip_eq_self rfl rfl 0
    cases outer with
    | nil => simp_all [docComment]
    | cons _ _ => simp [hskip, docComment] at h

/-- What the first step of reading is. -/
inductive FirstStep (fuel : Nat) (outer : List OpenGroup) (read : List Token) (p : Position)
    (c : Char) (cs : List Char) (ts : List Token) : Prop
  | opening (d : Delimiter) (hopen : Delimiter.ofOpening c = some d)
      (h : run fuel (⟨d, p, read⟩ :: outer) [] (p.step c) cs = .ok ts)
  | closing (d : Delimiter) (pos : Position) (before : List Token) (further : List OpenGroup)
      (hclose : Delimiter.ofClosing c = some d) (houter : outer = ⟨d, pos, before⟩ :: further)
      (h : run fuel further (.group d read.reverse pos p :: before) (p.step c) cs = .ok ts)
  | leaf (t : Token) (after : List Char) (hopen : Delimiter.ofOpening c = none)
      (hclose : Delimiter.ofClosing c = none) (hleaf : leaf p (c :: cs) = some (t, after))
      (h : run fuel outer (t :: read) (moved p (c :: cs) after) after = .ok ts)

theorem firstStep_of_run (gap : isGap c = false) (comment : opensComment (c :: cs) = false)
    (h : run (fuel + 1) outer read p (c :: cs) = .ok ts) :
    FirstStep fuel outer read p c cs ts := by
  rw [run.eq_def] at h
  simp only [skip_eq_self comment (by simpa using gap), moved_self, docComment_eq_none comment] at h
  split at h
  · next d hopen => exact .opening d hopen h
  · next hopen =>
    split at h
    · next d hclose =>
      split at h
      · cases h
      · next group further =>
        split at h
        · next hd =>
          subst hd
          exact .closing _ _ _ _ hclose rfl h
        · cases h
    · next hclose =>
      split at h
      · next t after hleaf => exact .leaf t after hopen hclose hleaf h
      · cases h

/-- A quote opens a literal. -/
theorem literal_of_run {body : List Char} (h : run fuel outer read p ('"' :: body) = .ok ts) :
    (literal ('"' :: body)).isSome := by
  cases fuel with
  | zero => cases h
  | succ fuel =>
    have hstep := firstStep_of_run (by decide) rfl h
    cases hstep with
    | opening d hopen => cases hopen
    | closing d pos before further hclose => cases hclose
    | leaf t after hopen hclose hleaf =>
      by_contra hnone
      have hliteral : literal ('"' :: body) = none := by simpa using hnone
      have hmark : '"' ∉ punctuation := by decide
      have hstart : isIdentStart '"' = false := by decide
      simp [leaf, hliteral, opensPunct, hmark, opensLiteral, anyIdent, plainIdent, hstart] at hleaf

/-! ## Reading a text as a piece -/

/-- What is being read of a text alone, and of the same text as a piece: the groups that were open
before are still open, and the tokens before it were read. -/
inductive Above (base : List OpenGroup) (baseRead : List Token) :
    List OpenGroup → List Token → List OpenGroup → List Token → Prop
  | bottom {read us : List Token} (h : Likes read us) :
      Above base baseRead [] read base (us ++ baseRead)
  | group {outer outer' : List OpenGroup} {before before' read us : List Token} (d : Delimiter)
      (p q : Position) (h : Likes read us) (hs : Above base baseRead outer before outer' before') :
      Above base baseRead (⟨d, p, before⟩ :: outer) read (⟨d, q, before'⟩ :: outer') us

theorem Above.cons {t u : Token} (h : Above base baseRead outer read outer' read') (ht : t.Like u) :
    Above base baseRead outer (t :: read) outer' (u :: read') := by
  cases h with
  | bottom h => exact .bottom (.cons ht h)
  | group d p q h hs => exact .group d p q (.cons ht h) hs

theorem Above.nil (h : Above base baseRead [] read outer' read') :
    outer' = base ∧ ∃ us, Likes read us ∧ read' = us ++ baseRead := by
  cases h with
  | bottom h => exact ⟨rfl, _, h, rfl⟩

/-- The tokens of a text, where the last one may be joined with what follows. -/
def Ends (j : Bool) (ts ts' : List Token) : Prop :=
  ts' = ts ∨ ∃ before t, ts = before ++ [t] ∧ ts' = before ++ [joined j t]

/-- What a text comes to as a piece before `X`. Read alone it gives `ts`; as a piece its own tokens are
read alike, in a step less than there is fuel for, and then `X` is read. -/
def IsPiece (X : List Char) (fuel : Nat) (outer : List OpenGroup) (read : List Token)
    (cs : List Char) (ts : List Token) : Prop :=
  ∃ ts', Ends (opensPunct X) ts ts' ∧ ∀ base baseRead outer' read' p',
    Above base baseRead outer read outer' read' → ∃ k us q, k < fuel ∧ Likes ts' us ∧
      ∀ fuel', run (fuel' + 1 + k) outer' read' p' (cs ++ X) =
        run (fuel' + 1) base (us.reverse ++ baseRead) q X

namespace IsPiece

theorem nil : IsPiece X (fuel + 1) [] read [] read.reverse := by
  refine ⟨_, .inl rfl, fun base baseRead outer' read' p' habove => ?_⟩
  obtain ⟨rfl, us, hlikes, rfl⟩ := habove.nil
  exact ⟨0, us.reverse, p', Nat.succ_pos _, hlikes.reverse, fun fuel' => by simp⟩

theorem gaps {gaps : List Char} (hgaps : ∀ c ∈ gaps, isGap c = true)
    (h : IsPiece X fuel outer read cs ts) : IsPiece X fuel outer read (gaps ++ cs) ts := by
  obtain ⟨ts', hends, hon⟩ := h
  refine ⟨ts', hends, fun base baseRead outer' read' p' habove => ?_⟩
  obtain ⟨k, us, q, hk, hlikes, hrun⟩ := hon _ _ _ _ (p'.advance gaps) habove
  refine ⟨k, us, q, hk, hlikes, fun fuel' => ?_⟩
  rw [← hrun fuel', List.append_assoc, Nat.add_right_comm, run_gaps hgaps]

theorem opening {d : Delimiter} (hopen : Delimiter.ofOpening c = some d)
    (h : IsPiece X fuel (⟨d, p, read⟩ :: outer) [] cs ts) :
    IsPiece X (fuel + 1) outer read (c :: cs) ts := by
  obtain ⟨ts', hends, hon⟩ := h
  refine ⟨ts', hends, fun base baseRead outer' read' p' habove => ?_⟩
  obtain ⟨k, us, q, hk, hlikes, hrun⟩ := hon _ _ _ _ (p'.step c) (.group d _ p' .nil habove)
  refine ⟨k + 1, us, q, Nat.succ_lt_succ hk, hlikes, fun fuel' => ?_⟩
  rw [List.cons_append, ← Nat.add_assoc, run_opening hopen, hrun]

theorem closing {d : Delimiter} {pos : Position} {before : List Token}
    (hclose : Delimiter.ofClosing c = some d)
    (h : IsPiece X fuel outer (.group d read.reverse pos p :: before) cs ts) :
    IsPiece X (fuel + 1) (⟨d, pos, before⟩ :: outer) read (c :: cs) ts := by
  obtain ⟨ts', hends, hon⟩ := h
  refine ⟨ts', hends, fun base baseRead outer' read' p' habove => ?_⟩
  cases habove with
  | group _ _ _ hread habove =>
    obtain ⟨k, us, q, hk, hlikes, hrun⟩ := hon _ _ _ _ (p'.step c)
      (habove.cons (.group d _ _ _ p' hread.reverse))
    refine ⟨k + 1, us, q, Nat.succ_lt_succ hk, hlikes, fun fuel' => ?_⟩
    rw [List.cons_append, ← Nat.add_assoc, run_closing hclose, hrun]

/-- A text starts with one token that is no group, whatever its place is, and goes on with `after`. -/
def IsLeaf (c : Char) (cs : List Char) (t : Token) (after : List Char) : Prop :=
  isGap c = false ∧ opensComment (c :: cs) = false ∧ Delimiter.ofOpening c = none ∧
    Delimiter.ofClosing c = none ∧ ∀ p, ∃ t', Lexer.leaf p (c :: cs) = some (t', after) ∧ t.Like t'

theorem leaf {t : Token} {after : List Char} (ht : IsLeaf c (cs ++ X) t (after ++ X))
    (h : IsPiece X fuel outer (t :: read) after ts) :
    IsPiece X (fuel + 1) outer read (c :: cs) ts := by
  obtain ⟨hgap, hcomment, hopen, hclose, hleaf⟩ := ht
  obtain ⟨ts', hends, hon⟩ := h
  refine ⟨ts', hends, fun base baseRead outer' read' p' habove => ?_⟩
  obtain ⟨t', hleaf, ht⟩ := hleaf p'
  obtain ⟨k, us, q, hk, hlikes, hrun⟩ := hon _ _ _ _ (moved p' (c :: (cs ++ X)) (after ++ X))
    (habove.cons ht)
  refine ⟨k + 1, us, q, Nat.succ_lt_succ hk, hlikes, fun fuel' => ?_⟩
  rw [List.cons_append, ← Nat.add_assoc, run_leaf hgap hcomment hopen hclose hleaf, hrun]

/-- Only where the text ends behind the token, this token may be joined with what follows. -/
theorem lastLeaf {t : Token} (hfuel : 0 < fuel)
    (ht : IsLeaf c (cs ++ X) (joined (opensPunct X) t) X) :
    IsPiece X (fuel + 1) [] read (c :: cs) (t :: read).reverse := by
  obtain ⟨hgap, hcomment, hopen, hclose, hleaf⟩ := ht
  refine ⟨read.reverse ++ [joined (opensPunct X) t], .inr ⟨_, t, by simp, rfl⟩, ?_⟩
  intro base baseRead outer' read' p' habove
  obtain ⟨rfl, us, hread, rfl⟩ := habove.nil
  obtain ⟨t', hleaf, ht⟩ := hleaf p'
  refine ⟨1, us.reverse ++ [t'], moved p' (c :: (cs ++ X)) X, Nat.succ_lt_succ hfuel,
    hread.reverse.append (.cons ht .nil), fun fuel' => ?_⟩
  rw [List.cons_append, run_leaf hgap hcomment hopen hclose hleaf]
  simp

end IsPiece

/-- The blanks at the start of a text. -/
theorem exists_gaps (cs : List Char) : ∃ gaps start, cs = gaps ++ start ∧
    (∀ c ∈ gaps, isGap c = true) ∧ start = cs.dropWhile isGap ∧
      ∀ c ∈ start.head?, isGap c = false := by
  refine ⟨cs.takeWhile isGap, _, List.takeWhile_append_dropWhile.symm,
    fun c hc => List.mem_takeWhile_imp hc, rfl, fun c hc => ?_⟩
  have hhead := List.head?_dropWhile_not isGap cs
  rw [Option.mem_def.1 hc] at hhead
  simpa using hhead

/-- A text that is read alone is read alike as a piece. -/
theorem isPiece_of_run (hX : parts X = true) (h : run fuel outer read p cs = .ok ts)
    (comment : uncommented fuel cs = true) : IsPiece X fuel outer read cs ts := by
  induction fuel generalizing outer read p cs with
  | zero => cases h
  | succ fuel ih =>
    obtain ⟨gaps, start, rfl, hgaps, hstart, hhead⟩ := exists_gaps cs
    rw [run_gaps hgaps] at h
    unfold uncommented at comment
    rw [← hstart] at comment
    refine .gaps hgaps ?_
    cases start with
    | nil =>
      obtain ⟨-, rfl, rfl⟩ := run_nil_ok h
      exact .nil
    | cons c rest =>
      have hgap : isGap c = false := hhead c rfl
      dsimp only at comment
      split at comment
      · cases comment
      next hcomment =>
      rw [Bool.not_eq_true] at hcomment
      have hcomment' : opensComment (c :: (rest ++ X)) = false := by
        rw [← List.cons_append, opensComment_append hX (List.cons_ne_nil _ _), hcomment]
      cases firstStep_of_run hgap hcomment h with
      | opening d hopen h =>
        rw [if_pos (by simp [hopen])] at comment
        exact .opening hopen (ih h comment)
      | closing d pos before further hclose houter hrest =>
        subst houter
        rw [if_pos (by simp [hclose])] at comment
        exact .closing hclose (ih hrest comment)
      | leaf t after hopen hclose hleaf h =>
        have hnext : ∀ body, after = '"' :: body → (literal after).isSome := by
          rintro body rfl
          exact literal_of_run h
        have happend := leaf_append hX hcomment hleaf hnext
        have hwalk : uncommented fuel after = true := by
          obtain ⟨t', hsame, -⟩ := leaf_append (X := []) rfl hcomment hleaf hnext {}
          rw [List.append_nil, List.append_nil] at hsame
          simpa [hopen, hclose, hsame] using comment
        by_cases hend : after = []
        · subst hend
          obtain ⟨hfuel, rfl, rfl⟩ := run_nil_ok h
          exact .lastLeaf hfuel ⟨hgap, hcomment', hopen, hclose, by simpa using happend⟩
        · simp only [if_neg hend] at happend
          exact .leaf ⟨hgap, hcomment', hopen, hclose, happend⟩ (ih h hwalk)

/-! ## Words -/

/-- The codes of blanks between tokens. -/
def gapCodes : CodeRanges := (0x200e, 0x200f) :: blankCodes

theorem gapCodes_has {c : Char} (h : isGap c = true) : gapCodes.has c.toNat = true := by
  simp only [isGap, isBlank, Bool.or_eq_true, decide_eq_true_eq] at h
  rcases h with (h | h) | h
  · rw [gapCodes, CodeRanges.has, List.any_cons]
    exact Bool.or_eq_true_iff.2 (.inr h)
  · rw [h]
    decide
  · rw [h]
    decide

/-- Blanks open no word. -/
theorem gapCodes_apart : ∀ gap ∈ gapCodes, ∀ start ∈ (0x41, 0x7a) :: xidStart,
    gap.2 < start.1 ∨ start.2 < gap.1 := by
  decide +kernel

theorem wordStart_spec (h : isIdentStart c = true) : isGap c = false ∧
    Delimiter.ofOpening c = none ∧ Delimiter.ofClosing c = none := by
  refine ⟨?_, ?_, ?_⟩
  · by_contra hgap
    rw [Bool.not_eq_false] at hgap
    obtain ⟨gap, hmem, hgap⟩ := (CodeRanges.has_eq_true_iff _ _).1 (gapCodes_has hgap)
    have hword : ∃ start ∈ ((0x41, 0x7a) :: xidStart : CodeRanges),
        start.1 ≤ c.toNat ∧ c.toNat ≤ start.2 := by
      unfold isIdentStart at h
      split at h
      · next hascii =>
        exact ⟨_, List.mem_cons_self, ascii_forall (P := fun c => (c.isAlpha || c == '_') = true →
          0x41 ≤ c.toNat ∧ c.toNat ≤ 0x7a) (by decide) hascii h⟩
      · obtain ⟨start, hstart, h⟩ := (CodeRanges.has_eq_true_iff _ _).1 h
        exact ⟨start, List.mem_cons_of_mem _ hstart, h⟩
    obtain ⟨start, hstart, h⟩ := hword
    have hapart := gapCodes_apart gap hmem start hstart
    omega
  · unfold Delimiter.ofOpening
    split <;> first | rfl | exact absurd h (by decide)
  · unfold Delimiter.ofClosing
    split <;> first | rfl | exact absurd h (by decide)

theorem ne_nil_of_isAnyWord {w : String} (h : IsAnyWord w) : w.toList ≠ [] := by
  intro hnil
  rw [IsAnyWord, hnil] at h
  cases h

/-- What comes behind the first character of a plain word belongs to it. -/
theorem continue_of_plainIdent {c : Char} {more : List Char}
    (h : plainIdent (c :: more) = some (c :: more, [])) :
    isIdentStart c = true ∧ ∀ d ∈ more, isIdentContinue d = true := by
  rw [plainIdent] at h
  split at h
  · next hc =>
    refine ⟨hc, List.takeWhile_eq_self_iff.1 ?_⟩
    simpa using congrArg Prod.fst (Option.some.inj h)
  · cases h

theorem opensLiteral_of_isAnyWord {w : String} (h : IsAnyWord w) :
    opensLiteral w.toList = false := by
  have hmarks : isIdentContinue '"' = false ∧ isIdentContinue '\'' = false ∧
    isIdentContinue '#' = false ∧ isIdentStart '"' = false ∧ isIdentStart '#' = false := by decide
  rw [IsAnyWord] at h
  unfold opensLiteral
  split
  case h_11 => rfl
  case h_2 | h_3 => simp_all [anyIdent, plainIdent]
  all_goals
    next more heq =>
      rw [heq, anyIdent] at h
      · have := (continue_of_plainIdent h).2
        simp_all
      · simp

/-! ## Comments -/

theorem lineRest_append {line : List Char} (h : '\n' ∉ line ∧ '\r' ∉ line) (X : List Char) :
    lineRest (line ++ '\n' :: X) = (line, '\n' :: X) := by
  induction line with
  | nil => rfl
  | cons c line ih =>
    simp only [List.mem_cons, not_or] at h
    have hc : c ≠ '\n' ∧ c ≠ '\r' := ⟨Ne.symm h.1.1, Ne.symm h.2.1⟩
    simp [lineRest, hc, ih ⟨h.1.2, h.2.2⟩]

theorem noLoneReturn_of_notMem {line : List Char} (h : '\r' ∉ line) : noLoneReturn line = true := by
  induction line with
  | nil => rfl
  | cons c line ih =>
    simp only [List.mem_cons, not_or] at h
    simp [noLoneReturn, Ne.symm h.1, ih h.2]

/-- Blanks and comments are dropped to their end if there is fuel for each character. -/
theorem skip_fuel {n m : Nat} (hn : cs.length < n) (hm : cs.length < m) : skip n cs = skip m cs := by
  induction n generalizing m cs with
  | zero => exact absurd hn (Nat.not_lt_zero _)
  | succ n ih =>
    obtain ⟨m, rfl⟩ := Nat.exists_eq_add_one.2 (Nat.zero_lt_of_lt hm)
    have hline (rest : List Char) (h : rest.length < cs.length) :
        skip n (lineRest rest).2 = skip m (lineRest rest).2 :=
      ih (by have := length_lineRest_le rest; omega) (by have := length_lineRest_le rest; omega)
    have hblock (rest whole : List Char) (h : rest.length < cs.length) :
        skip.skipBlock n rest whole = skip.skipBlock m rest whole := by
      unfold skip.skipBlock
      split
      · next after heq =>
        have := length_blockComment_lt heq
        exact ih (by omega) (by omega)
      · rfl
    unfold skip
    split <;> grind

theorem moved_append {start : List Char} (h : start.length ≤ cs.length) (ds : List Char)
    (p : Position) : moved p (ds ++ cs) start = moved (p.advance ds) cs start := by
  induction ds generalizing p with
  | nil => rfl
  | cons d ds ih =>
    rw [List.cons_append, moved_cons p d (by rw [List.length_append]; omega), ih]
    rfl

/-- A line that is a plain comment. -/
theorem run_lineComment {line : List Char} (h : '\n' ∉ line ∧ '\r' ∉ line)
    (hline : line.head? ≠ some '/' ∧ line.head? ≠ some '!') (X : List Char) :
    run (fuel + 1) outer read p ('/' :: '/' :: line ++ '\n' :: X) =
      run (fuel + 1) outer read (p.advance ('/' :: '/' :: line)) ('\n' :: X) := by
  have hskip (n : Nat) : skip (n + 1) ('/' :: '/' :: line ++ '\n' :: X) = skip n ('\n' :: X) := by
    have hrest := lineRest_append h X
    rw [List.cons_append, List.cons_append]
    generalize hcs : line ++ '\n' :: X = cs at hrest
    have hhead : cs.head? ≠ some '/' ∧ cs.head? ≠ some '!' := by
      cases line <;> simp_all [← hcs]
    conv_lhs => unfold skip
    split <;> grind
  have hfuel : skip (('/' :: '/' :: line ++ '\n' :: X).length + 1) ('/' :: '/' :: line ++ '\n' :: X) =
      skip (('\n' :: X).length + 1) ('\n' :: X) := by
    rw [hskip]
    exact skip_fuel (by simp; omega) (Nat.lt_succ_self _)
  rw [run.eq_def, run.eq_def]
  simp only [hfuel, moved_append (length_skip_le _ _)]

/-- A line that documents what follows it, or what encloses it. -/
theorem docComment_line {line : List Char} (h : '\n' ∉ line ∧ '\r' ∉ line)
    (hline : line.head? ≠ some '/') (inner : Bool) (X : List Char) :
    let cs := '/' :: '/' :: (if inner then '!' else '/') :: line ++ '\n' :: X
    (∀ n, skip (n + 1) cs = cs) ∧ docComment cs = some (line, inner, '\n' :: X) := by
  intro cs
  have hrest := lineRest_append h X
  have hreturn := noLoneReturn_of_notMem h.2
  have hcs : cs = '/' :: '/' :: (if inner then '!' else '/') :: (line ++ '\n' :: X) := rfl
  generalize htail : line ++ '\n' :: X = tail at hrest hcs
  have hhead : tail.head? ≠ some '/' := by
    cases line <;> simp_all [← htail]
  constructor
  · intro n
    rw [hcs]
    unfold skip
    cases inner <;> grind
  · rw [hcs]
    unfold docComment
    cases inner <;> grind

/-! ## Pieces -/

/-- What a piece of text is read as before other text, wherever it stands. -/
def Lexes (cs : List Char) (ts : List Token) (X : List Char) : Prop :=
  ∀ outer read p, ∃ k us q, k ≤ cs.length ∧ Likes ts us ∧ ∀ fuel,
    run (fuel + 1 + k) outer read p (cs ++ X) = run (fuel + 1) outer (us.reverse ++ read) q X

/-- A text that is read alone is read alike as a piece. -/
theorem lexes_of_tokenize (hX : parts X = true) (h : tokenize cs = .ok ts)
    (comment : uncommented (cs.length + 1) cs = true) :
    ∃ ts', Ends (opensPunct X) ts ts' ∧ Lexes cs ts' X := by
  obtain ⟨ts', hends, hon⟩ := isPiece_of_run hX h comment
  refine ⟨ts', hends, fun outer read p => ?_⟩
  obtain ⟨k, us, q, hk, hlikes, hrun⟩ := hon outer read outer read p (.bottom .nil)
  exact ⟨k, us, q, Nat.le_of_lt_succ hk, hlikes, hrun⟩

/-- A piece of text with nothing behind it. -/
theorem Lexes.tokenize (h : Lexes cs ts []) : ∃ us, tokenize cs = .ok us ∧ Likes ts us := by
  obtain ⟨k, us, q, hk, hlikes, hrun⟩ := h [] [] {}
  obtain ⟨fuel, hfuel⟩ := Nat.exists_eq_add_of_le' hk
  refine ⟨us, ?_, hlikes⟩
  have hrun := hrun fuel
  rw [List.append_nil, List.append_nil, run_end, List.reverse_reverse] at hrun
  rw [Source.tokenize, hfuel, Nat.add_right_comm, hrun]

namespace Lexes

variable {ds vs : List Char} {w : String}

theorem likes (h : Lexes cs ts X) (hts : Likes us ts) : Lexes cs us X := by
  intro outer read p
  obtain ⟨k, vs, q, hk, hlikes, hrun⟩ := h outer read p
  exact ⟨k, vs, q, hk, hts.trans hlikes, hrun⟩

theorem nil : Lexes [] [] X := fun _ _ p => ⟨0, [], p, Nat.le_refl _, .nil, fun _ => rfl⟩

/-- One piece after the other. -/
theorem append (h : Lexes cs ts (ds ++ X)) (h' : Lexes ds us X) :
    Lexes (cs ++ ds) (ts ++ us) X := by
  intro outer read p
  obtain ⟨k, vs, q, hk, hlikes, hrun⟩ := h outer read p
  obtain ⟨k', vs', q', hk', hlikes', hrun'⟩ := h' outer (vs.reverse ++ read) q
  refine ⟨k' + k, vs ++ vs', q', by rw [List.length_append]; omega, hlikes.append hlikes',
    fun fuel => ?_⟩
  have hfuel : fuel + 1 + (k' + k) = fuel + k' + 1 + k := by omega
  rw [List.append_assoc, hfuel, hrun, Nat.add_right_comm, hrun', List.reverse_append,
    List.append_assoc]

/-- Blanks. -/
theorem gaps (h : cs.all isGap = true) : Lexes cs [] X := by
  intro outer read p
  exact ⟨0, [], _, Nat.zero_le _, .nil, fun fuel => run_gaps (List.all_eq_true.1 h) p⟩

/-- A line that is a plain comment. -/
theorem lineComment (h : '\n' ∉ cs ∧ '\r' ∉ cs) (hcs : cs.head? ≠ some '/' ∧ cs.head? ≠ some '!') :
    Lexes ('/' :: '/' :: cs) [] ('\n' :: X) := by
  intro outer read p
  exact ⟨0, [], _, Nat.zero_le _, .nil, fun fuel => run_lineComment h hcs X⟩

/-- A documentation comment of one line. -/
theorem docLine (h : '\n' ∉ cs ∧ '\r' ∉ cs) (hcs : cs.head? ≠ some '/') (inner : Bool) :
    Lexes ('/' :: '/' :: (if inner then '!' else '/') :: cs) (docAttribute cs inner {})
      ('\n' :: X) := by
  intro outer read p
  obtain ⟨hskip, hdoc⟩ := docComment_line h hcs inner X
  refine ⟨1, docAttribute cs inner p, moved p ('/' :: '/' :: (if inner then '!' else '/') :: cs ++
    '\n' :: X) ('\n' :: X), by simp, ?_, fun fuel => ?_⟩
  · have hword : IsAnyWord "doc" := by decide
    cases inner <;> repeat constructor
  · rw [run.eq_def]
    simp only [hskip, moved_self, hdoc]

/-- One token that is no group, with what follows it. -/
theorem leaf_of {t : Token} (hc : isGap c = false ∧ Delimiter.ofOpening c = none ∧
    Delimiter.ofClosing c = none) (comment : opensComment (c :: (cs ++ X)) = false)
    (h : ∀ p, ∃ t', leaf p (c :: (cs ++ X)) = some (t', X) ∧ t.Like t') : Lexes (c :: cs) [t] X := by
  intro outer read p
  obtain ⟨t', hleaf, ht⟩ := h p
  exact ⟨1, [t'], _, by simp, .cons ht .nil,
    fun fuel => run_leaf hc.1 comment hc.2.1 hc.2.2 hleaf⟩

/-- A punctuation character. -/
theorem punct (hc : c ∈ punctuation) (comment : opensComment (c :: X) = false) :
    Lexes [c] [.punct c (opensPunct X) {}] X := by
  obtain ⟨hgap, -, -, -, hopen, hclose⟩ := punctuation_spec hc
  exact leaf_of ⟨hgap, hopen, hclose⟩ comment fun p => ⟨_, leaf_punct hc comment p, .punct ..⟩

/-- A word. -/
theorem word (h : IsAnyWord w) (hX : parts X = true) : Lexes w.toList [.word w {}] X := by
  have hleaf (p : Position) := leaf_anyIdent (anyIdent_append hX h)
    (opensLiteral_append hX (ne_nil_of_isAnyWord h) (opensLiteral_of_isAnyWord h)) p
  obtain ⟨c, cs, hcs⟩ := List.exists_cons_of_ne_nil (ne_nil_of_isAnyWord h)
  have hstart : isIdentStart c = true :=
    isIdentStart_of_anyIdent (by rw [← hcs, h]; rfl : (anyIdent (c :: cs)).isSome)
  have hslash : c ≠ '/' := by rintro rfl; exact absurd hstart (by decide)
  rw [hcs] at hleaf ⊢
  refine leaf_of (wordStart_spec hstart) (by simp [opensComment, hslash]) fun p => ⟨_, hleaf p, ?_⟩
  rw [← hcs, String.ofList_toList]
  exact .word _ _ h

/-- A quoted text. -/
theorem quoted (s : String) (hX : afterSuffix X = X) :
    Lexes (Text.quoted s).toList [.literal (.text s) {}] X := by
  intro outer read p
  refine ⟨1, [.literal (.text s) p], _, ?_, .cons (.literal ..) .nil, fun fuel => run_quoted s hX⟩
  simp [Text.quoted, quotedChars]

/-- A group. -/
theorem group {o e : Char} {d : Delimiter} (ho : Delimiter.ofOpening o = some d)
    (he : Delimiter.ofClosing e = some d) (h : Lexes cs ts (e :: X)) :
    Lexes (o :: (cs ++ [e])) [.group d ts {} {}] X := by
  intro outer read p
  obtain ⟨k, us, q, hk, hlikes, hrun⟩ := h (⟨d, p, read⟩ :: outer) [] (p.step o)
  refine ⟨1 + k + 1, [.group d us p q], q.step e, by simp; omega,
    .cons (.group d _ _ _ _ hlikes) .nil, fun fuel => ?_⟩
  have hfuel : fuel + 1 + (1 + k + 1) = fuel + 1 + 1 + k + 1 := by omega
  rw [List.cons_append, List.append_assoc, List.singleton_append, hfuel, run_opening ho, hrun,
    run_closing he]
  simp

end Lexes

/-! ## Whole texts -/

/-- The tokens of documentation are such as a text can hold. -/
theorem likes_docAttribute (line : List Char) (inner : Bool) (p q : Position) :
    Likes (docAttribute line inner p) (docAttribute line inner q) := by
  have hword : IsAnyWord "doc" := by decide
  cases inner <;> repeat constructor

/-- What is read of a text are words that it can hold, also in groups that are open. -/
theorem likes_of_run {fuel : Nat} {outer : List OpenGroup} {read ts : List Token} {p : Position}
    {cs : List Char} (h : run fuel outer read p cs = .ok ts) (hread : Likes read read)
    (houter : ∀ g ∈ outer, Likes g.before g.before) : Likes ts ts := by
  fun_induction run fuel outer read p cs
  case case1 => cases h
  case case2 ih => exact ih h (((likes_docAttribute ..).reverse).append hread) houter
  case case3 =>
    cases h
    exact hread.reverse
  case case4 => cases h
  case case5 hopen ih => exact ih h .nil (List.forall_mem_cons.2 ⟨hread, houter⟩)
  case case6 => cases h
  case case7 ih =>
    obtain ⟨hfirst, hothers⟩ := List.forall_mem_cons.1 houter
    exact ih h (.cons (.group _ _ _ _ _ hread.reverse) hfirst) hothers
  case case8 => cases h
  case case9 hleaf ih =>
    obtain ⟨t', hleaf', hlike⟩ := leaf_like hleaf {}
    exact ih h (.cons (hlike.trans hlike.symm) hread) houter
  case case10 => cases h

theorem likes_of_tokenize {cs : List Char} {ts : List Token} (h : tokenize cs = .ok ts) :
    Likes ts ts :=
  likes_of_run h .nil (by simp)

end Lexer

end ContentModels.Source
