import Mathlib.Data.List.Basic
import ContentModels.Proofs.Naming.Identifiers
import ContentModels.Proofs.Source.Quoting
import ContentModels.Source.Lexer

/-!
# Texts are read token by token

What comes first in a text is read as one token, and reading goes on behind it. A name is read as
one word and no literal, punctuation as one character, and a quoted text as the literal with that
value; what follows may only not belong to them.

## Main definitions

* `Lexer.endsWord` — what may follow a name directly.
* `Lexer.IsWord` — what is read as one word.

## Main statements

* `Lexer.leaf_word`, `Lexer.leaf_punct`, `Lexer.leaf_quoted` — the token that comes first.
* `Lexer.run_gap`, `Lexer.run_word`, `Lexer.run_punct`, `Lexer.run_quoted`, `Lexer.run_opening`,
  `Lexer.run_closing`, `Lexer.run_end` — how reading goes on.
-/

namespace ContentModels.Source.Lexer

open Text

/-! ## Blanks and comments -/

theorem length_lineRest_le (cs : List Char) : (lineRest cs).2.length ≤ cs.length := by
  fun_induction lineRest cs <;> grind

theorem length_blockComment_lt {depth : Nat} {cs text after : List Char}
    (h : blockComment depth cs = some (text, after)) : after.length < cs.length := by
  fun_induction blockComment depth cs generalizing text after with grind [Option.map_eq_some_iff]

theorem length_skip_le (fuel : Nat) (cs : List Char) : (skip fuel cs).length ≤ cs.length := by
  induction fuel generalizing cs with
  | zero => simp [skip]
  | succ fuel ih =>
    have hline (rest : List Char) : (skip fuel (lineRest rest).2).length ≤ rest.length :=
      Nat.le_trans (ih _) (length_lineRest_le rest)
    have hblock (rest whole : List Char) (h : rest.length ≤ whole.length) :
        (skip.skipBlock fuel rest whole).length ≤ whole.length := by
      rw [skip.skipBlock]
      split
      · next after heq =>
        exact Nat.le_trans (ih after) (Nat.le_trans (length_blockComment_lt heq).le h)
      · exact Nat.le_refl _
    unfold skip
    split
    case h_2 | h_4 => exact Nat.le_trans (hline _) (by simp only [List.length_cons]; omega)
    case h_5 => exact Nat.le_trans (ih _) (by simp only [List.length_cons]; omega)
    case h_7 | h_9 => exact hblock _ _ (by simp only [List.length_cons]; omega)
    case h_10 =>
      split
      · exact Nat.le_succ_of_le (ih _)
      · exact Nat.le_refl _
    all_goals exact Nat.le_refl _

theorem skip_gap {c : Char} (h : isGap c = true) (fuel : Nat) (cs : List Char) :
    skip (fuel + 1) (c :: cs) = skip fuel cs := by
  have hc : c ≠ '/' := by rintro rfl; revert h; decide
  simp [skip, hc, h]

theorem skip_eq_self {cs : List Char} (comment : opensComment cs = false)
    (gap : cs.head?.any isGap = false) (fuel : Nat) : skip (fuel + 1) cs = cs := by
  unfold skip
  split <;> simp_all [opensComment]

theorem docComment_eq_none {cs : List Char} (h : opensComment cs = false) : docComment cs = none := by
  unfold docComment
  split <;> simp_all [opensComment]

/-! ## Words -/

/-- The marks that make a literal of a letter before them, or a raw name. -/
def wordMarks : List Char := ['"', '\'', '#']

/-- Characters of names belong to words. None of them is a blank or opens anything but a word, and
only the digits open a number. -/
theorem wordChar_of_plain {c : Char} (h : Naming.isIdentifierChar c = true) :
    isIdentStart c = !c.isDigit ∧ isIdentContinue c = true ∧ isGap c = false ∧
      c ∉ punctuation ∧ c ∉ wordMarks ∧ Delimiter.ofOpening c = none ∧
      Delimiter.ofClosing c = none ∧
      (c.isDigit = false → (hexDigit? c).all (10 ≤ ·) = true) := by
  revert c
  apply plain_forall
  decide

/-- What may follow a word directly: it does not belong to the word, nor does it make a literal of
it. -/
def endsWord (cs : List Char) : Bool :=
  cs.head?.all fun c => !isIdentContinue c && c != '"' && c != '\'' && c != '#'

theorem span_word {cs rest : List Char} (hcs : IsPlain cs) (hrest : endsWord rest = true) :
    (cs ++ rest).takeWhile isIdentContinue = cs ∧ (cs ++ rest).dropWhile isIdentContinue = rest := by
  have hword : ∀ c ∈ cs, isIdentContinue c = true := fun c hc => (wordChar_of_plain (hcs c hc)).2.1
  have hnone : rest.takeWhile isIdentContinue = [] ∧ rest.dropWhile isIdentContinue = rest := by
    cases rest with
    | nil => exact ⟨rfl, rfl⟩
    | cons c more => simp_all [endsWord]
  rw [List.takeWhile_append_of_pos hword, List.dropWhile_append_of_pos hword, hnone.1, hnone.2]
  exact ⟨List.append_nil cs, rfl⟩

/-- No such mark comes next. -/
def Unmarked (cs : List Char) : Prop := ∀ c ∈ cs.head?, c ∉ wordMarks

/-- What follows a letter does not make a literal of it. -/
structure StaysWord (cs : List Char) : Prop where
  first : Unmarked cs
  second : ∀ more, cs = 'r' :: more → Unmarked more

theorem unmarked_append {cs rest : List Char} (hcs : IsPlain cs) (hrest : endsWord rest = true) :
    Unmarked (cs ++ rest) := by
  intro c hc
  cases cs with
  | nil =>
    rw [List.nil_append] at hc
    simp_all [endsWord, wordMarks]
  | cons d more =>
    obtain rfl : d = c := by simpa using hc
    exact (wordChar_of_plain (hcs d List.mem_cons_self)).2.2.2.2.1

/-- Neither the rest of a name nor what ends it makes a literal of a letter. -/
theorem staysWord_append {cs rest : List Char} (hcs : IsPlain cs) (hrest : endsWord rest = true) :
    StaysWord (cs ++ rest) where
  first := unmarked_append hcs hrest
  second more h := by
    cases cs with
    | nil =>
      rw [List.nil_append] at h
      simp [h, endsWord, show isIdentContinue 'r' = true by decide] at hrest
    | cons d tail =>
      obtain ⟨-, rfl⟩ := List.cons_eq_cons.1 h
      exact unmarked_append hcs.of_cons hrest

theorem rawString_eq_none {cs : List Char} (h : Unmarked cs) (form : StringForm) :
    rawString form cs = none := by
  cases cs with
  | nil => rfl
  | cons c more => simp_all [rawString, Unmarked, wordMarks]

/-- A number starts with a digit. -/
theorem number_eq_none {c : Char} (hdigit : c.isDigit = false)
    (hhex : (hexDigit? c).all (10 ≤ ·) = true) (cs : List Char) :
    floatLiteral (c :: cs) = none ∧ integerLiteral (c :: cs) = none := by
  refine ⟨by simp [floatLiteral, afterFloatDigits, hdigit], ?_⟩
  have hten : digits 10 0 false (c :: cs) = none := by
    rw [digits]
    cases h : hexDigit? c <;> grind
  have hzero : c ≠ '0' := by rintro rfl; cases hdigit
  unfold integerLiteral
  split
  case h_4 => simp [hten]
  all_goals exact absurd (List.cons_eq_cons.1 ‹_›).1 hzero

theorem stringLiteral_eq_none {c : Char} {cs : List Char} (hquote : c ≠ '"')
    (hcs : c ∈ ['r', 'b', 'c'] → StaysWord cs) : stringLiteral (c :: cs) = none := by
  unfold stringLiteral
  split
  case h_1 heq => simp_all
  case h_2 heq =>
    obtain ⟨rfl, rfl⟩ := List.cons_eq_cons.1 heq
    rw [rawString_eq_none (hcs (by decide)).first]
  case h_4 heq =>
    obtain ⟨rfl, rfl⟩ := List.cons_eq_cons.1 heq
    rw [rawString_eq_none ((hcs (by decide)).second _ rfl)]
  case h_6 heq =>
    obtain ⟨rfl, rfl⟩ := List.cons_eq_cons.1 heq
    rw [rawString_eq_none ((hcs (by decide)).second _ rfl)]
  case h_7 => rfl
  all_goals
    obtain ⟨rfl, rfl⟩ := List.cons_eq_cons.1 ‹_›
    exact absurd (by decide) ((hcs (by decide)).first '"' rfl)

/-- Neither a word nor punctuation is a literal. -/
theorem literal_eq_none {c : Char} {cs : List Char} (hquote : c ≠ '"') (happos : c ≠ '\'')
    (hdigit : c.isDigit = false) (hhex : (hexDigit? c).all (10 ≤ ·) = true)
    (hcs : c ∈ ['r', 'b', 'c'] → StaysWord cs) : literal (c :: cs) = none := by
  have hchar : charLiteral (c :: cs) = none := by
    unfold charLiteral
    split
    · obtain ⟨rfl, rfl⟩ := List.cons_eq_cons.1 ‹_›
      exact absurd (by decide) ((hcs (by decide)).first '\'' rfl)
    · exact absurd (List.cons_eq_cons.1 ‹_›).1 happos
    · rfl
  obtain ⟨hfloat, hinteger⟩ := number_eq_none hdigit hhex cs
  rw [literal, stringLiteral_eq_none hquote hcs, hchar, hfloat, hinteger]
  rfl

theorem opensLiteral_eq_false {c : Char} {cs : List Char} (hcs : StaysWord cs) :
    opensLiteral (c :: cs) = false := by
  unfold opensLiteral
  split
  case h_11 => rfl
  all_goals
    obtain ⟨-, rfl⟩ := List.cons_eq_cons.1 ‹_›
    first
    | exact absurd (by decide) (hcs.first _ rfl)
    | exact absurd (by decide) (hcs.second _ rfl _ rfl)

theorem anyIdent_eq_plainIdent {c : Char} {cs : List Char} (hcs : StaysWord cs) :
    anyIdent (c :: cs) = plainIdent (c :: cs) := by
  have hfirst := hcs.first
  unfold anyIdent
  split <;> simp_all [Unmarked, wordMarks]

/-- A word of ASCII, which may be a keyword. -/
structure IsWord (word : String) : Prop where
  plain : IsPlain word.toList
  nonempty : word.toList ≠ []
  start : Naming.opensWithDigit word.toList = false

instance (word : String) : Decidable (IsWord word) :=
  decidable_of_iff ((word.toList.all Naming.isIdentifierChar = true ∧ word.toList ≠ []) ∧
    Naming.opensWithDigit word.toList = false)
    ⟨fun h => ⟨List.all_eq_true.1 h.1.1, h.1.2, h.2⟩,
      fun h => ⟨⟨List.all_eq_true.2 h.plain, h.nonempty⟩, h.start⟩⟩

theorem IsWord.of_isIdentifier {name : String} (h : Naming.isIdentifier name = true) :
    IsWord name := by
  obtain ⟨hplain, hne, hdigit, -, -⟩ := (Naming.isIdentifier_iff name).1 h
  exact ⟨hplain, hne, hdigit⟩

/-- A word is read as one token. -/
theorem leaf_word {name : String} (h : IsWord name) {rest : List Char}
    (hrest : endsWord rest = true) (p : Position) :
    leaf p (name.toList ++ rest) = some (.word name p, rest) := by
  obtain ⟨hplain, hne, hdigit⟩ := h
  obtain ⟨c, cs, hname⟩ := List.exists_cons_of_ne_nil hne
  rw [hname] at hplain hdigit
  have hc := hplain c List.mem_cons_self
  have hdigit : c.isDigit = false := by simpa [Naming.opensWithDigit] using hdigit
  have hstays := staysWord_append hplain.of_cons hrest
  obtain ⟨hstart, -, -, hpunct, hopen, -, -, hhex⟩ := wordChar_of_plain hc
  obtain ⟨htake, hdrop⟩ := span_word hplain.of_cons hrest
  have hident : anyIdent (c :: (cs ++ rest)) = some (c :: cs, rest) := by
    simp [anyIdent_eq_plainIdent hstays, plainIdent, hstart, hdigit, htake, hdrop]
  obtain ⟨hquote, happos, -⟩ : c ≠ '"' ∧ c ≠ '\'' ∧ c ≠ '#' := by simpa [wordMarks] using hopen
  have hnoPunct : opensPunct (c :: (cs ++ rest)) = false := by simp [opensPunct, hpunct, happos]
  rw [hname, List.cons_append, leaf.eq_def,
    literal_eq_none hquote happos hdigit (hhex hdigit) fun _ => hstays]
  simp [hnoPunct, opensLiteral_eq_false hstays, hident, ← hname]

/-! ## Punctuation -/

/-- Punctuation belongs to no word and opens nothing but a comment. -/
theorem punctuation_spec {c : Char} (h : c ∈ punctuation) :
    isGap c = false ∧ c.isDigit = false ∧ c ∉ ['"', '\'', 'r', 'b', 'c'] ∧
      hexDigit? c = none ∧ Delimiter.ofOpening c = none ∧ Delimiter.ofClosing c = none := by
  revert c
  rw [← List.forall_iff_forall_mem]
  decide

/-- Punctuation that opens no comment is read as one character. -/
theorem leaf_punct {c : Char} {cs : List Char} (hc : c ∈ punctuation)
    (comment : opensComment (c :: cs) = false) (p : Position) :
    leaf p (c :: cs) = some (.punct c (opensPunct cs) p, cs) := by
  obtain ⟨-, hdigit, hopen, hhex, -, -⟩ := punctuation_spec hc
  obtain ⟨hquote, happos, hletters⟩ : c ≠ '"' ∧ c ≠ '\'' ∧ c ≠ 'r' ∧ c ≠ 'b' ∧ c ≠ 'c' := by
    simpa using hopen
  have hliteral : literal (c :: cs) = none := by
    refine literal_eq_none hquote happos hdigit (by rw [hhex]; rfl) fun hmem => ?_
    exact absurd hmem (by simp [hletters])
  have hpunct : opensPunct (c :: cs) = true := by simp [opensPunct, comment, hc]
  rw [leaf.eq_def, hliteral]
  simp [hpunct]

/-! ## Quoted texts -/

theorem afterSuffix_eq_self {c : Char} {cs : List Char} (h : isIdentStart c = false) :
    afterSuffix (c :: cs) = c :: cs := by
  simp [afterSuffix, plainIdent, h]

theorem leaf_quoted (s : String) {rest : List Char} (hrest : afterSuffix rest = rest)
    (p : Position) :
    leaf p ((quoted s).toList ++ rest) = some (.literal (.text s) p, rest) := by
  simp [leaf, literal, stringLiteral_quoted, hrest]

/-! ## Steps -/

theorem moved_self (p : Position) (cs : List Char) : moved p cs cs = p := by
  simp [moved, Position.advance]

theorem moved_cons (p : Position) (c : Char) {cs rest : List Char} (h : rest.length ≤ cs.length) :
    moved p (c :: cs) rest = moved (p.step c) cs rest := by
  have hlength : (c :: cs).length - rest.length = cs.length - rest.length + 1 := by
    rw [List.length_cons]
    omega
  rw [moved, hlength, List.take_succ_cons]
  rfl

variable {outer : List OpenGroup} {read : List Token} {p : Position} {fuel : Nat}
  {cs rest : List Char} {c : Char}

/-- A blank before a token. -/
theorem run_gap (h : isGap c = true) :
    run (fuel + 1) outer read p (c :: cs) = run (fuel + 1) outer read (p.step c) cs := by
  rw [run.eq_def, run.eq_def]
  simp only [List.length_cons, skip_gap h, moved_cons p c (length_skip_le _ _)]

/-- One token that is no group. -/
theorem run_leaf (gap : isGap c = false) (comment : opensComment (c :: cs) = false)
    (hopen : Delimiter.ofOpening c = none) (hclose : Delimiter.ofClosing c = none) {t : Token}
    (h : leaf p (c :: cs) = some (t, rest)) : run (fuel + 1) outer read p (c :: cs) =
      run fuel outer (t :: read) (moved p (c :: cs) rest) rest := by
  rw [run.eq_def]
  simp only [skip_eq_self comment (by simpa using gap), moved_self, docComment_eq_none comment, hopen,
    hclose, h]

/-- A word. -/
theorem run_word {name : String} (h : IsWord name)
    (hrest : endsWord rest = true) : run (fuel + 1) outer read p (name.toList ++ rest) =
      run fuel outer (.word name p :: read) (moved p (name.toList ++ rest) rest) rest := by
  have hleaf := leaf_word h hrest p
  obtain ⟨hplain, hne, -⟩ := h
  obtain ⟨c, cs, hname⟩ := List.exists_cons_of_ne_nil hne
  rw [hname] at hplain hleaf ⊢
  obtain ⟨-, -, hgap, -, -, hopen, hclose, -⟩ := wordChar_of_plain (hplain c List.mem_cons_self)
  have hc : c ≠ '/' := by
    rintro rfl
    exact absurd (hplain '/' List.mem_cons_self) (by decide)
  exact run_leaf hgap (by simp [opensComment, hc]) hopen hclose hleaf

/-- A punctuation character. -/
theorem run_punct (hc : c ∈ punctuation) (comment : opensComment (c :: cs) = false) :
    run (fuel + 1) outer read p (c :: cs) =
      run fuel outer (.punct c (opensPunct cs) p :: read) (moved p (c :: cs) cs) cs := by
  obtain ⟨hgap, -, -, -, hopen, hclose⟩ := punctuation_spec hc
  exact run_leaf hgap comment hopen hclose (leaf_punct hc comment p)

/-- A quoted text. -/
theorem run_quoted (s : String) (hrest : afterSuffix rest = rest) :
    run (fuel + 1) outer read p ((quoted s).toList ++ rest) =
      run fuel outer (.literal (.text s) p :: read) (moved p ((quoted s).toList ++ rest) rest) rest := by
  have hleaf := leaf_quoted s hrest p
  obtain ⟨more, hmore⟩ : ∃ more, (quoted s).toList ++ rest = '"' :: more := by
    simp [quoted, quotedChars]
  rw [hmore] at hleaf ⊢
  exact run_leaf (by decide) (by simp [opensComment]) (by decide) (by decide) hleaf

/-- The start of a group. -/
theorem run_opening {d : Delimiter} (h : Delimiter.ofOpening c = some d) :
    run (fuel + 1) outer read p (c :: cs) = run fuel (⟨d, p, read⟩ :: outer) [] (p.step c) cs := by
  have hc : isGap c = false ∧ c ≠ '/' := by
    unfold Delimiter.ofOpening at h
    split at h <;> first | decide | cases h
  rw [run.eq_def]
  have comment : opensComment (c :: cs) = false := by simp [opensComment, hc]
  simp only [skip_eq_self comment (by simpa using hc.1), moved_self, docComment_eq_none comment, h]

/-- The end of a group. -/
theorem run_closing {d : Delimiter} (h : Delimiter.ofClosing c = some d) {pos : Position}
    {before : List Token} : run (fuel + 1) (⟨d, pos, before⟩ :: outer) read p (c :: cs) =
      run fuel outer (.group d read.reverse pos p :: before) (p.step c) cs := by
  have hc : isGap c = false ∧ c ≠ '/' ∧ Delimiter.ofOpening c = none := by
    unfold Delimiter.ofClosing at h
    split at h <;> first | decide | cases h
  rw [run.eq_def]
  have comment : opensComment (c :: cs) = false := by simp [opensComment, hc]
  simp only [skip_eq_self comment (by simpa using hc.1), moved_self, docComment_eq_none comment, h,
    hc.2.2, if_true]

/-- The end of the text. -/
theorem run_end : run (fuel + 1) [] read p [] = .ok read.reverse := by
  rw [run.eq_def]
  have hskip : skip 1 [] = [] := skip_eq_self rfl rfl 0
  simp [hskip, docComment]

end ContentModels.Source.Lexer
