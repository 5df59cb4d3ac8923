import ContentModels.Proofs.Source.Agree
import ContentModels.Proofs.Source.Lexing
import ContentModels.Proofs.Source.Masking

/-!
# Literals and words before other text

A literal or a word that is read of a text is also read where other text follows, if no token goes
on into that text. What is given up is given up as well: a string that cannot go on has no use for
what comes later.

## Main definitions

* `Lexer.parts` — whether no token goes on into a text.

## Main statements

* `Lexer.anyIdent_append` — a word before other text.
* `Lexer.literal_append` — a literal before other text.
* `Lexer.literal_append_of_lifetime` — what is a lifetime stays no literal.
-/

namespace ContentModels.Source.Lexer

open Text

/-! ## What goes on with no token -/

/-- The characters, apart from those of names, that a token may go on with. -/
def tokenMarks : List Char := ['"', '\'', '#', '.', '+', '-', '/', '*']

/-- Whether no token goes on into a text. -/
def parts (cs : List Char) : Bool :=
  cs.head?.all fun c => !isIdentStart c && !isIdentContinue c && !tokenMarks.contains c

variable {X : List Char}

theorem parts_cons {c : Char} {cs : List Char} : parts (c :: cs) = true ↔
    isIdentStart c = false ∧ isIdentContinue c = false ∧ c ∉ tokenMarks := by
  simp [parts, and_assoc]

/-- What is left of a text before `X`. -/
def before {α : Type} (X : List Char) (r : α × List Char) : α × List Char := (r.1, r.2 ++ X)

/-! ## Names -/

theorem span_append {p : Char → Bool} (hX : ∀ c ∈ X.head?, p c = false) (cs : List Char) :
    (cs ++ X).takeWhile p = cs.takeWhile p ∧ (cs ++ X).dropWhile p = cs.dropWhile p ++ X := by
  induction cs with
  | nil => cases X <;> simp_all
  | cons c cs ih => by_cases hc : p c <;> simp_all

theorem plainIdent_append (hX : parts X = true) (cs : List Char) :
    plainIdent (cs ++ X) = (plainIdent cs).map (before X) := by
  have hstop : ∀ c ∈ X.head?, isIdentContinue c = false := by
    cases X <;> simp_all [parts_cons]
  cases cs with
  | nil => cases X <;> simp_all [plainIdent, parts_cons]
  | cons c cs =>
    obtain ⟨htake, hdrop⟩ := span_append hstop cs
    simp only [List.cons_append, plainIdent, htake, hdrop]
    split <;> simp [before]

theorem anyIdent_append (hX : parts X = true) {cs name rest : List Char}
    (h : anyIdent cs = some (name, rest)) : anyIdent (cs ++ X) = some (name, rest ++ X) := by
  have hmark : X.head? ≠ some '#' := by
    cases X <;> simp_all [parts_cons, tokenMarks]
  unfold anyIdent at h
  split at h
  · next more =>
    simp only [List.cons_append, anyIdent, plainIdent_append hX]
    cases hplain : plainIdent more with
    | none => simp [hplain] at h
    | some r =>
      simp only [hplain, Option.map_some, before] at h ⊢
      split at h <;> simp_all
  · next hraw =>
    have hplain : plainIdent (cs ++ X) = some (name, rest ++ X) := by
      rw [plainIdent_append hX, h]
      rfl
    unfold anyIdent
    split
    · next more heq =>
      exfalso
      rcases cs with - | ⟨c, - | ⟨d, tail⟩⟩
      · simp [plainIdent] at h
      · simp_all
      · simp_all
    · exact hplain

theorem afterSuffix_append (hX : parts X = true) (cs : List Char) :
    afterSuffix (cs ++ X) = afterSuffix cs ++ X := by
  rw [afterSuffix, afterSuffix, plainIdent_append hX]
  cases plainIdent cs <;> simp [before]

theorem wordBreak_append (hX : parts X = true) (cs : List Char) :
    wordBreak (cs ++ X) = wordBreak cs := by
  cases cs with
  | nil => cases X <;> simp_all [wordBreak, parts_cons]
  | cons c cs => rfl

/-! ## Escapes -/

theorem unicodeDigits_append {digits value : Nat} {cs rest : List Char} {c : Char}
    (h : unicodeDigits digits value cs = some (c, rest)) :
    unicodeDigits digits value (cs ++ X) = some (c, rest ++ X) := by
  fun_induction unicodeDigits digits value cs <;> simp_all [unicodeDigits]

theorem unicodeEscape_append {cs rest : List Char} {c : Char}
    (h : unicodeEscape cs = some (c, rest)) : unicodeEscape (cs ++ X) = some (c, rest ++ X) := by
  unfold unicodeEscape at h
  split at h
  · exact unicodeDigits_append h
  · cases h

theorem charEscape_append {form : StringForm} {cs rest : List Char} {c : Char}
    (h : charEscape form cs = some (c, rest)) : charEscape form (cs ++ X) = some (c, rest ++ X) := by
  fun_cases charEscape form cs <;>
    simp [charEscape, Option.bind_eq_some_iff, bind] at h ⊢ <;> grind [unicodeEscape_append]

/-- No escape starts with a line break. -/
theorem charEscape_ne_lineBreak {form : StringForm} {cs : List Char} {r : Char × List Char}
    (h : charEscape form cs = some r) : ∃ c more, cs = c :: more ∧ c ≠ '\n' ∧ c ≠ '\r' := by
  cases cs with
  | nil => simp [charEscape] at h
  | cons c more =>
    refine ⟨c, more, rfl, ?_, ?_⟩ <;> rintro rfl <;> simp [charEscape] at h

theorem skipContinuation_append {cs rest : List Char} (h : skipContinuation cs = some rest) :
    skipContinuation (cs ++ X) = some (rest ++ X) := by
  fun_induction skipContinuation cs <;> simp_all [skipContinuation]
  subst_vars
  simp_all [skipContinuation]

/-! ## Strings -/

theorem stringBody_append {form : StringForm} {fuel fuel' : Nat} (hfuel : fuel ≤ fuel')
    {cs rest value : List Char} (h : stringBody form fuel cs = some (value, rest)) :
    stringBody form fuel' (cs ++ X) = some (value, rest ++ X) := by
  induction fuel generalizing fuel' cs value with
  | zero => simp [stringBody] at h
  | succ fuel ih =>
    obtain ⟨fuel', rfl⟩ := Nat.exists_eq_add_one.2 (Nat.zero_lt_of_lt hfuel)
    replace ih {cs value : List Char} (h : stringBody form fuel cs = some (value, rest)) :=
      ih (Nat.le_of_succ_le_succ hfuel) h
    unfold stringBody at h
    split at h
    · cases h
    · simp_all [stringBody]
    · simp [stringBody, Option.bind_eq_some_iff, bind] at h ⊢
      grind
    · cases h
    · simp [stringBody, Option.bind_eq_some_iff] at h ⊢
      grind [skipContinuation_append]
    · simp [stringBody, Option.bind_eq_some_iff] at h ⊢
      grind [skipContinuation_append]
    · simp only [Option.bind_eq_some_iff, bind] at h
      obtain ⟨⟨c, more⟩, hescape, ⟨value', rest'⟩, hbody, h⟩ := h
      obtain ⟨e, tail, rfl, hline, hreturn⟩ := charEscape_ne_lineBreak hescape
      have hescape' := charEscape_append (X := X) hescape
      simp_all [stringBody, bind]
    · simp [stringBody, Option.bind_eq_some_iff, bind] at h ⊢
      grind

theorem takeHashes_append (hX : X.head? ≠ some '#') (marks : Nat) (cs : List Char) :
    takeHashes marks (cs ++ X) = (takeHashes marks cs).map (· ++ X) := by
  induction marks generalizing cs with
  | zero => rfl
  | succ marks ih =>
    cases cs with
    | nil => cases X <;> simp_all [takeHashes]
    | cons c cs =>
      by_cases hc : c = '#'
      · subst hc
        exact ih cs
      · simp [takeHashes, hc]

theorem rawBody_append (hX : X.head? ≠ some '#') {form : StringForm} {marks : Nat}
    {cs rest value : List Char} (h : rawBody form marks cs = some (value, rest)) :
    rawBody form marks (cs ++ X) = some (value, rest ++ X) := by
  fun_induction rawBody form marks cs generalizing value <;>
    simp_all [rawBody, takeHashes_append hX, Option.map_eq_some_iff]
  all_goals
    obtain ⟨v, hv, rfl⟩ := h
    grind

theorem rawString_append (hX : X.head? ≠ some '#') {form : StringForm} {cs rest value : List Char}
    (h : rawString form cs = some (value, rest)) :
    rawString form (cs ++ X) = some (value, rest ++ X) := by
  obtain ⟨htake, hdrop⟩ := span_append (p := (· == '#')) (X := X) (by cases X <;> simp_all) cs
  simp only [rawString, htake, hdrop] at h ⊢
  split at h
  · next body heq =>
    simp only [heq, List.cons_append]
    split at h
    · cases h
    · next hmarks =>
      rw [if_neg hmarks]
      exact rawBody_append hX h
  · cases h

theorem stringLiteral_append (hX : parts X = true) {cs rest : List Char} {value : Literal}
    (h : stringLiteral cs = some (value, rest)) :
    stringLiteral (cs ++ X) = some (value, rest ++ X) := by
  have hmark : X.head? ≠ some '#' := by
    cases X <;> simp_all [parts_cons, tokenMarks]
  have hbody (form : StringForm) (body : List Char) {r : List Char × List Char}
      (h : stringBody form (body.length + 1) body = some r) :
      stringBody form ((body ++ X).length + 1) (body ++ X) = some (r.1, r.2 ++ X) :=
    stringBody_append (by simp) h
  have hraw (form : StringForm) (body : List Char) {r : List Char × List Char}
      (h : rawString form body = some r) : rawString form (body ++ X) = some (r.1, r.2 ++ X) :=
    rawString_append hmark h
  unfold stringLiteral at h
  split at h
  case h_7 => cases h
  all_goals
    dsimp only at h
    split at h
    · next v r heq =>
      obtain ⟨rfl, rfl⟩ := Prod.mk.inj (Option.some.inj h)
      first
      | simp only [List.cons_append, stringLiteral, hbody _ _ heq, afterSuffix_append hX]
      | simp only [List.cons_append, stringLiteral, hraw _ _ heq, afterSuffix_append hX]
    · cases h

/-! ## Characters -/

theorem charBody_append (hX : parts X = true) {form : StringForm} {cs rest : List Char}
    {value : Literal} (h : charBody form cs = some (value, rest)) :
    charBody form (cs ++ X) = some (value, rest ++ X) := by
  cases cs with
  | nil => simp [charBody] at h
  | cons c more =>
    by_cases hback : c = '\\'
    · subst hback
      simp only [charBody, bind, Option.bind_eq_some_iff, Option.map_eq_some_iff] at h
      obtain ⟨after, ⟨r, hr, rfl⟩, h⟩ := h
      split at h
      · next tail heq =>
        obtain ⟨rfl, rfl⟩ := Prod.mk.inj (Option.some.inj h)
        simp [charBody, charEscape_append (X := X) hr, heq, afterSuffix_append hX]
      · cases h
    · by_cases hadmits : form.admits c = true
      · simp only [charBody, hadmits, if_true, bind, Option.bind_some] at h
        split at h
        · next tail heq =>
          obtain ⟨rfl, rfl⟩ := Prod.mk.inj (Option.some.inj h)
          simp [charBody, hadmits, afterSuffix_append hX]
        · cases h
      · simp [charBody, hadmits] at h

theorem charLiteral_append (hX : parts X = true) {cs rest : List Char} {value : Literal}
    (h : charLiteral cs = some (value, rest)) : charLiteral (cs ++ X) = some (value, rest ++ X) := by
  unfold charLiteral at h
  split at h
  · exact charBody_append hX h
  · exact charBody_append hX h
  · cases h

/-! ## Numbers -/

theorem isIdentifierChar_of_hexDigit? {c : Char} {n : Nat} (h : hexDigit? c = some n) :
    Naming.isIdentifierChar c = true := by
  have hascii : c.toNat < 0x80 := by
    simp only [hexDigit?, Char.le_def, UInt32.le_iff_toNat_le] at h
    split_ifs at h with hdigit hsmall hcapital
    · exact hdigit.2.trans_lt (by decide)
    · exact hsmall.2.trans_lt (by decide)
    · exact hcapital.2.trans_lt (by decide)
  exact ascii_forall (P := fun c => hexDigit? c ≠ none → Naming.isIdentifierChar c = true)
    (by decide) hascii (by simp [h])

theorem number_of_parts {c : Char} (h : isIdentContinue c = false) :
    c.isDigit = false ∧ c ≠ '_' ∧ hexDigit? c = none := by
  have hplain : ¬Naming.isIdentifierChar c = true := by
    intro hc
    rw [(wordChar_of_plain hc).2.1] at h
    cases h
  refine ⟨?_, ?_, ?_⟩
  · rw [Bool.eq_false_iff]
    intro hdigit
    exact hplain (isIdentifierChar_of_isAlphanum (by simp [Char.isAlphanum, hdigit]))
  · rintro rfl
    exact hplain rfl
  · rw [Option.eq_none_iff_forall_ne_some]
    exact fun n hn => hplain (isIdentifierChar_of_hexDigit? hn)

theorem mantissa_append (hX : parts X = true) (dotted : Bool) (cs : List Char) :
    mantissa dotted (cs ++ X) = (mantissa dotted cs).map (before X) := by
  have hhead : ∀ c ∈ X.head?, c ≠ '.' ∧ isIdentStart c = false := by
    cases X with
    | nil => simp
    | cons c X =>
      obtain ⟨hstart, hcontinue, hmark⟩ := parts_cons.1 hX
      simp only [List.head?_cons, Option.mem_def, Option.some.injEq, forall_eq']
      exact ⟨by rintro rfl; simp [tokenMarks] at hmark, hstart⟩
  have hend (dotted : Bool) : mantissa dotted X = some (dotted, X) := by
    cases X with
    | nil => rfl
    | cons c X =>
      obtain ⟨-, hcontinue, -⟩ := parts_cons.1 hX
      obtain ⟨hdigit, hlow, -⟩ := number_of_parts hcontinue
      simp at hhead
      unfold mantissa
      split
      · simp_all
      · simp_all
      · simp_all
  fun_induction mantissa dotted cs
  case case1 dotted => simpa [before] using hend dotted
  case case2 rest =>
    have hdot (cs : List Char) : mantissa true ('.' :: cs) = some (true, '.' :: cs) := by
      cases cs <;> simp [mantissa]
    exact hdot (rest ++ X)
  case case5 dotted hdotted =>
    have hdot : mantissa false ('.' :: X) = some (true, X) := by
      cases X <;> simp_all [mantissa]
    simpa [before, hdotted] using hdot
  all_goals simp_all [mantissa, before]

theorem exponent_append (hX : parts X = true) (signed valued : Bool) (cs : List Char) :
    exponent signed valued (cs ++ X) = (exponent signed valued cs).map (· ++ X) := by
  have hend (signed valued : Bool) : exponent signed valued X = if valued then some X else none := by
    cases X with
    | nil => rfl
    | cons c X =>
      obtain ⟨-, hcontinue, hmark⟩ := parts_cons.1 hX
      obtain ⟨hdigit, hlow, -⟩ := number_of_parts hcontinue
      have hsign : c ≠ '+' ∧ c ≠ '-' := by constructor <;> rintro rfl <;> simp [tokenMarks] at hmark
      simp [exponent, hdigit, hlow, hsign]
  fun_induction exponent signed valued cs
  all_goals
    simp_all only [List.nil_append, List.cons_append, exponent]
    simp_all

theorem digits_append (hX : parts X = true) (base value : Nat) (seen : Bool) (cs : List Char) :
    digits base value seen (cs ++ X) = (digits base value seen cs).map (before X) := by
  have hend (value : Nat) (seen : Bool) :
      digits base value seen X = if seen then some (value, X) else none := by
    cases X with
    | nil => rfl
    | cons c X =>
      obtain ⟨-, hcontinue, hmark⟩ := parts_cons.1 hX
      obtain ⟨-, hlow, hhex⟩ := number_of_parts hcontinue
      simp [digits, hlow, hhex]
  fun_induction digits base value seen cs
  all_goals simp_all [digits, before]

theorem afterFloatDigits_append (hX : parts X = true) (cs : List Char) :
    afterFloatDigits (cs ++ X) = (afterFloatDigits cs).map (· ++ X) := by
  cases cs with
  | nil =>
    cases X with
    | nil => rfl
    | cons c X =>
      have hdigit := (number_of_parts (parts_cons.1 hX).2.1).1
      simp [afterFloatDigits, hdigit]
  | cons c cs =>
    simp only [List.cons_append, afterFloatDigits, mantissa_append hX]
    split
    · cases hmantissa : mantissa false cs with
      | none => rfl
      | some r =>
        obtain ⟨dotted, rest⟩ := r
        simp only [before, Option.map_some, bind, Option.bind_some]
        cases rest with
        | nil =>
          cases X with
          | nil => cases dotted <;> rfl
          | cons e X =>
            have hletter : e ≠ 'e' ∧ e ≠ 'E' := by
              constructor <;> rintro rfl <;> exact absurd (parts_cons.1 hX).2.1 (by decide)
            cases dotted <;> simp [hletter]
        | cons e after =>
          simp only [List.cons_append, exponent_append hX]
          cases exponent false false after with
          | none => simp
          | some rest =>
            simp
            grind
    · rfl

theorem take_append (cs rest X : List Char) :
    (cs ++ X).take ((cs ++ X).length - (rest ++ X).length) = cs.take (cs.length - rest.length) := by
  rw [List.length_append, List.length_append, Nat.add_sub_add_right,
    List.take_append_of_le_length (Nat.sub_le _ _)]

theorem floatLiteral_append (hX : parts X = true) (cs : List Char) :
    floatLiteral (cs ++ X) = (floatLiteral cs).map (before X) := by
  simp only [floatLiteral, afterFloatDigits_append hX, bind]
  cases afterFloatDigits cs with
  | none => rfl
  | some rest =>
    simp only [Option.map_some, Option.bind_some, afterSuffix_append hX, wordBreak_append hX,
      take_append]
    split <;> rfl

/-- The digits of an integer in the base that it starts with. -/
def integerDigits (cs : List Char) : Option (Nat × List Char) :=
  match cs with
  | '0' :: 'x' :: rest => digits 16 0 false rest
  | '0' :: 'o' :: rest => digits 8 0 false rest
  | '0' :: 'b' :: rest => digits 2 0 false rest
  | _ => digits 10 0 false cs

/-- An integer behind its digits. -/
def closeInteger (r : Nat × List Char) : Option (Literal × List Char) :=
  if wordBreak (afterSuffix r.2) then
    some (.integer r.1 (String.ofList (r.2.take (r.2.length - (afterSuffix r.2).length))),
      afterSuffix r.2)
  else none

theorem integerLiteral_eq (cs : List Char) :
    integerLiteral cs = (integerDigits cs).bind closeInteger := by
  unfold integerLiteral
  split
  case h_4 hx ho hb =>
    have hten : integerDigits cs = digits 10 0 false cs := by
      unfold integerDigits
      split <;> simp_all
    rw [hten]
    rfl
  all_goals rfl

theorem integerDigits_append (hX : parts X = true) {cs : List Char} (hcs : cs ≠ []) :
    integerDigits (cs ++ X) = (integerDigits cs).map (before X) := by
  have hbase : ∀ c ∈ X.head?, c ≠ 'x' ∧ c ≠ 'o' ∧ c ≠ 'b' := by
    cases X with
    | nil => simp
    | cons c X =>
      simp only [List.head?_cons, Option.mem_def, Option.some.injEq, forall_eq']
      refine ⟨?_, ?_, ?_⟩ <;> rintro rfl <;> exact absurd (parts_cons.1 hX).2.1 (by decide)
  have hten (cs : List Char) := digits_append hX 10 0 false cs
  fun_cases integerDigits cs
  case case4 hx ho hb =>
    rw [← hten]
    unfold integerDigits
    split
    · next rest heq => rcases cs with - | ⟨c, - | ⟨d, more⟩⟩ <;> simp_all
    · next rest heq => rcases cs with - | ⟨c, - | ⟨d, more⟩⟩ <;> simp_all
    · next rest heq => rcases cs with - | ⟨c, - | ⟨d, more⟩⟩ <;> simp_all
    · rfl
  all_goals exact digits_append hX _ _ _ _

theorem integerLiteral_append (hX : parts X = true) {cs : List Char} (hcs : cs ≠ []) :
    integerLiteral (cs ++ X) = (integerLiteral cs).map (before X) := by
  rw [integerLiteral_eq, integerLiteral_eq, integerDigits_append hX hcs]
  cases integerDigits cs with
  | none => rfl
  | some r =>
    simp only [before, Option.map_some, Option.bind_some, closeInteger, afterSuffix_append hX,
      wordBreak_append hX, take_append]
    split <;> rfl

/-! ## Literals -/

theorem hexDigit?_of_not_isDigit {c : Char} (h : c.isDigit = false) :
    (hexDigit? c).all (10 ≤ ·) = true := by
  have hdigit : ¬('0' ≤ c ∧ c ≤ '9') := by
    simpa [Char.isDigit, Char.le_def, UInt32.le_iff_toNat_le] using h
  rw [hexDigit?, if_neg hdigit]
  split <;> simp
  split <;> simp

/-- A literal that comes first is read as it is. -/
theorem literal_append (hX : parts X = true) {cs rest : List Char} {value : Literal}
    (h : literal cs = some (value, rest)) : literal (cs ++ X) = some (value, rest ++ X) := by
  cases hstring : stringLiteral cs with
  | some r =>
    simp only [literal, hstring] at h
    obtain rfl : r = (value, rest) := by simpa using h
    simp [literal, stringLiteral_append hX hstring]
  | none =>
    cases hchar : charLiteral cs with
    | some r =>
      simp only [literal, hstring, hchar] at h
      obtain rfl : r = (value, rest) := by simpa using h
      have hnone : stringLiteral (cs ++ X) = none := by
        unfold charLiteral at hchar
        split at hchar <;> simp_all [stringLiteral]
      simp [literal, hnone, charLiteral_append hX hchar]
    | none =>
      have hnumber : (floatLiteral cs).or (integerLiteral cs) = some (value, rest) := by
        simpa [literal, hstring, hchar] using h
      have hcs : cs ≠ [] := by
        rintro rfl
        simp [floatLiteral, afterFloatDigits, integerLiteral, digits] at hnumber
      obtain ⟨c, more, rfl⟩ := List.exists_cons_of_ne_nil hcs
      have hdigit : c.isDigit = true := by
        by_contra hdigit
        rw [Bool.not_eq_true] at hdigit
        obtain ⟨hfloat, hinteger⟩ := number_eq_none hdigit (hexDigit?_of_not_isDigit hdigit) more
        simp [hfloat, hinteger] at hnumber
      have hquote : stringLiteral (c :: more ++ X) = none ∧ charLiteral (c :: more ++ X) = none := by
        constructor
        · unfold stringLiteral
          split <;> simp_all
        · unfold charLiteral
          split <;> simp_all
      simp only [literal, hquote.1, hquote.2, floatLiteral_append hX, integerLiteral_append hX hcs]
      cases hfloat : floatLiteral (c :: more) with
      | some r => simp_all [before]
      | none => simp_all [before]

/-! ## Openings -/

theorem opensComment_append (hX : parts X = true) {cs : List Char} (hcs : cs ≠ []) :
    opensComment (cs ++ X) = opensComment cs := by
  have hhead : ∀ c ∈ X.head?, c ≠ '/' ∧ c ≠ '*' := by
    cases X <;> simp_all [parts_cons, tokenMarks]
  match cs with
  | [] => exact absurd rfl hcs
  | [c] => cases X <;> simp_all [opensComment]
  | c :: d :: more => unfold opensComment; grind

theorem opensPunct_append (hX : parts X = true) {cs : List Char} (hcs : cs ≠ []) :
    opensPunct (cs ++ X) = opensPunct cs := by
  obtain ⟨c, more, rfl⟩ := List.exists_cons_of_ne_nil hcs
  rw [opensPunct, opensPunct, opensComment_append hX hcs]
  rfl

/-- The openings of literals that start like words. -/
def literalOpenings : List (List Char) :=
  [['r', '"'], ['r', '#', '"'], ['r', '#', '#'], ['b', '"'], ['b', '\''], ['b', 'r', '"'],
    ['b', 'r', '#'], ['c', '"'], ['c', 'r', '"'], ['c', 'r', '#']]

theorem opensLiteral_iff {cs : List Char} :
    opensLiteral cs = true ↔ ∃ opening ∈ literalOpenings, opening <+: cs := by
  constructor
  · intro h
    have hany : literalOpenings.any (·.isPrefixOf cs) = true := by
      unfold opensLiteral at h
      split at h
      case h_11 => cases h
      all_goals rfl
    simpa using hany
  · rintro ⟨opening, hopening, rest, rfl⟩
    simp only [literalOpenings, List.mem_cons, List.not_mem_nil, or_false] at hopening
    rcases hopening with rfl | rfl | rfl | rfl | rfl | rfl | rfl | rfl | rfl | rfl <;> rfl

theorem opensLiteral_append (hX : parts X = true) {cs : List Char} (hcs : cs ≠ [])
    (h : opensLiteral cs = false) : opensLiteral (cs ++ X) = false := by
  have hhead : ∀ c ∈ X.head?, c ∉ ['"', '\'', '#', 'r'] := by
    cases X with
    | nil => simp
    | cons c X =>
      obtain ⟨-, hcontinue, hmark⟩ := parts_cons.1 hX
      have hr : c ≠ 'r' := by rintro rfl; exact absurd hcontinue (by decide)
      simp_all [tokenMarks]
  rw [← Bool.not_eq_true, opensLiteral_iff] at h ⊢
  rintro ⟨opening, hopening, hprefix⟩
  rcases List.prefix_or_prefix_of_prefix hprefix (List.prefix_append cs X) with hshort | ⟨more, rfl⟩
  · exact h ⟨opening, hopening, hshort⟩
  -- The opening would go on in `X`, which starts with no character that stands inside of one.
  rw [List.prefix_append_right_inj] at hprefix
  cases more with
  | nil => exact h ⟨cs, by simpa using hopening, List.prefix_rfl⟩
  | cons c more =>
    have hmarks : ∀ opening ∈ literalOpenings, ∀ mark ∈ opening.tail,
        mark ∈ ['"', '\'', '#', 'r'] := by simp [literalOpenings]
    obtain ⟨rest, rfl⟩ := hprefix
    refine hhead c rfl (hmarks _ hopening c ?_)
    rw [List.tail_append_of_ne_nil hcs]
    simp

theorem rawString_eq_none_of_opensLiteral {cs : List Char}
    (h : opensLiteral ('r' :: cs) = false) (form : StringForm) : rawString form cs = none := by
  cases cs with
  | nil => rfl
  | cons c more =>
    have hquote : c ≠ '"' := by
      rintro rfl
      simp [opensLiteral] at h
    by_cases hc : c = '#'
    · cases more with
      | nil => simp [rawString, hc]
      | cons d more =>
        have hd : d ≠ '"' ∧ d ≠ '#' := by
          constructor <;> rintro rfl <;> simp [hc, opensLiteral] at h
        simp [rawString, hc, hd]
    · simp [rawString, hc, hquote]

theorem opensLiteral_of_prefixed {c : Char} (hc : c ∈ ['b', 'c']) {cs : List Char}
    (h : opensLiteral (c :: 'r' :: cs) = false) : opensLiteral ('r' :: cs) = false := by
  cases cs with
  | nil => rfl
  | cons d more =>
    have hd : d ≠ '"' ∧ d ≠ '#' := by
      constructor <;> rintro rfl <;> simp at hc <;> rcases hc with rfl | rfl <;>
        simp [opensLiteral] at h
    simp [opensLiteral, hd.1, hd.2]

/-- What starts like a word is no literal, unless it opens one. -/
theorem literal_eq_none_of_isIdentStart {c : Char} {cs : List Char} (hstart : isIdentStart c = true)
    (hopen : opensLiteral (c :: cs) = false) : literal (c :: cs) = none := by
  have hdigit : c.isDigit = false := by
    by_contra hdigit
    rw [Bool.not_eq_false] at hdigit
    have hplain : Naming.isIdentifierChar c = true := by
      simp [Naming.isIdentifierChar, Char.isAlphanum, hdigit]
    rw [(wordChar_of_plain hplain).1, hdigit] at hstart
    cases hstart
  have hquote : c ≠ '"' ∧ c ≠ '\'' := by
    constructor <;> rintro rfl <;> exact absurd hstart (by decide)
  have hstring : stringLiteral (c :: cs) = none := by
    unfold stringLiteral
    split
    case h_7 => rfl
    all_goals
      obtain ⟨rfl, rfl⟩ := List.cons_eq_cons.1 ‹_›
    · simp at hquote
    · rw [rawString_eq_none_of_opensLiteral hopen]
    · simp [opensLiteral] at hopen
    · rw [rawString_eq_none_of_opensLiteral (opensLiteral_of_prefixed (by decide) hopen)]
    · simp [opensLiteral] at hopen
    · rw [rawString_eq_none_of_opensLiteral (opensLiteral_of_prefixed (by decide) hopen)]
  have hchar : charLiteral (c :: cs) = none := by
    unfold charLiteral
    split <;> simp_all [opensLiteral]
  obtain ⟨hfloat, hinteger⟩ := number_eq_none hdigit (hexDigit?_of_not_isDigit hdigit) cs
  simp [literal, hstring, hchar, hfloat, hinteger]

/-! ## Literals that are given up -/

/-- A raw string is given up where it cannot go on, not at its end, if there is a quote. -/
theorem rawBody_append_eq_none {form : StringForm} {cs : List Char} (hquote : '"' ∈ cs)
    (h : rawBody form 0 cs = none) : rawBody form 0 (cs ++ X) = none := by
  fun_induction rawBody form 0 cs
  case case5 rest hline =>
    have hrest : rest ≠ [] := by rintro rfl; simp at hquote
    obtain ⟨c, more, rfl⟩ := List.exists_cons_of_ne_nil hrest
    have hc : c ≠ '\n' := by rintro rfl; exact hline _ rfl
    simp [rawBody, hc]
  all_goals simp_all [rawBody, takeHashes]
  all_goals grind

/-- An escape that stands for a character in one form of string is read or given up in another
one. -/
theorem charEscape_of_text {cs rest : List Char} {c : Char}
    (h : charEscape .text cs = some (c, rest)) (form : StringForm) :
    (∃ c', charEscape form cs = some (c', rest)) ∨ charEscape form (cs ++ X) = none := by
  fun_cases charEscape .text cs <;> simp_all [charEscape, Option.bind_eq_some_iff, bind]
  case case10 | case11 | case12 =>
    have happend := unicodeEscape_append (X := X) h
    cases form <;> simp [happend]
    grind
  all_goals cases form <;> grind

/-- A string is given up where it cannot go on, not at its end, if it can be read as another
form. -/
theorem stringBody_append_eq_none {form : StringForm} {fuel : Nat} {cs : List Char}
    (htext : (stringBody .text fuel cs).isSome) (h : stringBody form fuel cs = none) (fuel' : Nat) :
    stringBody form fuel' (cs ++ X) = none := by
  induction fuel generalizing fuel' cs with
  | zero => simp [stringBody] at htext
  | succ fuel ih =>
    cases fuel' with
    | zero => rfl
    | succ fuel' =>
      unfold stringBody at htext
      split at htext
      · simp at htext
      · simp [stringBody] at h
      · next rest =>
        have htext : (stringBody .text fuel rest).isSome := by
          cases hbody : stringBody .text fuel rest <;> simp_all
        have hnone : stringBody form fuel rest = none := by
          cases hbody : stringBody form fuel rest <;> simp_all [stringBody]
        simp [stringBody, ih htext hnone fuel']
      · simp at htext
      · next rest =>
        cases hrest : skipContinuation rest with
        | none => simp [hrest] at htext
        | some more =>
          simp [hrest] at htext
          simp [stringBody, hrest] at h
          simp [stringBody, skipContinuation_append (X := X) hrest, ih htext h fuel']
      · next rest =>
        cases hrest : skipContinuation rest with
        | none => simp [hrest] at htext
        | some more =>
          simp [hrest] at htext
          simp [stringBody, hrest] at h
          simp [stringBody, skipContinuation_append (X := X) hrest, ih htext h fuel']
      · next rest hline hreturn =>
        cases hescape : charEscape .text rest with
        | none => simp [hescape] at htext
        | some r =>
          obtain ⟨c, more⟩ := r
          obtain ⟨e, tail, rfl, hline, hreturn⟩ := charEscape_ne_lineBreak hescape
          have htext : (stringBody .text fuel more).isSome := by
            cases hbody : stringBody .text fuel more <;> simp_all
          rcases charEscape_of_text (X := X) hescape form with ⟨c', hc'⟩ | hnone
          · have hnone : stringBody form fuel more = none := by
              cases hbody : stringBody form fuel more <;> simp_all [stringBody]
            have happend := charEscape_append (X := X) hc'
            simp_all [stringBody]
          · simp_all [stringBody]
      · next c rest _ _ _ _ _ _ =>
        simp only [StringForm.admits, if_true] at htext
        have htext : (stringBody .text fuel rest).isSome := by
          cases hbody : stringBody .text fuel rest <;> simp_all
        by_cases hadmits : form.admits c = true
        · have hnone : stringBody form fuel rest = none := by
            cases hbody : stringBody form fuel rest <;> simp_all [stringBody]
          simp_all [stringBody]
        · simp_all [stringBody]

theorem suffix_of_unicodeDigits {digits value : Nat} {cs : List Char} {r : Char × List Char}
    (h : unicodeDigits digits value cs = some r) : r.2 <:+ cs := by
  fun_induction unicodeDigits digits value cs <;> simp_all
  all_goals grind [List.IsSuffix.trans, List.suffix_cons]

theorem suffix_of_charEscape {form : StringForm} {cs : List Char} {r : Char × List Char}
    (h : charEscape form cs = some r) : r.2 <:+ cs := by
  have hunicode {cs : List Char} {r : Char × List Char} (h : unicodeEscape cs = some r) :
      r.2 <:+ cs := by
    unfold unicodeEscape at h
    split at h
    · exact (suffix_of_unicodeDigits h).trans (List.suffix_cons _ _)
    · cases h
  fun_cases charEscape form cs <;> simp_all [charEscape, bind, Option.bind_eq_some_iff]
  all_goals grind [List.IsSuffix.trans, List.suffix_cons]

theorem suffix_of_skipContinuation {cs rest : List Char} (h : skipContinuation cs = some rest) :
    rest <:+ cs := by
  fun_induction skipContinuation cs <;> simp_all
  all_goals grind [List.IsSuffix.trans, List.suffix_cons]

/-- A string has a quote at its end. -/
theorem mem_of_stringBody {form : StringForm} {fuel : Nat} {cs : List Char}
    {r : List Char × List Char} (h : stringBody form fuel cs = some r) : '"' ∈ cs := by
  induction fuel generalizing cs r with
  | zero => simp [stringBody] at h
  | succ fuel ih =>
    unfold stringBody at h
    split at h
    case h_1 | h_4 => cases h
    case h_2 => exact List.mem_cons_self
    all_goals simp only [bind, Option.bind_eq_some_iff] at h
    · obtain ⟨body, hbody, -⟩ := h
      simp [ih hbody]
    · obtain ⟨rest, hrest, hbody⟩ := h
      simp [(suffix_of_skipContinuation hrest).subset (ih hbody)]
    · obtain ⟨rest, hrest, hbody⟩ := h
      simp [(suffix_of_skipContinuation hrest).subset (ih hbody)]
    · obtain ⟨c, hescape, body, hbody, -⟩ := h
      simp [(suffix_of_charEscape hescape).subset (ih hbody)]
    · split at h
      · obtain ⟨body, hbody, -⟩ := Option.bind_eq_some_iff.1 h
        simp [ih hbody]
      · cases h

/-- What opens a string with a letter. -/
def stringOpenings : List (List Char) :=
  [['r', '"'], ['b', '"'], ['b', 'r', '"'], ['c', '"'], ['c', 'r', '"']]

/-- A string that a letter opens is given up where it cannot go on, if a plain string can be
read. -/
theorem stringLiteral_append_eq_none {opening body : List Char} (ho : opening ∈ stringOpenings)
    (htext : (stringBody .text (body.length + 1) body).isSome)
    (h : stringLiteral (opening ++ body) = none) : stringLiteral (opening ++ body ++ X) = none := by
  obtain ⟨r, hr⟩ := Option.isSome_iff_exists.1 htext
  have hcooked (form : StringForm) (hnone : stringBody form (body.length + 1) body = none) :=
    stringBody_append_eq_none (X := X) htext hnone ((body ++ X).length + 1)
  have hraw (form : StringForm) (hnone : rawBody form 0 body = none) :=
    rawBody_append_eq_none (X := X) (mem_of_stringBody hr) hnone
  simp only [stringOpenings, List.mem_cons, List.not_mem_nil, or_false] at ho
  rcases ho with rfl | rfl | rfl | rfl | rfl
  · have hnone : rawBody .text 0 body = none := by
      cases hbody : rawBody .text 0 body <;> simp_all [stringLiteral, rawString]
    simp [stringLiteral, rawString, hraw _ hnone]
  · have hnone : stringBody .bytes (body.length + 1) body = none := by
      cases hbody : stringBody .bytes (body.length + 1) body <;> simp_all [stringLiteral]
    have := hcooked _ hnone
    simp_all [stringLiteral]
  · have hnone : rawBody .bytes 0 body = none := by
      cases hbody : rawBody .bytes 0 body <;> simp_all [stringLiteral, rawString]
    simp [stringLiteral, rawString, hraw _ hnone]
  · have hnone : stringBody .terminated (body.length + 1) body = none := by
      cases hbody : stringBody .terminated (body.length + 1) body <;> simp_all [stringLiteral]
    have := hcooked _ hnone
    simp_all [stringLiteral]
  · have hnone : rawBody .terminated 0 body = none := by
      cases hbody : rawBody .terminated 0 body <;> simp_all [stringLiteral, rawString]
    simp [stringLiteral, rawString, hraw _ hnone]

/-- A lifetime that starts like a literal ends before the quote. -/
theorem opening_of_lifetime {cs name after : List Char} (hopen : opensLiteral cs = true)
    (h : lifetime cs = some (name, after)) :
    ∃ opening body, opening ∈ stringOpenings ∧ cs = opening ++ body ∧ after = '"' :: body := by
  have hcontinue : isIdentContinue '"' = false ∧ isIdentContinue '\'' = false ∧
    isIdentContinue '#' = false ∧ isIdentContinue 'r' = true := by decide
  have hstart : isIdentStart '"' = false ∧ isIdentStart '#' = false ∧ isIdentStart 'r' = true ∧
    isIdentStart 'b' = true ∧ isIdentStart 'c' = true := by decide
  unfold opensLiteral at hopen
  split at hopen
  case h_11 => cases hopen
  all_goals simp [lifetime, anyIdent, plainIdent, hcontinue, hstart] at h
  · exact ⟨['r', '"'], _, by decide, rfl, h.2.symm⟩
  · exact ⟨['b', '"'], _, by decide, rfl, h.2.symm⟩
  · exact ⟨['b', 'r', '"'], _, by decide, rfl, h.2.symm⟩
  · exact ⟨['c', '"'], _, by decide, rfl, h.2.symm⟩
  · exact ⟨['c', 'r', '"'], _, by decide, rfl, h.2.symm⟩

theorem isIdentStart_of_lifetime {c : Char} {cs : List Char} (h : (lifetime (c :: cs)).isSome) :
    isIdentStart c = true := by
  by_contra hc
  have hraw : c ≠ 'r' := by rintro rfl; exact hc (by decide)
  simp [lifetime, anyIdent, plainIdent, hc, hraw] at h

/-- Behind an apostrophe, a lifetime that opens a literal is none, whatever follows the text. -/
theorem literal_append_of_lifetime (hX : parts X = true) {cs name after : List Char}
    (hlifetime : lifetime cs = some (name, after)) (hnone : literal cs = none)
    (next : ∀ body, after = '"' :: body → (literal after).isSome) : literal (cs ++ X) = none := by
  cases cs with
  | nil => simp [lifetime, anyIdent, plainIdent] at hlifetime
  | cons c more =>
    have hstart : isIdentStart c = true := isIdentStart_of_lifetime (by rw [hlifetime]; rfl)
    by_cases hopen : opensLiteral (c :: more) = true
    · obtain ⟨opening, body, ho, heq, rfl⟩ := opening_of_lifetime hopen hlifetime
      have hsome : (stringBody .text (body.length + 1) body).isSome := by
        have hliteral := next body rfl
        simp only [literal, stringLiteral, charLiteral,
          number_eq_none (c := '"') (by decide) (by decide) body] at hliteral
        cases hbody : stringBody .text (body.length + 1) body <;> simp_all
      have hstring : stringLiteral (opening ++ body) = none := by
        rw [heq, literal] at hnone
        cases hstring : stringLiteral (opening ++ body) <;> simp_all
      have hstring' := stringLiteral_append_eq_none (X := X) ho hsome hstring
      rw [heq, literal, hstring']
      simp only [stringOpenings, List.mem_cons, List.not_mem_nil, or_false] at ho
      rcases ho with rfl | rfl | rfl | rfl | rfl <;>
        simp [charLiteral, number_eq_none (c := 'r') (by decide) (by decide),
          number_eq_none (c := 'b') (by decide) (by decide),
          number_eq_none (c := 'c') (by decide) (by decide)]
    · exact literal_eq_none_of_isIdentStart hstart
        (opensLiteral_append hX (List.cons_ne_nil _ _) (by simpa using hopen))

end ContentModels.Source.Lexer
