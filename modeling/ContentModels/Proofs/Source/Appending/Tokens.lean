import ContentModels.Proofs.Source.Appending
import Mathlib.Data.List.TakeWhile

/-!
# Tokens before other text

A token that is read of a text is also read where other text follows. Only punctuation at the end of
the text may learn that more of it follows. Words that are read are words by themselves.

## Main statements

* `Lexer.leaf_append` — a token before other text.
* `Lexer.leaf_like` — a token in another place.
* `Lexer.isAnyWord_of_anyIdent` — a word that is read is one by itself.
-/

namespace ContentModels.Source.Lexer

open Text

variable {X : List Char}

/-! ## Words -/

theorem plainIdent_of_plainIdent {cs name rest : List Char}
    (h : plainIdent cs = some (name, rest)) :
    plainIdent name = some (name, []) := by
  cases cs with
  | nil => simp [plainIdent] at h
  | cons c more =>
    simp only [plainIdent] at h
    split at h
    · next hc =>
      obtain ⟨rfl, -⟩ := Prod.mk.inj (Option.some.inj h)
      have hdrop : (more.takeWhile isIdentContinue).dropWhile isIdentContinue = [] :=
        List.dropWhile_eq_nil_iff.2 fun d hd => List.mem_takeWhile_imp hd
      simp [plainIdent, hc, List.takeWhile_idem, hdrop]
    · cases h

/-- A word that is read is one by itself. -/
theorem isAnyWord_of_anyIdent {cs name rest : List Char} (h : anyIdent cs = some (name, rest)) :
    IsAnyWord (String.ofList name) := by
  rw [IsAnyWord, String.toList_ofList]
  unfold anyIdent at h
  split at h
  · next more =>
    split at h
    · next inner after hinner =>
      split at h
      · cases h
      · next hraw =>
        obtain ⟨rfl, -⟩ := Prod.mk.inj (Option.some.inj h)
        simpa [anyIdent, plainIdent_of_plainIdent hinner] using hraw
    · cases h
  · have hplain := plainIdent_of_plainIdent h
    unfold anyIdent
    split
    · next more =>
      have hmark : isIdentContinue '#' = false := by decide
      simp [plainIdent, hmark] at hplain
    · exact hplain

theorem anyIdent_singleton {c : Char} {name rest : List Char}
    (h : anyIdent [c] = some (name, rest)) :
    rest = [] := by
  by_cases hc : isIdentStart c = true <;> simp_all [anyIdent, plainIdent]

theorem lifetime_append (hX : parts X = true) {cs name rest : List Char}
    (h : lifetime cs = some (name, rest)) : lifetime (cs ++ X) = some (name, rest ++ X) := by
  have hhead : ∀ c ∈ X.head?, c ≠ '\'' ∧ c ≠ '#' := by
    cases X <;> simp_all [parts_cons, tokenMarks]
  simp only [lifetime, bind, Option.bind_eq_some_iff] at h ⊢
  obtain ⟨⟨name', after⟩, hident, h⟩ := h
  refine ⟨_, anyIdent_append hX hident, ?_⟩
  cases after with
  | nil =>
    obtain ⟨rfl, rfl⟩ : name' = name ∧ [] = rest := by simpa using h
    cases X <;> simp_all
  | cons c more =>
    rcases cs with - | ⟨d, - | ⟨e, tail⟩⟩
    · simp [anyIdent, plainIdent] at hident
    · cases anyIdent_singleton hident
    · simp only [List.cons_append] at h ⊢
      split at h
      · cases h
      · split at h
        · obtain ⟨rfl, rfl⟩ := Prod.mk.inj (Option.some.inj h)
          simp_all
        · cases h
      · obtain ⟨rfl, rfl⟩ := Prod.mk.inj (Option.some.inj h)
        simp_all

/-! ## Leaves -/

theorem isIdentStart_of_anyIdent {c : Char} {cs : List Char} (h : (anyIdent (c :: cs)).isSome) :
    isIdentStart c = true := by
  by_contra hc
  have hraw : c ≠ 'r' := by rintro rfl; exact hc (by decide)
  simp [anyIdent, plainIdent, hc, hraw] at h

theorem isIdentStart_of_punctuation {c : Char} (h : c ∈ punctuation) : isIdentStart c = false := by
  revert c
  rw [← List.forall_iff_forall_mem]
  decide

theorem leaf_literal {cs rest : List Char} {value : Literal} (h : literal cs = some (value, rest))
    (p : Position) : leaf p cs = some (.literal value p, rest) := by
  rw [leaf.eq_def, h]

/-- What starts like a word and opens no literal is read as one. -/
theorem leaf_anyIdent {cs name rest : List Char} (h : anyIdent cs = some (name, rest))
    (hopen : opensLiteral cs = false) (p : Position) :
    leaf p cs = some (.word (String.ofList name) p, rest) := by
  cases cs with
  | nil => simp [anyIdent, plainIdent] at h
  | cons c more =>
    have hstart : isIdentStart c = true := isIdentStart_of_anyIdent (by rw [h]; rfl)
    have hmark : c ∉ punctuation := fun hc => by simp [isIdentStart_of_punctuation hc] at hstart
    have happos : c ≠ '\'' := by rintro rfl; exact absurd hstart (by decide)
    have hpunct : opensPunct (c :: more) = false := by simp [opensPunct, hmark, happos]
    rw [leaf.eq_def, literal_eq_none_of_isIdentStart hstart hopen]
    simp [hpunct, hopen, h]

/-- What an apostrophe makes a lifetime is no literal. -/
theorem literal_eq_none_of_lifetime {cs : List Char} (h : (lifetime cs).isSome) :
    literal ('\'' :: cs) = none := by
  obtain ⟨hfloat, hinteger⟩ := number_eq_none (c := '\'') (by decide) (by decide) cs
  have hchar : charLiteral ('\'' :: cs) = none := by
    cases cs with
    | nil => rfl
    | cons c more =>
      have hstart : isIdentStart c = true := isIdentStart_of_lifetime h
      have hback : c ≠ '\\' := by rintro rfl; exact absurd hstart (by decide)
      have happos : more.head? ≠ some '\'' := by
        intro hmore
        have hcontinue : isIdentContinue '\'' = false := by decide
        cases more with
        | nil => simp at hmore
        | cons d more =>
          obtain rfl : d = '\'' := by simpa using hmore
          simp [lifetime, anyIdent, plainIdent, hstart, hcontinue] at h
      cases more <;> simp_all [charLiteral, charBody]
  simp [literal, stringLiteral, hchar, hfloat, hinteger]

theorem leaf_apostrophe {cs name after : List Char} (h : lifetime cs = some (name, after))
    (p : Position) : leaf p ('\'' :: cs) =
      if (literal cs).isSome then some (.punct '\'' true p, cs)
      else some (.lifetime (String.ofList name) p, after) := by
  rw [leaf.eq_def, literal_eq_none_of_lifetime (by rw [h]; rfl)]
  simp only [h]

/-- A punctuation mark that may learn that more of it follows. -/
def joined (j : Bool) : Token → Token
  | .punct c false p => .punct c j p
  | t => t

/-- A token that comes first is read as it is. Only the last punctuation may learn that more of it
follows. -/
theorem leaf_append (hX : parts X = true) {cs rest : List Char} {p : Position} {t : Token}
    (comment : opensComment cs = false) (h : leaf p cs = some (t, rest))
    (next : ∀ body, rest = '"' :: body → (literal rest).isSome) (p' : Position) :
    ∃ t', leaf p' (cs ++ X) = some (t', rest ++ X) ∧
      (if rest = [] then joined (opensPunct X) t else t).Like t' := by
  have hsame (h : (joined (opensPunct X) t) = t) :
      (if rest = [] then joined (opensPunct X) t else t) = t := by
    split <;> simp_all
  cases hliteral : literal cs with
  | some r =>
    obtain ⟨value, rest'⟩ := r
    obtain ⟨rfl, rfl⟩ := Prod.mk.inj (Option.some.inj ((leaf_literal hliteral p).symm.trans h))
    rw [hsame rfl]
    exact ⟨_, leaf_literal (literal_append hX hliteral) p', .literal value p p'⟩
  | none =>
    rw [leaf.eq_def, hliteral] at h
    dsimp only at h
    split at h
    · next more =>
      split at h
      · next name after hlifetime =>
        have hleaf := leaf_apostrophe (lifetime_append hX hlifetime) p'
        split at h
        · next hsome =>
          obtain ⟨rfl, rfl⟩ := Prod.mk.inj (Option.some.inj h)
          obtain ⟨r, hr⟩ := Option.isSome_iff_exists.1 hsome
          rw [literal_append hX hr] at hleaf
          rw [hsame rfl]
          exact ⟨_, hleaf, .punct ..⟩
        · next hnone =>
          obtain ⟨rfl, rfl⟩ := Prod.mk.inj (Option.some.inj h)
          rw [literal_append_of_lifetime hX hlifetime (by simpa using hnone) next] at hleaf
          rw [hsame rfl]
          exact ⟨_, hleaf, .lifetime ..⟩
      · cases h
    · next c more _ =>
      split at h
      · next hpunct =>
        obtain ⟨rfl, rfl⟩ := Prod.mk.inj (Option.some.inj h)
        have hmem : c ∈ punctuation := by
          have hc : c ≠ '\'' := by rintro rfl; simp_all
          simpa [opensPunct, comment, hc] using hpunct
        have comment' : opensComment (c :: (more ++ X)) = false := by
          rw [← List.cons_append, opensComment_append hX (List.cons_ne_nil _ _), comment]
        have hleaf := leaf_punct hmem comment' p'
        refine ⟨_, hleaf, ?_⟩
        by_cases hmore : more = []
        · subst hmore
          exact .punct ..
        · rw [opensPunct_append hX hmore, if_neg hmore]
          exact .punct ..
      · split at h
        · cases h
        · next hopen =>
          obtain ⟨⟨name, after⟩, hident, h⟩ := Option.map_eq_some_iff.1 h
          obtain ⟨rfl, rfl⟩ := Prod.mk.inj h
          have hopen' := opensLiteral_append hX (List.cons_ne_nil c more) (by simpa using hopen)
          rw [hsame rfl]
          exact ⟨_, leaf_anyIdent (anyIdent_append hX hident) hopen' p',
            .word p p' (isAnyWord_of_anyIdent hident)⟩
    · cases h

/-- A token and what follows it do not depend on where the token stands. -/
theorem leaf_like {cs rest : List Char} {p : Position} {t : Token}
    (h : leaf p cs = some (t, rest)) (p' : Position) :
    ∃ t', leaf p' cs = some (t', rest) ∧ t.Like t' := by
  rw [leaf.eq_def] at h ⊢
  cases hliteral : literal cs with
  | some r =>
    obtain ⟨value, after⟩ := r
    simp only [hliteral] at h ⊢
    obtain ⟨rfl, rfl⟩ := Prod.mk.inj (Option.some.inj h)
    exact ⟨_, rfl, .literal ..⟩
  | none =>
    simp only [hliteral] at h ⊢
    split at h
    · next more =>
      split at h
      · next name after hlifetime =>
        split at h
        · next hsome =>
          obtain ⟨rfl, rfl⟩ := Prod.mk.inj (Option.some.inj h)
          exact ⟨.punct '\'' true p', by simp [hsome], .punct ..⟩
        · next hnone =>
          obtain ⟨rfl, rfl⟩ := Prod.mk.inj (Option.some.inj h)
          exact ⟨.lifetime (String.ofList name) p', by simp [hnone], .lifetime ..⟩
      · cases h
    · next c more happos =>
      have hc : c ≠ '\'' := fun hc => happos (by simp [hc])
      split at h
      · next hpunct =>
        obtain ⟨rfl, rfl⟩ := Prod.mk.inj (Option.some.inj h)
        exact ⟨.punct c (opensPunct more) p', by simp [hpunct], .punct ..⟩
      · next hpunct =>
        split at h
        · cases h
        · next hopen =>
          obtain ⟨⟨name, after⟩, hident, h⟩ := Option.map_eq_some_iff.1 h
          obtain ⟨rfl, rfl⟩ := Prod.mk.inj h
          exact ⟨.word (String.ofList name) p', by simp [hpunct, hopen, hident],
            .word p p' (isAnyWord_of_anyIdent hident)⟩
    · cases h

end ContentModels.Source.Lexer
