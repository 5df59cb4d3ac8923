import ContentModels.Proofs.Source.Chunks

/-!
# Fixed texts

What a written out text without comments is read as can be computed.

## Main definitions

* `Lexer.scan` — reads the tokens of a text without comments, without their places.
* `Lexer.scanText` — reads those of a whole text.

## Main statements

* `Lexer.Lexes.fixed` — such a text has the tokens that are read as a piece.
-/

namespace ContentModels.Source

namespace Lexer

/-- Reads the tokens of a text without comments, without their places: what is open, the tokens of
the innermost group, and what is left. -/
def scan : Nat → List (Delimiter × List Token) → List Token → List Char → Option (List Token)
  | 0, _, _, _ => none
  | fuel + 1, outer, read, cs =>
    match cs.dropWhile isGap with
    | [] => if outer.isEmpty then some read.reverse else none
    | c :: rest =>
      if opensComment (c :: rest) then none
      else
        match Delimiter.ofOpening c, Delimiter.ofClosing c, outer with
        | some d, _, _ => scan fuel ((d, read) :: outer) [] rest
        | none, some d, (d', before) :: outer =>
          if d' = d then scan fuel outer (.group d read.reverse {} {} :: before) rest else none
        | none, some _, [] => none
        | none, none, _ =>
          match leaf {} (c :: rest) with
          | some (t, after) => scan fuel outer (t :: read) after
          | none => none

/-- Reads the tokens of a whole text. -/
def scanText (cs : List Char) : Option (List Token) :=
  scan (cs.length + 1) [] [] cs

/-- The same groups are open, with the same tokens before them. -/
def SameGroups (outer : List (Delimiter × List Token)) (outer' : List OpenGroup) : Prop :=
  List.Forall₂ (fun g g' => g.1 = g'.delimiter ∧ Likes g.2 g'.before) outer outer'

theorem run_of_scan {fuel : Nat} {outer : List (Delimiter × List Token)} {outer' : List OpenGroup}
    {read read' ts : List Token} {cs : List Char} (h : scan fuel outer read cs = some ts)
    (houter : SameGroups outer outer') (hread : Likes read read') (p : Position) :
    uncommented fuel cs = true ∧ ∃ us, run fuel outer' read' p cs = .ok us ∧ Likes ts us := by
  induction fuel generalizing outer outer' read read' cs p with
  | zero => cases h
  | succ fuel ih =>
    obtain ⟨gaps, start, rfl, hgaps, hstart, hhead⟩ := exists_gaps cs
    rw [run_gaps hgaps]
    rw [scan.eq_def] at h
    rw [uncommented.eq_def]
    simp only [← hstart] at h ⊢
    generalize p.advance gaps = p
    cases start with
    | nil =>
      dsimp only at h ⊢
      split at h
      · next hempty =>
        obtain rfl : ts = read.reverse := by simpa using h.symm
        obtain rfl : outer = [] := by simpa using hempty
        cases houter
        exact ⟨rfl, _, run_end, hread.reverse⟩
      · cases h
    | cons c rest =>
      have hgap : isGap c = false := hhead c rfl
      dsimp only at h ⊢
      split at h
      · cases h
      · next hcomment =>
        rw [Bool.not_eq_true] at hcomment
        rw [if_neg (by simp [hcomment])]
        split at h
        · next d hopen =>
          rw [run_opening hopen, if_pos (by simp [hopen])]
          exact ih h (.cons ⟨rfl, hread⟩ houter) .nil _
        · next d d' before outer hopen hclose =>
          obtain _ | @⟨_, g, _, outer', ⟨hd, hbefore⟩, houter⟩ := houter
          split at h
          · next heq =>
            subst heq
            obtain ⟨d', pos, before'⟩ := g
            obtain rfl : d' = _ := hd.symm
            rw [run_closing hclose, if_pos (by simp [hclose])]
            exact ih h houter (.cons (.group _ _ _ _ _ hread.reverse) hbefore) _
          · cases h
        · cases h
        · next hopen hclose =>
          split at h
          · next t after hleaf =>
            obtain ⟨t', hleaf', ht⟩ := leaf_like hleaf p
            obtain ⟨hplain, hrun⟩ := ih h houter (.cons ht hread) (moved p (c :: rest) after)
            rw [run_leaf hgap hcomment hopen hclose hleaf']
            exact ⟨by simpa [hopen, hclose, hleaf] using hplain, hrun⟩
          · cases h

variable {X : List Char}

/-- Whether punctuation comes last that may learn that more of it follows. -/
def loose (ts : List Token) : Bool :=
  match ts.getLast? with
  | some (.punct _ joint _) => !joint
  | _ => false

theorem likes_loose_eq {ts us : List Token} (h : Likes ts us) : loose ts = loose us := by
  induction ts generalizing us with
  | nil => cases h; rfl
  | cons t ts ih =>
    cases h with
    | cons ht hs =>
      cases hs with
      | nil => cases ht <;> rfl
      | cons hu hs => simpa [loose] using ih (.cons hu hs)

theorem Ends.eq {j : Bool} {ts us : List Token} (h : Ends j ts us)
    (hlast : (j && loose ts) = false) : us = ts := by
  rcases h with rfl | ⟨before, t, rfl, rfl⟩
  · rfl
  · cases t with
    | punct c joint p => cases joint <;> simp_all [loose, joined]
    | _ => rfl

/-- A text that is written out is read as a piece as it is read alone. -/
theorem Lexes.fixed {cs : List Char} {ts : List Token} (h : scanText cs = some ts)
    (hX : parts X = true) (hlast : (opensPunct X && loose ts) = false) : Lexes cs ts X := by
  obtain ⟨hcomment, us, hrun, hlikes⟩ := run_of_scan h .nil .nil {}
  obtain ⟨vs, hends, hlexes⟩ := lexes_of_tokenize hX hrun hcomment
  rw [hends.eq (by rwa [← likes_loose_eq hlikes])] at hlexes
  exact hlexes.likes hlikes

/-- A text that is written out and ends with no punctuation, before a character that goes on with no
token. -/
theorem Lexes.fixed_tight {c : Char} {cs : List Char} {ts : List Token} (h : scanText cs = some ts)
    (hc : isIdentStart c = false ∧ isIdentContinue c = false ∧ c ∉ tokenMarks)
    (hlast : loose ts = false) : Lexes cs ts (c :: X) :=
  .fixed h (parts_cons.2 hc) (by rw [hlast, Bool.and_false])

/-- A text that is written out, before a blank. -/
theorem Lexes.fixed_space {cs : List Char} {ts : List Token} (h : scanText cs = some ts) :
    Lexes (cs ++ [' ']) ts X := by
  have hgap : Lexes [' '] [] X := .gaps rfl
  simpa using (Lexes.fixed h (X := ' ' :: X) (by rfl) (by rfl)).append hgap

/-- A text that is written out, at the end of a line. -/
theorem Lexes.fixed_break {cs : List Char} {ts : List Token} (h : scanText cs = some ts) :
    Lexes (cs ++ ['\n']) ts X := by
  have hgap : Lexes ['\n'] [] X := .gaps rfl
  simpa using (Lexes.fixed h (X := '\n' :: X) (by rfl) (by rfl)).append hgap

end Lexer

end ContentModels.Source
