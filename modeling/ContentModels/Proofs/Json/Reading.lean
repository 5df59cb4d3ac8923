import ContentModels.Json.Typed
import Mathlib.Tactic.SplitIfs

/-!
# Readers of JSON on given text

A reader that reads a piece of text reads it whatever follows, and leaves that. Pieces are read one
after the other, and a character after the other if they make a string.

## Main definitions

* `Json.Reader.Reads` — a reader reads a piece of text.

## Main statements

* `Json.Reader.Reads.bind` — one piece after the other.
* `Json.Reader.repeatUntil_of_reads` — pieces that are read in the same way.
* `Json.Reader.reads_string` — a string is read back from what it is written as.
-/

namespace ContentModels.Json

namespace Reader

variable {α β γ : Type} {p : Reader α} {f : α → Reader β} {a : α} {cs rest : List Char}

/-! ## Readers in sequence -/

theorem bind_of_ok (h : p cs = .ok (a, rest)) : (p >>= f) cs = f a rest := by
  change (p cs).bind (fun x => f x.1 x.2) = _
  rw [h]
  rfl

@[simp] theorem pure_apply (a : α) (cs : List Char) : (pure a : Reader α) cs = .ok (a, cs) := rfl

@[simp] theorem drop_cons (c : Char) (cs : List Char) : drop (c :: cs) = .ok ((), cs) := rfl

@[simp] theorem drop_bind_cons (c : Char) (cs : List Char) (f : Unit → Reader β) :
    (drop >>= f) (c :: cs) = f () cs := rfl

@[simp] theorem map_drop_cons (g : Unit → β) (c : Char) (cs : List Char) :
    (g <$> drop) (c :: cs) = .ok (g (), cs) := rfl

@[simp] theorem next?_bind_cons (c : Char) (cs : List Char) (f : Option Char → Reader β) :
    (next? >>= f) (c :: cs) = f (some c) (c :: cs) := rfl

@[simp] theorem get_bind_apply (cs : List Char) (f : List Char → Reader β) :
    ((get : Reader (List Char)) >>= f) cs = f cs cs := rfl

/-- A reader reads a piece of text, whatever follows. -/
def Reads (p : Reader α) (cs : List Char) (a : α) : Prop :=
  ∀ after, p (cs ++ after) = .ok (a, after)

theorem reads_pure (a : α) : Reads (pure a) [] a := fun _ => rfl

/-- One piece after the other. -/
theorem Reads.bind {b : β} {ds : List Char} (h : Reads p cs a) (hf : Reads (f a) ds b) :
    Reads (p >>= f) (cs ++ ds) b := by
  intro after
  rw [List.append_assoc, bind_of_ok (h _), hf]

/-- What follows a piece may be nothing but an answer. -/
theorem Reads.bind_nil {b : β} (h : Reads p cs a) (hf : Reads (f a) [] b) :
    Reads (p >>= f) cs b := by
  simpa using h.bind hf

theorem Reads.drop_bind {f : Unit → Reader β} {b : β} {c : Char} (h : Reads (f ()) cs b) :
    Reads (drop >>= f) (c :: cs) b := h

/-! ## Blanks -/

/-- A text of blanks. -/
def IsGaps (cs : List Char) : Prop := ∀ c ∈ cs, isGap c = true

theorem isGaps_nil : IsGaps [] := by simp [IsGaps]

theorem dropWhile_isGap_append {gaps : List Char} (h : IsGaps gaps) {c : Char}
    (hc : isGap c = false) (cs : List Char) :
    (gaps ++ c :: cs).dropWhile isGap = c :: cs := by
  rw [List.dropWhile_append_of_pos h, List.dropWhile_cons_of_neg (by simp [hc])]

/-- Blanks are skipped up to the next character. -/
theorem gap_append {gaps : List Char} (h : IsGaps gaps) {c : Char} (hc : isGap c = false)
    (cs : List Char) : gap (gaps ++ c :: cs) = .ok (some c, c :: cs) := by
  change Except.ok (((gaps ++ c :: cs).dropWhile isGap).head?, (gaps ++ c :: cs).dropWhile isGap) = _
  rw [dropWhile_isGap_append h hc]
  rfl

theorem gap_cons {c : Char} (hc : isGap c = false) (cs : List Char) :
    gap (c :: cs) = .ok (some c, c :: cs) := gap_append isGaps_nil hc cs

theorem start_append {gaps : List Char} (h : IsGaps gaps) {c : Char} (hc : isGap c = false)
    (cs : List Char) : start (gaps ++ c :: cs) = .ok (c, c :: cs) := by
  rw [start, bind_of_ok (gap_append h hc cs)]
  rfl

section Blanks

variable {gaps : List Char} {c : Char} (hgaps : IsGaps gaps) (hc : isGap c = false)

include hgaps hc

/-- A reader that looks at the next character sees it behind blanks. -/
theorem Reads.gap_bind {f : Option Char → Reader β} {b : β} (h : Reads (f (some c)) (c :: cs) b) :
    Reads (gap >>= f) (gaps ++ c :: cs) b := by
  intro after
  rw [List.append_assoc, List.cons_append, bind_of_ok (gap_append hgaps hc _)]
  exact h after

theorem Reads.start_bind {f : Char → Reader β} {b : β} (h : Reads (f c) (c :: cs) b) :
    Reads (start >>= f) (gaps ++ c :: cs) b := by
  intro after
  rw [List.append_assoc, List.cons_append, bind_of_ok (start_append hgaps hc _)]
  exact h after

end Blanks

/-! ## Words -/

/-- A word is finished letter by letter. -/
theorem reads_finishWord (letters : List Char) : Reads (finishWord letters) letters () := by
  intro after
  induction letters with
  | nil => rfl
  | cons c more ih => simpa [finishWord] using ih

/-! ## Repeating -/

/-- A reader that reads each of some pieces reads them all, one after the other. -/
theorem repeatFor_of_reads {body : Reader (Option α)} {l : List α} {text : α → List Char}
    (hbody : ∀ x ∈ l, Reads body (text x) (some x)) {rest after : List Char}
    (hend : body rest = .ok (none, after)) {fuel : Nat} (hfuel : l.length < fuel) :
    repeatFor body fuel (l.flatMap text ++ rest) = .ok (l, after) := by
  induction l generalizing fuel with
  | nil =>
    obtain ⟨fuel, rfl⟩ := Nat.exists_eq_add_one.2 hfuel
    rw [repeatFor, List.flatMap_nil, List.nil_append, bind_of_ok hend]
    rfl
  | cons x l ih =>
    obtain ⟨fuel, rfl⟩ := Nat.exists_eq_add_one.2 (Nat.zero_lt_of_lt hfuel)
    have hrest := ih (fun y hy => hbody y (List.mem_cons_of_mem _ hy)) (by simpa using hfuel)
    rw [repeatFor, List.flatMap_cons, List.append_assoc, bind_of_ok (hbody x List.mem_cons_self _)]
    dsimp only
    rw [bind_of_ok hrest]
    rfl

theorem length_le_length_flatMap {l : List γ} {text : γ → List Char}
    (h : ∀ x ∈ l, text x ≠ []) : l.length ≤ (l.flatMap text).length := by
  induction l with
  | nil => simp
  | cons x l ih =>
    have hx : 0 < (text x).length := List.length_pos_iff.2 (h x List.mem_cons_self)
    have hl := ih fun y hy => h y (List.mem_cons_of_mem _ hy)
    rw [List.length_cons, List.flatMap_cons, List.length_append]
    omega

/-- No piece is empty, so that the length of the text bounds their number. -/
theorem repeatUntil_of_reads {body : Reader (Option α)} {l : List α} {text : α → List Char}
    (hbody : ∀ x ∈ l, Reads body (text x) (some x)) (hne : ∀ x ∈ l, text x ≠ [])
    {rest after : List Char} (hend : body rest = .ok (none, after)) :
    repeatUntil body (l.flatMap text ++ rest) = .ok (l, after) := by
  have hlength := length_le_length_flatMap hne
  rw [repeatUntil, get_bind_apply]
  exact repeatFor_of_reads hbody hend (by rw [List.length_append]; omega)

/-! ## Strings -/

/-- Reads a character of a string, or the quote that ends it. -/
def stringStep : Reader (Option Char) := do
  let c ← peekInString
  if c = '"' then do drop; return none
  else if c = '\\' then do drop; return some (← escape)
  else if isControl c then fail .controlCharacter 1
  else do drop; return some c

theorem string_eq : string = do return String.ofList (← repeatUntil stringStep) := rfl

@[simp] theorem peekInString_bind_cons (c : Char) (cs : List Char) (f : Char → Reader β) :
    (peekInString >>= f) (c :: cs) = f c (c :: cs) := rfl

theorem stringStep_quote (after : List Char) : stringStep ('"' :: after) = .ok (none, after) := rfl

/-- A simple escape stands for its character. -/
theorem reads_stringStep_escape {e c : Char} (he : e ≠ 'u') (hc : simpleEscapes.lookup e = some c) :
    Reads stringStep ['\\', e] (some c) := by
  intro after
  simp [stringStep, escape, he, hc]

theorem hexDigit?_hexDigit {n : Nat} (h : n < 16) : Text.hexDigit? (hexDigit n) = some n := by
  have hall : ∀ n < 16, Text.hexDigit? (hexDigit n) = some n := by decide
  exact hall n h

/-- Four digits are the code of a control character. -/
theorem fourDigits_control {c : Char} (hc : isControl c = true) (after : List Char) :
    fourDigits ('0' :: '0' :: hexDigit (c.toNat / 16) :: hexDigit (c.toNat % 16) :: after) =
      .ok (c.toNat, after) := by
  have hcode : c.toNat < 32 := by simpa [isControl] using hc
  have hzero : Text.hexDigit? '0' = some 0 := by decide
  have hhigh := hexDigit?_hexDigit (n := c.toNat / 16) (by omega)
  have hlow := hexDigit?_hexDigit (n := c.toNat % 16) (Nat.mod_lt _ (by omega))
  rw [fourDigits, get_bind_apply]
  simp only [hzero, hhigh, hlow]
  change Except.ok (((0 * 16 + 0) * 16 + c.toNat / 16) * 16 + c.toNat % 16, after) = _
  rw [show ((0 * 16 + 0) * 16 + c.toNat / 16) * 16 + c.toNat % 16 = c.toNat by omega]

theorem reads_stringStep_control {c : Char} (hc : isControl c = true) : Reads stringStep
    ['\\', 'u', '0', '0', hexDigit (c.toNat / 16), hexDigit (c.toNat % 16)] (some c) := by
  intro after
  have hcode : c.toNat < 32 := by simpa [isControl] using hc
  have hlow : ¬(0xdc00 ≤ c.toNat ∧ c.toNat ≤ 0xdfff) := by omega
  have hhigh : ¬(0xd800 ≤ c.toNat ∧ c.toNat ≤ 0xdbff) := by omega
  have hescape : escape ('u' :: '0' :: '0' :: hexDigit (c.toNat / 16) ::
      hexDigit (c.toNat % 16) :: after) = .ok (c, after) := by
    rw [escape, peekInString_bind_cons, if_pos rfl, drop_bind_cons,
      bind_of_ok (fourDigits_control hc after), if_neg hlow, if_neg hhigh]
    simp [charOf]
  simp only [List.cons_append, List.nil_append, stringStep, peekInString_bind_cons]
  rw [if_neg (by decide), if_pos trivial, drop_bind_cons, bind_of_ok hescape]
  rfl

/-- A character is read back from what it is written as. -/
theorem reads_stringStep (c : Char) : Reads stringStep (writtenChar c) (some c) := by
  fun_cases writtenChar c with
  | case1 | case2 | case3 | case4 | case5 | case6 | case7 =>
    subst c
    exact reads_stringStep_escape (by decide) rfl
  | case8 _ _ _ _ _ _ _ hcontrol => exact reads_stringStep_control hcontrol
  | case9 hquote hback _ _ _ _ _ hcontrol =>
    intro after
    simp [stringStep, hquote, hback, hcontrol]

theorem writtenChar_ne_nil (c : Char) : writtenChar c ≠ [] := by
  fun_cases writtenChar c <;> exact List.cons_ne_nil _ _

/-- A string is read back behind its opening quote. -/
theorem reads_string (s : String) : Reads string (s.toList.flatMap writtenChar ++ ['"']) s := by
  intro after
  have hchars := repeatUntil_of_reads (l := s.toList) (fun c _ => reads_stringStep c)
    (fun c _ => writtenChar_ne_nil c) (stringStep_quote after)
  rw [string_eq, List.append_assoc, List.singleton_append, bind_of_ok hchars]
  simp

end Reader

end ContentModels.Json
