import ContentModels.Source.Lexer.Literal
import ContentModels.Text.Quoted
import Mathlib.Data.Nat.Digits.Defs

/-!
# Quoted text is read back

A text between double quotes, as generated code has it, is the string literal with that value. Every
escape stands for the character that was escaped, and no other character ends the literal or starts
an escape.

## Main statements

* `unicodeDigits_hexDigits` — the code of a character is read back from its digits.
* `stringBody_quotedChar` — a character is read back from its quoted form.
* `stringLiteral_quoted` — a text is read back from its quoted form.
* `notMem_quoted` — quoted text stands on one line.
-/

namespace ContentModels.Source.Lexer

open Text

/-! ## Codes -/

theorem hexDigit?_digitChar {d : Nat} (h : d < 16) : hexDigit? d.digitChar = some d := by
  have hall : ∀ d < 16, hexDigit? d.digitChar = some d := by decide
  exact hall d h

theorem unicodeDigits_digitChar {digits value d : Nat} (hd : d < 16) (hdigits : digits < 6)
    (rest : List Char) : unicodeDigits digits value (d.digitChar :: rest) =
      unicodeDigits (digits + 1) (value * 16 + d) rest := by
  have hne : digits ≠ 6 := by omega
  simp [unicodeDigits, hexDigit?_digitChar hd, hne]

/-- Reading the digits of a number brings its value behind the value read so far. -/
theorem unicodeDigits_toDigits (n : Nat) {digits : Nat} (rest : List Char)
    (h : digits + (Nat.toDigits 16 n).length ≤ 6) :
    unicodeDigits digits 0 (Nat.toDigits 16 n ++ rest) =
      unicodeDigits (digits + (Nat.toDigits 16 n).length) n rest := by
  induction n using Nat.strongRecOn generalizing rest with
  | ind n ih =>
    by_cases hn : n < 16
    · rw [Nat.toDigits_of_lt_base hn] at h ⊢
      have hdigits : digits < 6 := Nat.lt_of_succ_le h
      have hread : unicodeDigits digits 0 (n.digitChar :: rest) =
          unicodeDigits (digits + 1) (0 * 16 + n) rest := unicodeDigits_digitChar hn hdigits rest
      simpa using hread
    · have hsplit := Nat.toDigits_of_base_le (b := 16) (by omega) (Nat.le_of_not_lt hn)
      rw [hsplit, List.length_append, List.length_singleton] at h ⊢
      rw [List.append_assoc, ih (n / 16) (by omega) _ (by omega), List.singleton_append,
        unicodeDigits_digitChar (Nat.mod_lt n (by omega)) (by omega), Nat.div_add_mod', Nat.add_assoc]

theorem scalar_toNat (c : Char) : scalar c.toNat = some c := by
  have hvalid : c.toNat < 0xd800 ∨ (0xdfff < c.toNat ∧ c.toNat < 0x110000) := c.valid
  rw [scalar, if_pos hvalid, Char.ofNat_toNat]

/-- The code of a character is read back from its digits. -/
theorem unicodeDigits_hexDigits (c : Char) (rest : List Char) :
    unicodeDigits 0 0 (hexDigits c.toNat ++ '\x7d' :: rest) = some (c, rest) := by
  have hcode : c.toNat < 16 ^ 6 := by
    have : c.toNat < 0xd800 ∨ (0xdfff < c.toNat ∧ c.toNat < 0x110000) := c.valid
    omega
  have hlength : (Nat.toDigits 16 c.toNat).length ≤ 6 := Nat.toDigits_length 16 _ 6 (by omega) hcode
  have hsome : (Nat.toDigits 16 c.toNat).length ≠ 0 := by simp
  have hclose : hexDigit? '\x7d' = none := by decide
  rw [hexDigits, unicodeDigits_toDigits _ _ (by omega), unicodeDigits, hclose]
  simp [hsome, scalar_toNat]

/-! ## Texts -/

/-- A character is read back from its quoted form. -/
theorem stringBody_quotedChar (c : Char) (fuel : Nat) (rest : List Char) :
    stringBody .text (fuel + 1) (quotedChar c ++ rest) =
      (stringBody .text fuel rest).bind fun (value, after) => some (c :: value, after) := by
  fun_cases quotedChar c with
  | case1 hc | case2 _ hc | case3 _ _ hc | case4 _ _ _ hc | case5 _ _ _ _ hc
  | case6 _ _ _ _ _ hc => simp [stringBody, charEscape, hc]
  | case7 _ hback _ hreturn => simp [stringBody, hback, hreturn, StringForm.admits]
  | case8 => simp [stringBody, charEscape, codeEscape, unicodeEscape, unicodeDigits_hexDigits]

theorem stringBody_quotedChars {fuel : Nat} {cs : List Char} (h : cs.length < fuel)
    (after : List Char) :
    stringBody .text fuel (cs.flatMap quotedChar ++ '"' :: after) = some (cs, after) := by
  induction cs generalizing fuel with
  | nil =>
    obtain ⟨fuel, rfl⟩ := Nat.exists_eq_add_one.2 h
    simp [stringBody]
  | cons c rest ih =>
    obtain ⟨fuel, rfl⟩ := Nat.exists_eq_add_one.2 (Nat.zero_lt_of_lt h)
    rw [List.flatMap_cons, List.append_assoc, stringBody_quotedChar, ih (by simpa using h)]
    rfl

theorem length_le_length_quoted (cs : List Char) : cs.length ≤ (cs.flatMap quotedChar).length := by
  induction cs with
  | nil => simp
  | cons c rest ih =>
    have hc : 1 ≤ (quotedChar c).length := by
      fun_cases quotedChar c <;> simp [codeEscape]
    rw [List.flatMap_cons, List.length_append, List.length_cons]
    omega

/-- A text is read back from its quoted form. -/
theorem stringLiteral_quoted (s : String) (after : List Char) :
    stringLiteral ((quoted s).toList ++ after) = some (.text s, afterSuffix after) := by
  have hfuel : s.toList.length < (s.toList.flatMap quotedChar ++ '"' :: after).length + 1 := by
    grind [length_le_length_quoted]
  have hbody := stringBody_quotedChars hfuel after
  have hopen : (quoted s).toList ++ after = '"' :: (s.toList.flatMap quotedChar ++ '"' :: after) := by
    simp [quoted, quotedChars]
  rw [hopen, stringLiteral, hbody]
  simp

/-! ## Line breaks -/

theorem exists_digitChar_of_mem_toDigits {n : Nat} {c : Char} (h : c ∈ Nat.toDigits 16 n) :
    ∃ d : Nat, d < 16 ∧ c = d.digitChar := by
  induction n using Nat.strongRecOn with
  | ind n ih =>
    by_cases hn : n < 16
    · rw [Nat.toDigits_of_lt_base hn, List.mem_singleton] at h
      exact ⟨n, hn, h⟩
    · rw [Nat.toDigits_of_base_le (b := 16) (by omega) (Nat.le_of_not_lt hn), List.mem_append,
        List.mem_singleton] at h
      rcases h with h | h
      · exact ih (n / 16) (by omega) h
      · exact ⟨n % 16, Nat.mod_lt n (by omega), h⟩

/-- A line break is written as an escape. -/
theorem notMem_quotedChar (c : Char) : '\n' ∉ quotedChar c := by
  fun_cases quotedChar c with
  | case1 | case2 | case3 | case4 | case5 | case6 => decide
  | case7 _ _ hline => simpa using Ne.symm hline
  | case8 =>
    have hdigits : '\n' ∉ hexDigits c.toNat := by
      intro hmem
      obtain ⟨d, hd, heq⟩ := exists_digitChar_of_mem_toDigits hmem
      have hall : ∀ d < 16, '\n' ≠ Nat.digitChar d := by decide
      exact hall d hd heq
    simp [codeEscape, hdigits]

theorem notMem_quoted (s : String) : '\n' ∉ (quoted s).toList := by
  simp only [quoted, quotedChars, String.toList_ofList, List.cons_append, List.mem_cons,
    List.mem_append, List.mem_flatMap, not_or, not_exists, not_and]
  exact ⟨by decide, fun c _ => notMem_quotedChar c, by decide⟩

end ContentModels.Source.Lexer
