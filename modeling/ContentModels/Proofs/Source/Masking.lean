import ContentModels.Proofs.Source.Quoting
import ContentModels.Proofs.Text.Words

/-!
# Masked code

Masked code keeps neither what line comments say nor what string literals hold. Two texts are alike
if they are the same once masked and leave no comment and no literal open, so that they can stand in
the same place of a larger text.

## Main definitions

* `Place` — what a reader of source text is in the middle of.
* `masked` — source text without its comments and the values of its literals.
* `Alike` — texts that are the same once masked.
* `IsWhole` — a text that leaves neither a comment nor a literal open.

## Main statements

* `Alike.append` — alike texts one behind the other.
* `Alike.quoted` — quoted texts are alike, whatever they hold.
* `Alike.comment` — comments of one line are alike, whatever they say.
* `closes_of_stringBody` — a literal ends for masked code where it ends for a reader of tokens.
-/

namespace ContentModels.Source

open Text Naming

/-! ## Places -/

/-- What a reader of source text is in the middle of. -/
inductive Place where
  | code
  /-- Behind a slash, which a second one makes a comment. -/
  | slash
  | comment
  /-- Between double quotes. -/
  | text
  /-- Behind a backslash between double quotes. -/
  | escape
  /-- Behind an apostrophe, which opens a character or a lifetime. -/
  | apostrophe
  /-- Behind an apostrophe and one character, which is the whole of it if an apostrophe follows. -/
  | letter
  /-- Behind an apostrophe and a backslash. -/
  | letterEscape
  /-- In an escaped character, which the next apostrophe closes. -/
  | letterRest
  deriving DecidableEq, Repr

namespace Place

/-- The place behind a character of code. -/
def behindCode (c : Char) : Place :=
  if c = '/' then .slash else if c = '"' then .text else if c = '\'' then .apostrophe else .code

/-- The place behind one more character. -/
def step : Place → Char → Place
  | .code, c => behindCode c
  | .slash, c => if c = '/' then .comment else behindCode c
  | .comment, c => if c = '\n' then .code else .comment
  | .text, c => if c = '"' then .code else if c = '\\' then .escape else .text
  | .escape, _ => .text
  | .apostrophe, c => if c = '\\' then .letterEscape else .letter
  | .letter, c => if c = '\'' then .code else behindCode c
  | .letterEscape, _ => .letterRest
  | .letterRest, c => if c = '\'' then .code else .letterRest

/-- Whether a character is kept. Of a comment only the slashes before it and its end are, of a
string only its quotes. -/
def shows : Place → Char → Bool
  | .comment, c => c == '\n'
  | .text, c => c == '"'
  | .escape, _ => false
  | _, _ => true

/-- The place behind a text. -/
def after (p : Place) (cs : List Char) : Place := cs.foldl step p

/-- Whether there is a comment or a literal that has yet to end. -/
def isOpen : Place → Bool
  | .comment | .text | .escape | .apostrophe | .letterEscape | .letterRest => true
  | .code | .slash | .letter => false

variable (p : Place)

@[simp] theorem after_nil : p.after [] = p := rfl

@[simp] theorem after_cons (c : Char) (cs : List Char) : p.after (c :: cs) = (p.step c).after cs := rfl

@[simp] theorem after_append (cs ds : List Char) : p.after (cs ++ ds) = (p.after cs).after ds :=
  List.foldl_append

end Place

/-- Whether a text leads from any part of code to code. -/
def resumes (cs : List Char) : Bool :=
  [Place.code, .slash, .letter].all fun p => p.after cs == .code

theorem Place.after_of_resumes {p : Place} (hp : p.isOpen = false) {cs : List Char}
    (h : resumes cs = true) : p.after cs = .code := by
  cases p <;> simp_all [resumes, isOpen]

/-- The characters that are kept of a text, from a place on. -/
def mask : Place → List Char → List Char
  | _, [] => []
  | p, c :: rest => (if p.shows c then [c] else []) ++ mask (p.step c) rest

/-- A source text without what its comments say and without the values of its string literals. -/
def masked (text : String) : String := String.ofList (mask .code text.toList)

example : masked "let a = \"b // \\\"\"; // c\nlet d = '\"';" = "let a = \"\"; //\nlet d = '\"';" := by
  decide

@[simp] theorem mask_append (p : Place) (cs ds : List Char) :
    mask p (cs ++ ds) = mask p cs ++ mask (p.after cs) ds := by
  induction cs generalizing p with
  | nil => rfl
  | cons c rest ih => rw [List.cons_append, mask, mask, ih, Place.after_cons, List.append_assoc]

/-! ## Inside of comments and literals -/

theorem after_comment {cs : List Char} (h : '\n' ∉ cs) :
    Place.comment.after cs = .comment ∧ mask .comment cs = [] := by
  induction cs with
  | nil => exact ⟨rfl, rfl⟩
  | cons c rest ih =>
    obtain ⟨hc, hrest⟩ := not_or.1 (mt List.mem_cons.2 h)
    have hstep : Place.comment.step c = .comment := if_neg (Ne.symm hc)
    have hshows : Place.comment.shows c = false := by simpa [Place.shows] using Ne.symm hc
    rw [Place.after_cons, mask, hstep, hshows]
    exact ih hrest

/-- Neither a quote nor a backslash. -/
def isInert (c : Char) : Bool := c != '"' && c != '\\'

theorem after_text {cs : List Char} (h : ∀ c ∈ cs, isInert c = true) :
    Place.text.after cs = .text ∧ mask .text cs = [] := by
  induction cs with
  | nil => exact ⟨rfl, rfl⟩
  | cons c rest ih =>
    obtain ⟨hc, hrest⟩ := List.forall_mem_cons.1 h
    obtain ⟨hquote, hback⟩ : c ≠ '"' ∧ c ≠ '\\' := by simpa [isInert] using hc
    have hstep : Place.text.step c = .text := by simp [Place.step, hquote, hback]
    have hshows : Place.text.shows c = false := by simpa [Place.shows] using hquote
    rw [Place.after_cons, mask, hstep, hshows]
    exact ih hrest

/-- An escape stays between the quotes. -/
theorem after_escape (c : Char) {cs : List Char} (h : ∀ d ∈ cs, isInert d = true) :
    Place.text.after ('\\' :: c :: cs) = .text ∧ mask .text ('\\' :: c :: cs) = [] := by
  have hrest := after_text h
  exact hrest

theorem isInert_of_mem_hexDigits {n : Nat} {c : Char} (h : c ∈ hexDigits n) : isInert c = true := by
  obtain ⟨d, hd, rfl⟩ := Lexer.exists_digitChar_of_mem_toDigits h
  have hall : ∀ d < 16, isInert (Nat.digitChar d) = true := by decide
  exact hall d hd

/-- A quoted character neither ends the quote nor is kept. -/
theorem after_quotedChar (c : Char) :
    Place.text.after (quotedChar c) = .text ∧ mask .text (quotedChar c) = [] := by
  fun_cases quotedChar c with
  | case1 | case2 | case3 | case4 | case5 | case6 => exact after_escape _ (by simp)
  | case7 hquote hback => exact after_text (by simp [isInert, hquote, hback])
  | case8 =>
    refine after_escape 'u' fun d hd => ?_
    have hd : d = '\x7b' ∨ d ∈ hexDigits c.toNat ∨ d = '\x7d' := by simpa using hd
    rcases hd with rfl | hd | rfl
    · decide
    · exact isInert_of_mem_hexDigits hd
    · decide

theorem after_quotedChars (cs : List Char) :
    Place.text.after (cs.flatMap quotedChar) = .text ∧ mask .text (cs.flatMap quotedChar) = [] := by
  induction cs with
  | nil => exact ⟨rfl, rfl⟩
  | cons c rest ih =>
    obtain ⟨hafter, hmask⟩ := after_quotedChar c
    rw [List.flatMap_cons, Place.after_append, mask_append, hafter, hmask]
    exact ih

/-! ## Literals of the lexer -/

theorem isInert_of_hexDigit {c : Char} {d : Nat} (h : hexDigit? c = some d) : isInert c = true := by
  have hne (e : Char) (he : hexDigit? e = none) : c ≠ e := by
    rintro rfl
    exact absurd h (by simp [he])
  simpa [isInert] using ⟨hne '"' (by decide), hne '\\' (by decide)⟩

theorem isInert_of_isBlank {c : Char} (h : isBlank c = true) : isInert c = true := by
  have hne (e : Char) (he : isBlank e = false) : c ≠ e := by
    rintro rfl
    exact absurd h (by simp [he])
  simpa [isInert] using ⟨hne '"' (by decide), hne '\\' (by decide)⟩

/-- What a reader took from the start of a text, if none of it ends or escapes anything. -/
def TookInert (cs rest : List Char) : Prop :=
  ∃ taken, cs = taken ++ rest ∧ ∀ c ∈ taken, isInert c = true

namespace TookInert

variable {cs rest : List Char} {c : Char}

theorem nil : TookInert cs cs := ⟨[], rfl, by simp⟩

theorem cons (hc : isInert c = true) (h : TookInert cs rest) : TookInert (c :: cs) rest := by
  obtain ⟨taken, rfl, htaken⟩ := h
  exact ⟨c :: taken, rfl, List.forall_mem_cons.2 ⟨hc, htaken⟩⟩

end TookInert

/-- The digits of a code hold no quote. -/
theorem tookInert_unicodeDigits {digits value : Nat} {cs rest : List Char} {c : Char}
    (h : Lexer.unicodeDigits digits value cs = some (c, rest)) : TookInert cs rest := by
  fun_induction Lexer.unicodeDigits digits value cs with
  | case1 => cases h
  | case2 => cases h
  | case3 _ _ _ _ _ hdigit _ ih => exact (ih h).cons (isInert_of_hexDigit hdigit)
  | case4 => cases h
  | case5 _ _ _ _ _ ih => exact (ih h).cons (by decide)
  | case6 =>
    obtain ⟨_, -, heq⟩ := Option.map_eq_some_iff.1 h
    cases heq
    exact TookInert.nil.cons (by decide)
  | case7 => cases h

theorem tookInert_unicodeEscape {cs rest : List Char} {c : Char}
    (h : Lexer.unicodeEscape cs = some (c, rest)) : TookInert cs rest := by
  unfold Lexer.unicodeEscape at h
  split at h
  · exact (tookInert_unicodeDigits h).cons (by decide)
  · cases h

/-- An escape is one character and what holds no quote. -/
theorem exists_of_charEscape {form : Lexer.StringForm} {cs rest : List Char} {c : Char}
    (h : Lexer.charEscape form cs = some (c, rest)) :
    ∃ d more, cs = d :: more ∧ TookInert more rest := by
  unfold Lexer.charEscape at h
  split at h
  case h_7 =>
    split at h
    · cases h
    · cases h
      exact ⟨_, _, rfl, .nil⟩
  case h_8 =>
    obtain ⟨d, hd, h⟩ := Option.bind_eq_some_iff.1 h
    obtain ⟨e, he, h⟩ := Option.bind_eq_some_iff.1 h
    obtain ⟨-, heq⟩ := Option.ite_none_right_eq_some.1 h
    cases heq
    exact ⟨_, _, rfl, (TookInert.nil.cons (isInert_of_hexDigit he)).cons (isInert_of_hexDigit hd)⟩
  case h_9 =>
    split at h
    · cases h
    · exact ⟨_, _, rfl, tookInert_unicodeEscape h⟩
    · obtain ⟨⟨d, after⟩, hescape, h⟩ := Option.bind_eq_some_iff.1 h
      obtain ⟨-, heq⟩ := Option.ite_none_left_eq_some.1 h
      cases heq
      exact ⟨_, _, rfl, tookInert_unicodeEscape hescape⟩
  case h_10 => cases h
  all_goals
    cases h
    exact ⟨_, _, rfl, .nil⟩

theorem tookInert_skipContinuation {cs rest : List Char}
    (h : Lexer.skipContinuation cs = some rest) :
    TookInert cs rest := by
  fun_induction Lexer.skipContinuation cs with
  | case1 => cases h
  | case2 _ ih => exact ((ih h).cons (by decide)).cons (by decide)
  | case3 => cases h
  | case4 _ _ _ _ hblank ih => exact (ih h).cons (isInert_of_isBlank hblank)
  | case5 =>
    cases h
    exact .nil

/-- What follows the quote that closes a string, of a text that is read from inside the string. -/
def Closes (cs rest : List Char) : Prop :=
  ∃ body, cs = body ++ rest ∧ Place.text.after body = .code ∧ mask .text body = ['"']

namespace Closes

variable {cs mid rest : List Char}

theorem quote : Closes ('"' :: rest) rest := ⟨['"'], rfl, rfl, rfl⟩

theorem skip (htook : TookInert cs mid) (h : Closes mid rest) : Closes cs rest := by
  obtain ⟨taken, rfl, htaken⟩ := htook
  obtain ⟨body, rfl, hafter, hmask⟩ := h
  obtain ⟨htext, hnone⟩ := after_text htaken
  refine ⟨taken ++ body, (List.append_assoc ..).symm, ?_, ?_⟩
  · rw [Place.after_append, htext, hafter]
  · rw [mask_append, hnone, htext, hmask, List.nil_append]

theorem escape (c : Char) (h : Closes cs rest) : Closes ('\\' :: c :: cs) rest := by
  obtain ⟨body, rfl, hafter, hmask⟩ := h
  exact ⟨'\\' :: c :: body, rfl, hafter, hmask⟩

end Closes

/-- A literal ends for masked code where it ends for a reader of tokens. -/
theorem closes_of_stringBody {form : Lexer.StringForm} {fuel : Nat} {cs value rest : List Char}
    (h : Lexer.stringBody form fuel cs = some (value, rest)) : Closes cs rest := by
  induction fuel generalizing cs value with
  | zero => cases h
  | succ fuel ih =>
    have hrest {more : List Char} {c : Char} (h : ((Lexer.stringBody form fuel more).bind
        fun read => some (c :: read.1, read.2)) = some (value, rest)) : Closes more rest := by
      obtain ⟨⟨value, after⟩, hmore, heq⟩ := Option.bind_eq_some_iff.1 h
      cases heq
      exact ih hmore
    have hcontinued {more : List Char} (h : (Lexer.skipContinuation more).bind
        (Lexer.stringBody form fuel) = some (value, rest)) : Closes more rest := by
      obtain ⟨after, hskip, hafter⟩ := Option.bind_eq_some_iff.1 h
      exact .skip (tookInert_skipContinuation hskip) (ih hafter)
    unfold Lexer.stringBody at h
    split at h
    case h_1 => cases h
    case h_2 =>
      cases h
      exact .quote
    case h_3 => exact .skip ((TookInert.nil.cons (by decide)).cons (by decide)) (hrest h)
    case h_4 => cases h
    case h_5 => exact .escape _ (hcontinued h)
    case h_6 => exact .escape _ (.skip (TookInert.nil.cons (by decide)) (hcontinued h))
    case h_7 =>
      obtain ⟨⟨c, after⟩, hescape, hafter⟩ := Option.bind_eq_some_iff.1 h
      obtain ⟨d, more, rfl, htook⟩ := exists_of_charEscape hescape
      exact .escape d (.skip htook (hrest hafter))
    case h_8 c more hquote _ _ _ _ hback =>
      have hc : isInert c = true := by simpa [isInert] using ⟨hquote, hback⟩
      split at h
      · exact .skip (TookInert.nil.cons hc) (hrest h)
      · cases h

/-! ## Alike texts -/

/-- Texts that are the same once masked, and that leave a reader in code. -/
structure Alike (s t : String) : Prop where
  left : Place.code.after s.toList = .code
  right : Place.code.after t.toList = .code
  mask : mask .code s.toList = mask .code t.toList

/-- A text after which neither a comment nor a literal is open. -/
def IsWhole (text : String) : Prop := (Place.code.after text.toList).isOpen = false

instance (text : String) : Decidable (IsWhole text) := inferInstanceAs (Decidable (_ = _))

namespace Alike

variable {s t s' t' : String}

theorem masked_eq (h : Alike s t) : masked s = masked t := congrArg String.ofList h.mask

/-- Code that is the same on both sides. -/
theorem same (h : Place.code.after s.toList = .code) : Alike s s := ⟨h, h, rfl⟩

theorem append (h : Alike s t) (h' : Alike s' t') : Alike (s ++ s') (t ++ t') where
  left := by rw [String.toList_append, Place.after_append, h.left, h'.left]
  right := by rw [String.toList_append, Place.after_append, h.right, h'.right]
  mask := by
    rw [String.toList_append, String.toList_append, mask_append, mask_append, h.left, h.right,
      h.mask, h'.mask]

/-- Quoted texts are alike, whatever they hold. -/
theorem quoted (s t : String) : Alike (quoted s) (quoted t) := by
  have hquoted (s : String) : Place.code.after (Text.quoted s).toList = .code ∧
      Source.mask .code (Text.quoted s).toList = ['"', '"'] := by
    obtain ⟨hafter, hmask⟩ := after_quotedChars s.toList
    have hchars : (Text.quoted s).toList = ['"'] ++ (s.toList.flatMap quotedChar ++ ['"']) := by
      simp [Text.quoted, quotedChars]
    have hopen : Place.code.after ['"'] = .text := rfl
    rw [hchars, Place.after_append, Place.after_append, mask_append, mask_append, hopen, hafter, hmask]
    exact ⟨rfl, rfl⟩
  exact ⟨(hquoted s).1, (hquoted t).1, (hquoted s).2.trans (hquoted t).2.symm⟩

/-- Comments are alike, whatever they say in their line. -/
theorem comment {opening : String} (hopening : Place.code.after opening.toList = .comment)
    (hs : '\n' ∉ s.toList) (ht : '\n' ∉ t.toList) :
    Alike (opening ++ s ++ "\n") (opening ++ t ++ "\n") := by
  have hend : Place.comment.after "\n".toList = .code := by decide
  obtain ⟨hafter, hmask⟩ := after_comment hs
  obtain ⟨hafter', hmask'⟩ := after_comment ht
  refine ⟨?_, ?_, ?_⟩
  · simp only [String.toList_append, Place.after_append, hopening, hafter, hend]
  · simp only [String.toList_append, Place.after_append, hopening, hafter', hend]
  · simp only [String.toList_append, Place.after_append, mask_append, hopening, hafter, hafter', hmask,
      hmask']

/-- Code that is the same on both sides, with alike texts behind it. -/
theorem code {opening : String} (h : Place.code.after opening.toList = .code) (rest : Alike s t) :
    Alike (opening ++ s) (opening ++ t) :=
  (same h).append rest

/-- A text that is the same on both sides and leaves nothing open, with alike texts behind it. -/
theorem whole {text middle : String} (h : IsWhole text) (hmiddle : resumes middle.toList = true)
    (rest : Alike s t) : Alike (text ++ (middle ++ s)) (text ++ (middle ++ t)) := by
  rw [← String.append_assoc, ← String.append_assoc]
  exact .code (by rw [String.toList_append, Place.after_append, Place.after_of_resumes h hmiddle]) rest

end Alike

/-- A name is closed. -/
theorem isWhole_of_isPlain {name : String} (h : IsPlain name.toList) : IsWhole name := by
  have hcode {cs : List Char} (h : IsPlain cs) : Place.code.after cs = .code := by
    induction cs with
    | nil => rfl
    | cons c rest ih =>
      have hne (d : Char) (hd : isIdentifierChar d = false) : c ≠ d := by
        rintro rfl
        exact absurd (h c List.mem_cons_self) (by simp [hd])
      rw [Place.after_cons, Place.step, Place.behindCode, if_neg (hne _ (by decide)),
        if_neg (hne _ (by decide)), if_neg (hne _ (by decide))]
      exact ih h.of_cons
  rw [IsWhole, hcode h]
  rfl

end ContentModels.Source
