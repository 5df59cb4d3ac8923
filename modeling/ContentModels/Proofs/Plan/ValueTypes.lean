import Mathlib.Logic.Function.Iterate
import ContentModels.Proofs.Plan.OneType
import ContentModels.Proofs.Plan.Settling

/-!
# Types that differ by an option

Two declarations of a property may have values of different types as long as one of the types is the
option of the other one. The two are compared by their texts, blanks aside, once the option around
each is taken off. So an option and the type inside it are compared as they should be unless that
type is an option itself: then both lose one.

## Main definitions

* `optionOf`, `IsOption` — the text of an option.
* `DiffersByOption` — one of two types is the option of the other one.

## Main statements

* `compatible_iff` — what comparing the texts tells.
* `compatible_iterate_iff` — a type inside some options and inside others.
* `Composed.merges_iff` — which declarations of a property are merged.
-/

namespace ContentModels

/-! ## Types that are written alike -/

theorem sameType_iff {a b : String} :
    sameType a b = true ↔ Text.withoutBlanks a = Text.withoutBlanks b := beq_iff_eq

theorem sameType_refl (a : String) : sameType a a = true := sameType_iff.2 rfl

theorem sameType_trans {a b c : String} (h : sameType a b = true) (h' : sameType b c = true) :
    sameType a c = true := sameType_iff.2 ((sameType_iff.1 h).trans (sameType_iff.1 h'))

theorem Text.filter_dropWhile_isBlank (cs : List Char) :
    (cs.dropWhile isBlank).filter (fun c => !isBlank c) = cs.filter fun c => !isBlank c := by
  induction cs with
  | nil => rfl
  | cons c rest ih =>
    by_cases hc : isBlank c = true
    · rw [List.dropWhile_cons_of_pos hc, ih, List.filter_cons_of_neg (by simpa using hc)]
    · rw [List.dropWhile_cons_of_neg hc]

/-- Blanks at the ends make no difference to a text without blanks. -/
theorem Text.withoutBlanks_trim (s : String) : withoutBlanks (trim s) = withoutBlanks s := by
  simp [withoutBlanks, trim, trimChars, filter_dropWhile_isBlank]

theorem sameType_trim (a b : String) : sameType (Text.trim a) b = sameType a b := by
  simp [sameType, Text.withoutBlanks_trim]

/-! ## Options -/

/-- The text of the option of a type. -/
def optionOf (type : String) : String := "Option<" ++ type ++ ">"

/-- A text is that of an option. -/
def IsOption (type : String) : Prop := ∃ inner, type = optionOf inner

theorem toList_optionOf (type : String) :
    (optionOf type).toList = "Option<".toList ++ (type.toList ++ ['>']) := by
  simp [optionOf, String.toList_append]

theorem optionOf_injective : Function.Injective optionOf := by
  intro a b h
  have hchars := congrArg String.toList h
  rw [toList_optionOf, toList_optionOf] at hchars
  exact String.toList_inj.1 (List.append_cancel_right (List.append_cancel_left hchars))

theorem length_optionOf (type : String) : (optionOf type).length = type.length + 8 := by
  have hstart : "Option<".length = 7 := rfl
  have hend : ">".length = 1 := rfl
  rw [optionOf, String.length_append, String.length_append, hstart, hend]
  omega

theorem optionOf_ne (type : String) : optionOf type ≠ type := by
  intro h
  have hlength := congrArg String.length h
  rw [length_optionOf] at hlength
  omega

theorem length_iterate_optionOf (type : String) (n : Nat) :
    (optionOf^[n] type).length = type.length + 8 * n := by
  induction n with
  | zero => rfl
  | succ n ih =>
    rw [Function.iterate_succ_apply', length_optionOf, ih]
    omega

theorem dropStart?_eq_some_iff {start cs rest : List Char} :
    dropStart? start cs = some rest ↔ cs = start ++ rest := by
  unfold dropStart?
  split
  · next h =>
    obtain ⟨tail, rfl⟩ := List.isPrefixOf_iff_prefix.1 h
    rw [List.drop_left, Option.some.injEq, List.append_cancel_left_eq]
  · next h =>
    refine iff_of_false nofun ?_
    rintro rfl
    exact h (List.isPrefixOf_iff_prefix.2 (List.prefix_append ..))

/-- The option around a type is taken off. -/
theorem insideOption_optionOf (type : String) :
    insideOption (optionOf type).toList = type.toList := by
  rw [insideOption, dropStart?_eq_some_iff.2 (toList_optionOf type)]
  simp

/-- Any other text stays as it is. -/
theorem insideOption_of_not_isOption {type : String} (h : ¬IsOption type) :
    insideOption type.toList = type.toList := by
  rw [insideOption]
  split
  · next inner hstart =>
    refine if_neg fun hend => h ?_
    obtain ⟨cs, rfl⟩ := List.getLast?_eq_some_iff.1 hend
    have hchars := dropStart?_eq_some_iff.1 hstart
    exact ⟨String.ofList cs, String.toList_inj.1 (by simpa [toList_optionOf] using hchars)⟩
  · rfl

/-- Only an option is another type inside. -/
theorem isOption_iff {type : String} : IsOption type ↔ insideOption type.toList ≠ type.toList := by
  constructor
  · rintro ⟨inner, rfl⟩ h
    rw [insideOption_optionOf, String.toList_inj] at h
    exact optionOf_ne inner h.symm
  · exact fun h => by_contra fun hnot => h (insideOption_of_not_isOption hnot)

instance (type : String) : Decidable (IsOption type) := decidable_of_iff' _ isOption_iff

theorem Text.toList_withoutBlanks (s : String) :
    (withoutBlanks s).toList = s.toList.filter fun c => !isBlank c := String.toList_ofList

theorem withoutBlanks_optionOf (type : String) :
    Text.withoutBlanks (optionOf type) = optionOf (Text.withoutBlanks type) := by
  have hstart : "Option<".toList.filter (fun c => !Text.isBlank c) = "Option<".toList := by decide
  have hend : ['>'].filter (fun c => !Text.isBlank c) = ['>'] := by decide
  apply String.toList_inj.1
  rw [Text.toList_withoutBlanks, toList_optionOf, toList_optionOf, Text.toList_withoutBlanks,
    List.filter_append, List.filter_append, hstart, hend]

/-! ## Comparing two types -/

/-- One of two types is the option of the other one, blanks aside. -/
def DiffersByOption (a b : String) : Prop :=
  Text.withoutBlanks a = optionOf (Text.withoutBlanks b) ∨
    Text.withoutBlanks b = optionOf (Text.withoutBlanks a)

instance (a b : String) : Decidable (DiffersByOption a b) := inferInstanceAs (Decidable (_ ∨ _))

/-- Both of two types are options, blanks aside. -/
def BothOptions (a b : String) : Prop :=
  IsOption (Text.withoutBlanks a) ∧ IsOption (Text.withoutBlanks b)

instance (a b : String) : Decidable (BothOptions a b) := inferInstanceAs (Decidable (_ ∧ _))

/-- Types that differ by an option are not written alike. -/
theorem DiffersByOption.not_sameType {a b : String} (h : DiffersByOption a b) :
    sameType a b = false := by
  rw [Bool.eq_false_iff, ne_eq, sameType_iff]
  intro hsame
  rcases h with h | h
  · exact optionOf_ne _ (h.symm.trans hsame)
  · exact optionOf_ne _ (h.symm.trans hsame.symm)

/-- A type that is no option is what is inside itself and inside its option. -/
theorem insideOption_eq_iff_of_not_isOption {a b : String} (plain : ¬IsOption b) :
    insideOption a.toList = b.toList ↔ a = b ∨ a = optionOf b := by
  by_cases ha : IsOption a
  · obtain ⟨a, rfl⟩ := ha
    have hne : optionOf a ≠ b := fun h => plain ⟨a, h.symm⟩
    rw [insideOption_optionOf, String.toList_inj, optionOf_injective.eq_iff, or_iff_right hne]
  · have hne : a ≠ optionOf b := fun h => ha ⟨b, h⟩
    rw [insideOption_of_not_isOption ha, String.toList_inj, or_iff_left hne]

/-- Two texts are alike once the option around each is taken off if they are alike, or if one of
them is the option of the other one and that is none. -/
theorem insideOption_eq_iff {a b : String} :
    insideOption a.toList = insideOption b.toList ↔
      a = b ∨ (a = optionOf b ∨ b = optionOf a) ∧ ¬(IsOption a ∧ IsOption b) := by
  by_cases hb : IsOption b
  · by_cases ha : IsOption a
    · rw [or_iff_left fun h => h.2 ⟨ha, hb⟩]
      obtain ⟨a, rfl⟩ := ha
      obtain ⟨b, rfl⟩ := hb
      rw [insideOption_optionOf, insideOption_optionOf, String.toList_inj, optionOf_injective.eq_iff]
    · have hne : a ≠ optionOf b := fun h => ha ⟨b, h⟩
      rw [insideOption_of_not_isOption ha, eq_comm, insideOption_eq_iff_of_not_isOption ha]
      simp only [ha, hne, false_or, false_and, not_false_eq_true, and_true, eq_comm]
  · have hne : b ≠ optionOf a := fun h => hb ⟨a, h⟩
    rw [insideOption_of_not_isOption hb, insideOption_eq_iff_of_not_isOption hb]
    simp only [hb, hne, or_false, and_false, not_false_eq_true, and_true]

theorem compatible_iff {a b : String} : compatible a b = true ↔
    sameType a b = true ∨ DiffersByOption a b ∧ ¬BothOptions a b := by
  rw [compatible, beq_iff_eq, insideOption_eq_iff, sameType_iff]
  rfl

/-- A type inside some options is compatible with the same type inside others only if there are as
many of them, or one and none. -/
theorem compatible_iterate_iff {type : String} (plain : ¬IsOption (Text.withoutBlanks type))
    (m n : Nat) :
    compatible (optionOf^[m] type) (optionOf^[n] type) = true ↔ m = n ∨ m + n = 1 := by
  have blanks : Function.Semiconj Text.withoutBlanks optionOf optionOf := withoutBlanks_optionOf
  have inside (k : Nat) : insideOption (Text.withoutBlanks (optionOf^[k] type)).toList =
      (optionOf^[k - 1] (Text.withoutBlanks type)).toList := by
    rw [(blanks.iterate_right k).eq]
    cases k with
    | zero => exact insideOption_of_not_isOption plain
    | succ k => rw [Function.iterate_succ_apply', insideOption_optionOf, Nat.add_sub_cancel]
  rw [compatible, beq_iff_eq, inside, inside, String.toList_inj]
  constructor
  · intro h
    have hlength := congrArg String.length h
    rw [length_iterate_optionOf, length_iterate_optionOf] at hlength
    omega
  · intro h
    rw [show m - 1 = n - 1 by omega]

/-! ## Merging declarations -/

/-- A declaration of another type does not clash with one of the same type or of one that differs by
an option, unless both types are options. -/
theorem Declared.not_clashes_iff {owner : String} {kept dropped : Declared}
    (foreign : kept.declaredBy ≠ owner) :
    ¬kept.Clashes owner dropped ↔
      sameType kept.property.valueType dropped.property.valueType = true ∨
        DiffersByOption kept.property.valueType dropped.property.valueType ∧
          ¬BothOptions kept.property.valueType dropped.property.valueType := by
  rw [← compatible_iff]
  constructor
  · intro hnot
    by_contra happart
    have hdiffer := Bool.eq_false_iff.2 fun hsame => happart (compatible_iff.2 (.inl hsame))
    exact hnot ⟨hdiffer, foreign, Bool.eq_false_iff.2 happart⟩
  · intro h hclash
    exact Bool.eq_false_iff.1 hclash.apart h

/-- Two declarations of a property, the first of which is another type's than the one that they are
added to, are merged if and only if their values are of one type or of types that differ by an
option, but not where both are options. Then the first one is kept, with a warning if the types
differ. An option and the option of that are incompatible. -/
theorem Composed.merges_iff (c : Composed) (owner : String) (kept dropped : Declared)
    (first : firstOf c.declared dropped.property.handle = some kept)
    (foreign : kept.declaredBy ≠ owner) :
    ((∃ c', c.add owner dropped = .ok c') ↔
      sameType kept.property.valueType dropped.property.valueType = true ∨
        DiffersByOption kept.property.valueType dropped.property.valueType ∧
          ¬BothOptions kept.property.valueType dropped.property.valueType) ∧
    (∀ c', c.add owner dropped = .ok c' →
      firstOf c'.declared dropped.property.handle = some (kept.ignoreIf dropped.property.ignored) ∧
        c'.warnings = c.warnings ++
          if sameType kept.property.valueType dropped.property.valueType then []
          else [droppedWarning owner kept dropped]) ∧
    (DiffersByOption kept.property.valueType dropped.property.valueType →
      BothOptions kept.property.valueType dropped.property.valueType →
        c.add owner dropped = .error (incompatibility owner kept dropped)) := by
  rw [← Declared.not_clashes_iff foreign]
  refine ⟨⟨?_, ?_⟩, ?_, ?_⟩
  · rintro ⟨c', h⟩ hclash
    rw [add_error_iff.2 ⟨kept, first, hclash, rfl⟩] at h
    cases h
  · intro hclash
    rw [add_of_first first, Declared.settle_of_not_clashes hclash]
    exact ⟨_, rfl⟩
  · intro c' h
    refine ⟨?_, warnings_of_add h first⟩
    rw [add_declared h, firstOf_absorb, if_pos rfl, first]
    rfl
  · intro hdiffer hoptions
    refine add_error_iff.2 ⟨kept, first, ?_, rfl⟩
    by_contra hnot
    rcases (Declared.not_clashes_iff foreign).1 hnot with hsame | ⟨-, hplain⟩
    · exact absurd hsame (Bool.eq_false_iff.1 hdiffer.not_sameType)
    · exact hplain hoptions

/-! ### An option of an option -/

/-- A page that is composed with two types, each of which declares a property `x`. -/
def wrapped (first second : String) : Schema where
  types := [
    { handle := "page", mixins := ["m1", "m2"] },
    { handle := "m1", properties := [{ handle := "x", valueType := first }] },
    { handle := "m2", properties := [{ handle := "x", valueType := second }] }]

/-- The page of `wrapped`. -/
def wrappedPage (first second : String) : (wrapped first second).Member :=
  ⟨{ handle := "page", mixins := ["m1", "m2"] }, List.mem_cons_self⟩

/-- The declaration of `x` by a type. -/
def wrappedDeclaration (owner valueType : String) : Declared :=
  ⟨{ handle := "x", valueType }, owner⟩

/-- Composing the page comes down to the second declaration that is added to the first one. -/
theorem compose_wrappedPage (first second : String) :
    (wrapped first second).compose (wrappedPage first second) [] =
      Composed.add ⟨[wrappedDeclaration "m1" first], []⟩ "page" (wrappedDeclaration "m2" second) := by
  let m1 : (wrapped first second).Member := ⟨_, .tail _ List.mem_cons_self⟩
  let m2 : (wrapped first second).Member := ⟨_, .tail _ (.tail _ List.mem_cons_self)⟩
  rw [Schema.compose, dif_neg (by simp)]
  change (wrapped first second).composeWith "page" ["page"] ["m1", "m2"] {} = _
  rw [Schema.composeWith, show (wrapped first second).member? "m1" = some m1 from rfl]
  change ((wrapped first second).compose m1 ["page"] >>= _) = _
  rw [Schema.compose_of_alone rfl rfl rfl]
  change (wrapped first second).composeWith "page" ["page"] ["m2"] _ = _
  rw [Schema.composeWith, show (wrapped first second).member? "m2" = some m2 from rfl]
  change ((wrapped first second).compose m2 ["page"] >>= _) = _
  rw [Schema.compose_of_alone rfl rfl rfl]
  simp only [Schema.composeWith]
  -- Adding one declaration, and then no more types, ends in returning what there is.
  exact (bind_pure (Composed.add _ _ _ >>= pure)).trans (bind_pure _)

/-- A string and its option are merged, and the option and its option are not. -/
theorem Composed.merges_iff_wrapped :
    (∃ c, (wrapped "String" "Option< String >").compose (wrappedPage _ _) [] = .ok c) ∧
      DiffersByOption "Option<String>" "Option<Option<String>>" ∧
      (wrapped "Option<String>" "Option<Option<String>>").compose (wrappedPage _ _) [] =
        .error (.incompatible "page" "x" "Option<String>" "'m1'" "Option<Option<String>>" "'m2'") := by
  have hdiffer : DiffersByOption "Option<String>" "Option<Option<String>>" := by decide
  refine ⟨?_, hdiffer, ?_⟩
  · rw [compose_wrappedPage]
    exact (merges_iff _ "page" (wrappedDeclaration "m1" "String") (wrappedDeclaration "m2" _)
      rfl (by decide)).1.2 (.inr (by decide))
  · rw [compose_wrappedPage]
    exact (merges_iff _ "page" (wrappedDeclaration "m1" "Option<String>") (wrappedDeclaration "m2" _)
      rfl (by decide)).2.2 hdiffer (by decide)

end ContentModels
