import ContentModels.Proofs.Text.Words
import ContentModels.Schema.Basic

/-!
# Names are identifiers

Whatever text a name is made from, the result can stand in generated code as it is. Names for
handles of types have a capital; names of accessors and of modules are never those of members that
every model has, and names of modules have no capital.

## Main definitions

* `hasCapital` — the name holds a capital letter of ASCII.

## Main statements

* `isIdentifier_iff` — what an identifier is, in terms of its text as a whole.
* `isIdentifier_accessor`, `accessor_of_isIdentifier` — accessors.
* `isIdentifier_className`, `isIdentifier_explicitClassName` — model names.
* `accessor_eq_self_iff`, `isIdentifier_derived` — names of every kind.
* `ContentType.isIdentifier_modelName` — every type has an identifier for its model.
* `hasCapital_className`, `hasCapital_moduleName`, `moduleName_of_small` — capitals in names.
-/

namespace ContentModels.Naming

open Text

/-! ## Identifiers -/

theorem isIdentifierStart_eq (c : Char) :
    isIdentifierStart c = (isIdentifierChar c && !c.isDigit) := by
  have hdigit : c.isDigit = true → (c == '_') = false ∧ c.isAlpha = false := by
    intro h
    have hplain : isIdentifierChar c = true :=
      isIdentifierChar_of_isAlphanum (by simp [Char.isAlphanum, h])
    exact (kind_of_plain hplain).2.2.2.1 h
  grind [isIdentifierStart, isIdentifierChar, Char.isAlphanum]

/-- An identifier is a plain text that does not open with a digit, is no keyword and not a lone
underscore. -/
theorem isIdentifier_iff (name : String) :
    isIdentifier name = true ↔ IsPlain name.toList ∧ name.toList ≠ [] ∧
      opensWithDigit name.toList = false ∧ name ≠ "_" ∧ isKeyword name = false := by
  unfold isIdentifier
  split
  · next h => simp [h]
  · next c rest h => simp [h, isIdentifierStart_eq, IsPlain, opensWithDigit]; grind

/-- No keyword and no reserved member holds an underscore. -/
theorem underscore_notMem {name : String} (h : name ∈ keywords ++ reservedMembers) :
    '_' ∉ name.toList := by
  have hall : ∀ word ∈ keywords ++ reservedMembers, '_' ∉ word.toList := by decide
  exact hall name h

theorem isKeyword_of_underscore {name : String} (h : '_' ∈ name.toList) :
    isKeyword name = false := by
  simpa [isKeyword] using fun hmem => underscore_notMem (List.mem_append_left _ hmem) h

theorem isReserved_of_underscore {name : String} (h : '_' ∈ name.toList) :
    isReserved name = false := by
  simpa [isReserved] using fun hmem => underscore_notMem (List.mem_append_right _ hmem) h

theorem opensWithDigit_append {cs : List Char} (hne : cs ≠ []) (ds : List Char) :
    opensWithDigit (cs ++ ds) = opensWithDigit cs := by
  cases cs with
  | nil => exact absurd rfl hne
  | cons c rest => rfl

/-- An ending with an underscore makes an identifier of every plain text that does not open with a
digit. -/
theorem isIdentifier_append {name ending : String} (hplain : IsPlain name.toList)
    (hne : name.toList ≠ []) (hdigit : opensWithDigit name.toList = false)
    (hending : IsPlain ending.toList) (hscore : '_' ∈ ending.toList) :
    isIdentifier (name ++ ending) = true := by
  have hmem : '_' ∈ (name ++ ending).toList := by simp [hscore]
  refine (isIdentifier_iff _).2
    ⟨?_, List.ne_nil_of_mem hmem, ?_, ?_, isKeyword_of_underscore hmem⟩
  · rw [String.toList_append]
    exact hplain.append hending
  · rw [String.toList_append, opensWithDigit_append hne, hdigit]
  · intro hlone
    have hlength := congrArg (fun s => s.toList.length) hlone
    have := List.length_pos_iff.2 hne
    have := List.length_pos_of_mem hscore
    simp only [String.toList_append, List.length_append, String.reduceToList,
      List.length_singleton] at hlength
    omega

theorem isIdentifier_append_of_isIdentifier {name ending : String} (h : isIdentifier name = true)
    (hending : IsPlain ending.toList) (hscore : '_' ∈ ending.toList) :
    isIdentifier (name ++ ending) = true := by
  obtain ⟨hplain, hne, hdigit, -, -⟩ := (isIdentifier_iff name).1 h
  exact isIdentifier_append hplain hne hdigit hending hscore

/-! ## Accessors -/

theorem isPlain_plainChars (name : String) : IsPlain (plainChars name) := by
  intro c hc
  obtain ⟨d, -, rfl⟩ := List.mem_map.1 hc
  split
  · next h => exact isIdentifierChar_of_isAlphanum h
  · decide

theorem trimChars_of_plain {cs : List Char} (h : IsPlain cs) : trimChars cs = cs := by
  have hdrop {l : List Char} (hl : IsPlain l) : l.dropWhile isBlank = l := by
    cases l with
    | nil => rfl
    | cons c rest => simp [List.dropWhile, (kind_of_plain (hl c List.mem_cons_self)).2.1]
  have hreverse : IsPlain cs.reverse := fun c hc => h c (List.mem_reverse.1 hc)
  rw [trimChars, hdrop h, hdrop hreverse, List.reverse_reverse]

theorem plainChars_of_plain {name : String} (h : IsPlain name.toList) :
    plainChars name = name.toList := by
  rw [plainChars, trimChars_of_plain h]
  refine (List.map_congr_left fun c hc => ?_).trans (List.map_id _)
  have := h c hc
  grind [isIdentifierChar]

/-- An identifier that no model defines itself is an accessor as it stands. -/
theorem accessor_of_isIdentifier {name : String} (h : isIdentifier name = true)
    (hreserved : isReserved name = false) : accessor name = name := by
  obtain ⟨hplain, hne, hdigit, hlone, hkeyword⟩ := (isIdentifier_iff name).1 h
  simp [accessor, plainChars_of_plain hplain, hne, hdigit, hlone, hkeyword, hreserved]

/-- Accessors are identifiers that no model defines itself. -/
theorem isIdentifier_accessor (name : String) :
    isIdentifier (accessor name) = true ∧ isReserved (accessor name) = false := by
  unfold accessor
  extract_lets chars ident
  split
  · decide
  · next hempty =>
    have hchars : IsPlain chars := isPlain_plainChars name
    have hne : chars ≠ [] := by simpa using hempty
    have hident : IsPlain ident.toList ∧ ident.toList ≠ [] ∧ opensWithDigit ident.toList = false := by
      rw [String.toList_ofList]
      split
      · have hscore : IsPlain ['_'] := by decide
        exact ⟨hscore.append hchars, by simp, rfl⟩
      · next hdigit => exact ⟨hchars, hne, by simpa using hdigit⟩
    obtain ⟨hplain, hne, hdigit⟩ := hident
    split
    · rw [String.push_eq_append]
      exact ⟨isIdentifier_append hplain hne hdigit (by decide) (by decide),
        isReserved_of_underscore (by simp)⟩
    · next hfine =>
      simp only [Bool.or_eq_true, not_or, Bool.not_eq_true, beq_eq_false_iff_ne] at hfine
      exact ⟨(isIdentifier_iff ident).2 ⟨hplain, hne, hdigit, hfine.2, hfine.1.1⟩, hfine.1.2⟩

/-! ## Model names -/

/-- The name holds a capital letter of ASCII. -/
def hasCapital (name : String) : Bool := name.toList.any Char.isUpper

/-- The model name for a handle is a plain text that starts with a capital, and no keyword. -/
theorem className_spec (handle : String) :
    ∃ c rest, (className handle).toList = c :: rest ∧ c.isUpper = true ∧ IsPlain rest ∧
      isKeyword (className handle) = false := by
  unfold className
  extract_lets words name
  split
  · exact ⟨'M', "odel".toList, by decide, by decide, by decide, by decide⟩
  · next hempty =>
    have hwords : IsPlain words := fun c hc => isIdentifierChar_of_isAlphanum
      (alphanum_of_mem_pascal (isPlain_plainChars handle) hc)
    have hname : ∃ c rest, name.toList = c :: rest ∧ c.isUpper = true ∧ IsPlain rest := by
      rw [String.toList_ofList]
      split
      · have hmodel : IsPlain "odel".toList := by decide
        exact ⟨'M', "odel".toList ++ words, rfl, by decide, hmodel.append hwords⟩
      · next hdigit =>
        cases heq : words with
        | nil => simp [heq] at hempty
        | cons c rest =>
          rw [heq] at hdigit hwords
          refine ⟨c, rest, rfl, ?_, hwords.of_cons⟩
          exact head_pascal (isPlain_plainChars handle) heq (by simpa [opensWithDigit] using hdigit)
    obtain ⟨c, rest, heq, hupper, hplain⟩ := hname
    split
    · exact ⟨c, rest ++ ['_'], by simp [heq], hupper, hplain.append (by decide),
        isKeyword_of_underscore (by simp)⟩
    · next hkeyword => exact ⟨c, rest, heq, hupper, hplain, by simpa using hkeyword⟩

theorem hasCapital_className (handle : String) : hasCapital (className handle) = true := by
  obtain ⟨c, rest, heq, hupper, -⟩ := className_spec handle
  simp [hasCapital, heq, hupper]

theorem isIdentifier_className (handle : String) : isIdentifier (className handle) = true := by
  obtain ⟨c, rest, heq, hupper, hplain, hkeyword⟩ := className_spec handle
  have hstart : isIdentifierChar c = true ∧ c.isDigit = false ∧ c ≠ '_' := by
    have halpha : c.isAlphanum = true := by
      change (c.isUpper || c.isLower || c.isDigit) = true
      rw [hupper]
      rfl
    have hchar := isIdentifierChar_of_isAlphanum halpha
    obtain ⟨hdigit, hscore⟩ := (kind_of_plain hchar).2.2.2.2 hupper
    exact ⟨hchar, hdigit, by simpa using hscore⟩
  refine (isIdentifier_iff _).2 ⟨?_, by simp [heq], by simp [heq, opensWithDigit, hstart.2.1], ?_,
    hkeyword⟩
  · intro d hd
    rw [heq] at hd
    rcases List.mem_cons.1 hd with rfl | hd
    · exact hstart.1
    · exact hplain d hd
  · intro hlone
    rw [hlone] at heq
    exact hstart.2.2 (List.cons_eq_cons.1 heq).1.symm

theorem isIdentifier_explicitClassName (name : String) :
    isIdentifier (explicitClassName name) = true := by
  simp only [explicitClassName]
  split
  · next h => exact h
  · exact isIdentifier_className _

/-- An identifier that the schema gives is kept. -/
theorem explicitClassName_of_isIdentifier {name : String} (h : isIdentifier name = true) :
    explicitClassName name = name := by
  have htrim : trim name = name := by
    rw [trim, trimChars_of_plain ((isIdentifier_iff name).1 h).1, String.ofList_toList]
  simp [explicitClassName, htrim, h]

/-! ## Names without capitals -/

theorem hasCapital_eq_false_iff {name : String} (h : IsPlain name.toList) :
    hasCapital name = false ↔ ∀ c ∈ name.toList, isSmallChar c = true := by
  simp only [hasCapital, List.any_eq_false, isSmallChar, Bool.and_eq_true, Bool.not_eq_true',
    Bool.not_eq_true]
  exact ⟨fun hsmall c hc => ⟨h c hc, hsmall c hc⟩, fun hsmall c hc => (hsmall c hc).2⟩

/-- An accessor has capitals only where the text it is made from has them. -/
theorem hasCapital_accessor {cs : List Char} (h : ∀ c ∈ cs, isSmallChar c = true) :
    hasCapital (accessor (String.ofList cs)) = false := by
  have hchars : ∀ c ∈ plainChars (String.ofList cs), c.isUpper = false := by
    have hplain : IsPlain cs := fun c hc => by have := h c hc; simp_all [isSmallChar]
    rw [plainChars_of_plain (by simpa using hplain), String.toList_ofList]
    intro c hc
    have := h c hc
    simp_all [isSmallChar]
  unfold accessor
  extract_lets chars ident
  have hident : ∀ c ∈ ident.toList, c.isUpper = false := by
    rw [String.toList_ofList]
    split
    · exact List.forall_mem_cons.2 ⟨by decide, hchars⟩
    · exact hchars
  split
  · decide
  · split
    · simpa [hasCapital, or_imp, forall_and] using hident
    · simpa [hasCapital] using hident

theorem hasCapital_accessorName (handle : String) : hasCapital (accessorName handle) = false :=
  hasCapital_accessor fun _ hc => small_of_mem_snake (isPlain_plainChars handle) hc

theorem hasCapital_moduleName (stem : String) : hasCapital (moduleName stem) = false := by
  refine hasCapital_accessor fun c hc => ?_
  obtain ⟨d, hd, rfl⟩ := List.mem_map.1 hc
  exact isSmallChar_toLower (isPlain_plainChars stem d hd)

/-- An identifier in small letters is the module of its own name. -/
theorem moduleName_of_small {name : String} (h : isIdentifier name = true)
    (hsmall : hasCapital name = false) (hreserved : isReserved name = false) :
    moduleName name = name := by
  have hplain := ((isIdentifier_iff name).1 h).1
  have hlower : name.toList.map Char.toLower = name.toList :=
    (List.map_congr_left fun c hc => toLower_of_isSmallChar
      ((hasCapital_eq_false_iff hplain).1 hsmall c hc)).trans (List.map_id _)
  rw [moduleName, plainChars_of_plain hplain, hlower, String.ofList_toList,
    accessor_of_isIdentifier h hreserved]

/-! ## Names of every kind -/

theorem isIdentifier_crateName (space : String) : isIdentifier (crateName space) = true := by
  simp only [crateName]
  split
  · decide
  · exact (isIdentifier_accessor _).1

/-- The accessors among the names are those that are kept as they are. -/
theorem accessor_eq_self_iff (name : String) :
    accessor name = name ↔ isIdentifier name = true ∧ isReserved name = false := by
  refine ⟨fun h => ?_, fun h => accessor_of_isIdentifier h.1 h.2⟩
  rw [← h]
  exact isIdentifier_accessor name

/-- Every name that is derived from a text is an identifier, and those of accessors and modules are
never those of members that every model has. Accessors and names of models are kept when they are
derived again. -/
theorem isIdentifier_derived (text : String) :
    (∀ derive ∈ [className, explicitClassName, accessorName, moduleName, accessor, crateName],
      isIdentifier (derive text) = true) ∧
    (∀ derive ∈ [accessorName, moduleName, accessor], isReserved (derive text) = false) ∧
    accessor (accessor text) = accessor text ∧
    (accessor text = text ↔ isIdentifier text = true ∧ isReserved text = false) ∧
    explicitClassName (explicitClassName text) = explicitClassName text := by
  have haccessor := isIdentifier_accessor
  refine ⟨?identifiers, ?reserved, ?again, accessor_eq_self_iff text,
    explicitClassName_of_isIdentifier (isIdentifier_explicitClassName text)⟩
  case identifiers =>
    simp only [List.forall_mem_cons, List.not_mem_nil, false_imp_iff, implies_true, and_true]
    exact ⟨isIdentifier_className text, isIdentifier_explicitClassName text, (haccessor _).1,
      (haccessor _).1, (haccessor _).1, isIdentifier_crateName text⟩
  case reserved =>
    simp only [List.forall_mem_cons, List.not_mem_nil, false_imp_iff, implies_true, and_true]
    exact ⟨(haccessor _).2, (haccessor _).2, (haccessor _).2⟩
  case again => exact (accessor_eq_self_iff _).2 (haccessor text)

end ContentModels.Naming

namespace ContentModels

/-- Every type has an identifier for its model. -/
theorem ContentType.isIdentifier_modelName (t : ContentType) :
    Naming.isIdentifier t.modelName = true := by
  unfold modelName
  split
  · exact Naming.isIdentifier_explicitClassName _
  · exact Naming.isIdentifier_className _

/-- A type whose name is not given has a model whose name has a capital. -/
theorem ContentType.hasCapital_modelName {t : ContentType} (h : givenName? t.name = none) :
    Naming.hasCapital t.modelName = true := by
  rw [modelName, h]
  exact Naming.hasCapital_className _

end ContentModels
