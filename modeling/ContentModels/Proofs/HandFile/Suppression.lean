import ContentModels.Proofs.HandFile.Merging
import ContentModels.Proofs.Source.Lexing

/-!
# A marker of its own

The marker that leaves a property out of a model can be written with the literal that the accessor
has in generated code. A file that holds nothing else is read without complaint, whatever the handle
is, and all it changes in what is written by hand is that this property is ignored.

## Main definitions

* `suppression` — the marker.
* `HandCode.Hides` — hand-authored code that says what other code says, and ignores one more
  property.

## Main statements

* `tokenize_suppression` — the tokens of the marker.
* `read_suppression` — what a file of this marker contributes.
* `HandCode.hides_ofFiles` — what the file changes among others.
-/

namespace ContentModels

open Source Source.Lexer Source.Parser

/-! ## The text -/

/-- The marker that leaves a property out of a model, with its handle as generated code has it. -/
def suppression (model handle : String) : String :=
  "ignore_property!(" ++ model ++ ", " ++ Text.quoted handle ++ ");"

theorem toList_suppression (model handle : String) : (suppression model handle).toList =
    "ignore_property".toList ++ '!' :: '(' ::
      (model.toList ++ ',' :: ' ' :: ((Text.quoted handle).toList ++ [')', ';'])) := by
  have hopen : "ignore_property!(".toList = "ignore_property".toList ++ ['!', '('] := by decide
  have hcomma : ", ".toList = [',', ' '] := by decide
  have hclose : ");".toList = [')', ';'] := by decide
  unfold suppression
  simp only [String.toList_append, hopen, hcomma, hclose, List.append_assoc, List.cons_append,
    List.nil_append]

/-- The tokens of the arguments. -/
def suppressionArguments (model handle : String) (p₁ p₂ p₃ : Position) : List Token :=
  [.word model p₁, .punct ',' false p₂, .literal (.text handle) p₃]

/-- The marker is read as the tokens that it shows, and the handle comes out as it is. -/
theorem tokenize_suppression {model : String} (h : Naming.isIdentifier model = true)
    (handle : String) : ∃ p₁ p₂ p₃ p₄ p₅ p₆ p₇ p₈,
      tokenize (suppression model handle).toList = .ok [.word "ignore_property" p₁, .punct '!' false p₂,
        .group .parenthesis (suppressionArguments model handle p₃ p₄ p₅) p₆ p₇, .punct ';' false p₈] := by
  -- every token takes one step, the end of the text as well
  obtain ⟨fuel, hfuel⟩ : ∃ fuel, (suppression model handle).toList.length + 1 = fuel + 9 := by
    refine Nat.exists_eq_add_of_le' ?_
    have hname : "ignore_property".toList.length = 15 := by decide
    rw [toList_suppression, List.length_append]
    omega
  refine ⟨?p₁, ?p₂, ?p₃, ?p₄, ?p₅, ?p₆, ?p₇, ?p₈, ?tokens⟩
  case tokens =>
    rw [tokenize, hfuel, toList_suppression, run_word (by decide) rfl, run_punct (by decide) rfl,
      run_opening (c := '(') rfl, run_word (.of_isIdentifier h) rfl, run_punct (by decide) rfl,
      run_gap rfl,
      run_quoted handle (afterSuffix_eq_self rfl), run_closing (c := ')') rfl,
      run_punct (by decide) rfl, run_end]
    rfl

/-! ## The marker -/

/-- An identifier of generated code can be read as one. -/
theorem isUsableIdent_of_isIdentifier {name : String} (h : Naming.isIdentifier name = true) :
    isUsableIdent name = true := by
  obtain ⟨-, -, -, hlone, hkeyword⟩ := (Naming.isIdentifier_iff name).1 h
  have hall : ∀ word ∈ reservedWords, word = "_" ∨ word ∈ Naming.keywords := by decide
  rw [isUsableIdent, Bool.not_eq_true', ← Bool.not_eq_true, List.contains_iff_mem]
  intro hmem
  have hnot : name ∉ Naming.keywords := by simpa [Naming.isKeyword] using hkeyword
  exact (hall name hmem).elim hlone hnot

/-- The path of the marker. -/
def suppressionPath : NamePath := ⟨false, [⟨"ignore_property", .none⟩]⟩

/-- A call of the marker is an item, whatever its arguments are. -/
theorem itemsOfTokens_call (arguments : List Token) (p₁ p₂ p₃ close p₄ : Position) :
    itemsOfTokens [.word "ignore_property" p₁, .punct '!' false p₂,
      .group .parenthesis arguments p₃ close, .punct ';' false p₄] =
    .ok [.macroCall ⟨suppressionPath, p₁, arguments, close⟩] := by
  rw [itemsOfTokens]
  rfl

theorem ident_word {name : String} (h : isUsableIdent name = true) (scope : Scope) (p : Position)
    (rest : List Token) : ident scope ⟨.word name p :: rest, none⟩ = .ok (name, ⟨rest, none⟩) := by
  change (if isUsableIdent name then (do drop; return name) else fail (.keyword name) : Parser String)
    scope _ = _
  rw [if_pos h]
  rfl

/-- The arguments are a model and one handle. -/
theorem ofCall_suppression {model : String} (h : isUsableIdent model = true) (handle : String)
    (pos p₁ p₂ p₃ close : Position) :
    Marker.ofCall ⟨suppressionPath, pos, suppressionArguments model handle p₁ p₂ p₃, close⟩ =
      .ok (some (.ignoreProperties model [handle])) := by
  have harguments : Marker.ignorePropertyArguments ⟨close, none⟩
      ⟨suppressionArguments model handle p₁ p₂ p₃, none⟩ =
        .ok (.ignoreProperties model [handle], ⟨[], none⟩) := by
    change ((ident ⟨close, none⟩ ⟨_ :: _, none⟩).bind fun v => _) = _
    rw [ident_word h]
    rfl
  have hread : readAll Marker.ignorePropertyArguments close
      (suppressionArguments model handle p₁ p₂ p₃) = .ok (.ignoreProperties model [handle]) := by
    rw [readAll, harguments]
    rfl
  have hname : Marker.calledName? suppressionPath = some Marker.ignorePropertyName := rfl
  simp only [Marker.ofCall, hname, if_true, Marker.arguments, hread]
  rfl

/-- The marker is the only item of its text. -/
theorem items_suppression {model : String} (h : Naming.isIdentifier model = true)
    (handle : String) :
    ∃ p₁ p₂ p₃ pos close, items (suppression model handle) =
      .ok [.macroCall ⟨suppressionPath, pos, suppressionArguments model handle p₁ p₂ p₃, close⟩] := by
  obtain ⟨p₁, p₂, p₃, p₄, p₅, p₆, p₇, p₈, htokens⟩ := tokenize_suppression h handle
  obtain ⟨rest, hrest⟩ : ∃ rest, (suppression model handle).toList = 'i' :: rest :=
    ⟨_, toList_suppression model handle⟩
  have hwhole : withoutByteOrderMark (withoutInterpreter (withoutByteOrderMark
      (suppression model handle).toList)) = (suppression model handle).toList := by
    rw [hrest]
    rfl
  refine ⟨p₃, p₄, p₅, p₁, p₇, ?_⟩
  rw [items, hwhole, htokens]
  exact itemsOfTokens_call ..

/-- A file of this marker contributes that the property is ignored, and nothing is wrong with it. -/
theorem read_suppression {model : String} (h : Naming.isIdentifier model = true) (path : Path)
    (handle : String) : (⟨path, suppression model handle⟩ : SourceFile).read =
      .ok (Contribution.addMarker { path } (.ignoreProperties model [handle]), []) := by
  obtain ⟨p₁, p₂, p₃, pos, close, hitems⟩ := items_suppression h handle
  simp only [SourceFile.read, hitems, Contribution.addItems, Contribution.addItem,
    ofCall_suppression (isUsableIdent_of_isIdentifier h)]

/-! ## Among other files -/

namespace HandCode

/-- Hand-authored code that says what other code says, and ignores one more property. -/
structure Hides (code code' : HandCode) (model handle : String) : Prop where
  declared : ∀ m member, code'.isDeclared m member = code.isDeclared m member
  renamed : ∀ m h, code'.renamed? m h = code.renamed? m h
  implemented : ∀ m, code'.implementsType m = code.implementsType m
  typeIgnored : ∀ h, code'.isTypeIgnored h = code.isTypeIgnored h
  uses : ∀ m, code'.usesFor m = code.usesFor m
  ignored : ∀ m h, code'.isPropertyIgnored m h =
    (code.isPropertyIgnored m h || (m == model && h == handle))

variable {code code' : HandCode} {model handle : String}

/-- Another file adds the same to both. -/
theorem Hides.add (h : code.Hides code' model handle) (c : Contribution) :
    (code.add c).Hides (code'.add c) model handle where
  declared m member := by rw [isDeclared_add code, isDeclared_add code', h.declared]
  renamed m handle := by rw [renamed?_add code, renamed?_add code', h.renamed]
  implemented m := by rw [implementsType_add code, implementsType_add code', h.implemented]
  typeIgnored handle := by rw [isTypeIgnored_add code, isTypeIgnored_add code', h.typeIgnored]
  uses m := by rw [usesFor_add code, usesFor_add code', h.uses]
  ignored m handle := by
    rw [isPropertyIgnored_add code, isPropertyIgnored_add code', h.ignored, Bool.or_right_comm]

theorem Hides.foldl_add (h : code.Hides code' model handle) (l : List Contribution) :
    (l.foldl HandCode.add code).Hides (l.foldl HandCode.add code') model handle := by
  induction l generalizing code code' with
  | nil => exact h
  | cons c rest ih => exact ih (h.add c)

/-- What a file of the marker says of models. -/
theorem model?_suppression (path : Path) (m : String) :
    (add {} (Contribution.addMarker { path } (.ignoreProperties model [handle]))).model? m =
      if m = model then some { ignored := SortedSet.add ∅ handle } else none := by
  have hget : (Contribution.addMarker { path } (.ignoreProperties model [handle])).models.get? m =
      if compare m model = .eq then some { ignored := SortedSet.add ∅ handle } else none :=
    SortedMap.get?_alter ..
  rw [model?_empty_add, hget]
  simp only [Std.LawfulEqCmp.compare_eq_iff_eq]
  split
  · rfl
  · rfl

/-- The file of the marker adds one property that is ignored. -/
theorem hides_add (code : HandCode) (path : Path) (model handle : String) :
    code.Hides (code.add (Contribution.addMarker { path } (.ignoreProperties model [handle])))
      model handle where
  declared m member := by
    rw [isDeclared_add code, isDeclared, isDeclared, model?_suppression]
    split <;> simp
  renamed m h := by
    rw [renamed?_add code, renamed?, renamed?, model?_suppression]
    split <;> simp
  implemented m := by
    rw [implementsType_add code, implementsType, implementsType, model?_suppression]
    split <;> simp
  typeIgnored h := by
    rw [isTypeIgnored_add code]
    exact Bool.or_false _
  uses m := by
    refine SortedSet.ext_contains fun path => ?_
    rw [usesFor_add code, SortedSet.contains_union, usesFor, usesFor, model?_suppression]
    by_cases hm : m = model <;> simp [hm]
  ignored m h := by
    have hbeq : (compare h handle == .eq) = (h == handle) := by
      rw [Bool.eq_iff_iff, beq_iff_eq, beq_iff_eq, Std.LawfulEqCmp.compare_eq_iff_eq]
    rw [isPropertyIgnored_add code, isPropertyIgnored, isPropertyIgnored, model?_suppression]
    by_cases hm : m = model <;> simp [hm, hbeq]

/-- A file of the marker among other files: nothing is wrong with it, and one more property is
ignored. -/
theorem hides_ofFiles (before after : List SourceFile) (path : Path)
    (h : Naming.isIdentifier model = true) (handle : String) :
    (ofFiles (before ++ ⟨path, suppression model handle⟩ :: after)).2 = (ofFiles (before ++ after)).2 ∧
      (ofFiles (before ++ after)).1.Hides
        (ofFiles (before ++ ⟨path, suppression model handle⟩ :: after)).1 model handle := by
  have hread : read (⟨path, suppression model handle⟩ :: after) =
      (Contribution.addMarker { path } (.ignoreProperties model [handle]) :: (read after).1,
        (read after).2) := by
    rw [read_cons, read_suppression h]
    rfl
  simp only [ofFiles, ofContributions, read_append, hread, List.foldl_append, List.foldl_cons]
  exact ⟨trivial, (hides_add _ path model handle).foldl_add _⟩

end HandCode

end ContentModels
