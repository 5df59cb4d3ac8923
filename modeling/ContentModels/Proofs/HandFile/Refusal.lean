import ContentModels.Proofs.HandFile.Markers
import ContentModels.Proofs.HandFile.Suppression

/-!
# Markers that are refused

A marker that is not written in the grammar of its name leaves no trace but an error: a file
contributes what it contributes without such markers.

## Main definitions

* `Source.Item.IsRefused` — a marker whose arguments are not written in the grammar of its name.
* `Source.Item.Told` — the error that such a marker leaves.

## Main statements

* `Contribution.addItems_eq` — what items say, without the markers that are refused.
* `SourceFile.markers_read` — which markers of a file are accepted, and what the others leave.
-/

namespace ContentModels

open Source Source.Lexer

namespace Source

/-- A call by the name of a marker, with arguments that no marker of that name is written in. -/
def MacroCall.IsRefused (call : MacroCall) : Prop :=
  ∃ name ∈ Marker.macroNames, Marker.calledName? call.path = some name ∧
    ∀ marker : Marker, name = marker.macroName → ¬marker.Written call.arguments

/-- A marker that is refused. -/
def Item.IsRefused : Item → Prop
  | .macroCall call => call.IsRefused
  | _ => False

/-- What is told of a marker that is refused: the file, and the line of the name. -/
def Item.Told (path : Path) (item : Item) (e : HandFileError) : Prop :=
  ∃ call reason, item = .macroCall call ∧ e = .marker path call.pos.line reason

end Source

namespace Marker

variable {call : MacroCall}

/-- A macro call is refused where it is a marker by its name only. -/
theorem isRefused_iff : call.IsRefused ↔ ∃ reason, ofCall call = .error reason := by
  constructor
  · rintro ⟨name, hname, hcall, hnot⟩
    obtain ⟨r, hr, hok⟩ := exists_outcome hname hcall
    cases r with
    | error reason => exact ⟨reason, hr⟩
    | ok marker =>
      obtain ⟨hmarker, hwritten⟩ := (hok marker).1 rfl
      exact absurd hwritten (hnot marker hmarker)
  · rintro ⟨reason, hreason⟩
    by_cases hnames : ∃ name ∈ macroNames, calledName? call.path = some name
    · obtain ⟨name, hname, hcall⟩ := hnames
      refine ⟨name, hname, hcall, fun marker hmarker hwritten => ?_⟩
      obtain ⟨r, hr, hok⟩ := exists_outcome hname hcall
      rw [hr, (hok marker).2 ⟨hmarker, hwritten⟩] at hreason
      cases hreason
    · rw [ofCall_unnamed fun name hname hcall => hnames ⟨name, hname, hcall⟩] at hreason
      cases hreason

end Marker

instance (call : MacroCall) : Decidable call.IsRefused :=
  match h : Marker.ofCall call with
  | .ok _ => isFalse fun refused => by
      obtain ⟨reason, hreason⟩ := Marker.isRefused_iff.1 refused
      cases h.symm.trans hreason
  | .error reason => isTrue (Marker.isRefused_iff.2 ⟨reason, h⟩)

instance (item : Item) : Decidable item.IsRefused :=
  match item with
  | .macroCall call => inferInstanceAs (Decidable call.IsRefused)
  | .members .. | .declaration _ | .use _ | .other => isFalse id

namespace Contribution

variable {c : Contribution} {item : Item}

/-- A marker that is accepted is added. -/
theorem addItem_of_written {call : MacroCall} {marker : Marker}
    (hcall : Marker.calledName? call.path = some marker.macroName)
    (hwritten : marker.Written call.arguments) :
    c.addItem (.macroCall call) = .ok (c.addMarker marker) := by
  simp only [addItem, Marker.ofCall_eq_some_iff.2 ⟨hcall, hwritten⟩]

/-- A marker that is refused is told of. -/
theorem addItem_of_isRefused (refused : item.IsRefused) :
    ∃ e, item.Told c.path e ∧ c.addItem item = .error e := by
  cases item with
  | macroCall call =>
    obtain ⟨reason, hreason⟩ := Marker.isRefused_iff.1 refused
    exact ⟨_, ⟨call, reason, rfl, rfl⟩, by simp only [addItem, hreason]⟩
  | _ => exact absurd refused id

/-- Everything else is added, and the file stays the same. -/
theorem addItem_of_not_isRefused (accepted : ¬item.IsRefused) :
    ∃ c', c.addItem item = .ok c' ∧ c'.path = c.path := by
  cases item with
  | macroCall call =>
    cases h : Marker.ofCall call with
    | error reason => exact absurd (Marker.isRefused_iff.2 ⟨reason, h⟩) accepted
    | ok found =>
      simp only [addItem, h]
      rcases found with - | ⟨- | - | -⟩ <;> exact ⟨_, rfl, rfl⟩
  | members model names => cases model <;> exact ⟨_, rfl, rfl⟩
  | _ => exact ⟨_, rfl, rfl⟩

/-- What is added does not depend on where it stands. -/
theorem addItem_of_like {item' : Item} (accepted : ¬item.IsRefused) (like : item.Like item') :
    c.addItem item' = c.addItem item := by
  cases like with
  | @macroCall call call' path arguments =>
    cases h : Marker.ofCall call with
    | error reason => exact absurd (Marker.isRefused_iff.2 ⟨reason, h⟩) accepted
    | ok found =>
      simp only [addItem, h, Marker.ofCall_of_likes path arguments h]
      cases found <;> rfl
  | _ => rfl

theorem addItems_of_like {items items' : List Item} (accepted : ∀ item ∈ items, ¬item.IsRefused)
    (like : List.Forall₂ Item.Like items items') : c.addItems items' = c.addItems items := by
  induction like generalizing c with
  | nil => rfl
  | cons hitem hrest ih =>
    obtain ⟨hfirst, hothers⟩ := List.forall_mem_cons.1 accepted
    obtain ⟨c', hadd, -⟩ := addItem_of_not_isRefused (c := c) hfirst
    simp only [addItems, addItem_of_like hfirst hitem, hadd]
    exact ih hothers

/-- Items say what they say without the markers that are refused, and each of these is told of. -/
theorem addItems_eq (c : Contribution) (items : List Item) :
    ∃ c' errors, c.addItems items = (c', errors) ∧
      c.addItems (items.filter fun item => ¬item.IsRefused) = (c', []) ∧
      List.Forall₂ (Item.Told c.path) (items.filter fun item => item.IsRefused) errors := by
  induction items generalizing c with
  | nil => exact ⟨c, [], rfl, rfl, .nil⟩
  | cons item rest ih =>
    by_cases refused : item.IsRefused
    · obtain ⟨e, told, hadd⟩ := addItem_of_isRefused (c := c) refused
      obtain ⟨c', errors, hrest, hothers, htold⟩ := ih c
      refine ⟨c', e :: errors, ?_, ?_, ?_⟩
      · simp only [addItems, hadd, hrest]
      · simpa [refused] using hothers
      · simpa [refused] using ⟨told, htold⟩
    · obtain ⟨c₁, hadd, hpath⟩ := addItem_of_not_isRefused (c := c) refused
      obtain ⟨c', errors, hrest, hothers, htold⟩ := ih c₁
      refine ⟨c', errors, ?_, ?_, ?_⟩
      · simp only [addItems, hadd, hrest]
      · simpa [refused, addItems, hadd] using hothers
      · simpa [refused, ← hpath] using htold

end Contribution

/-- A marker of a file is accepted where its arguments are written in the grammar of its name, and
what it says is added. Any other marker leaves an error with the line of its name, in the order of
the file, and nothing else: a file that has all items but these markers contributes the same, and
nothing is wrong with it. -/
theorem SourceFile.markers_read (file : SourceFile) {items : List Item}
    (parsed : Source.items file.content = .ok items) :
    (∀ call, .macroCall call ∈ items → ∀ name ∈ Marker.macroNames,
      Marker.calledName? call.path = some name →
        (call.IsRefused ↔ ∀ marker : Marker, name = marker.macroName →
          ¬marker.Written call.arguments) ∧
        ∀ (c : Contribution) (marker : Marker), name = marker.macroName →
          marker.Written call.arguments → c.addItem (.macroCall call) = .ok (c.addMarker marker)) ∧
    ∃ c errors, file.read = .ok (c, errors) ∧
      List.Forall₂ (Item.Told file.path) (items.filter fun item => item.IsRefused) errors ∧
      Contribution.addItems { path := file.path } (items.filter fun item => ¬item.IsRefused) =
        (c, []) ∧
      ∀ (file' : SourceFile) (items' : List Item), file'.path = file.path →
        Source.items file'.content = .ok items' →
          List.Forall₂ Item.Like (items.filter fun item => ¬item.IsRefused) items' →
            file'.read = .ok (c, []) := by
  constructor
  · intro call _ name hname hcall
    constructor
    · constructor
      · rintro ⟨name', -, hcall', hnot⟩
        obtain rfl : name = name' := Option.some_inj.1 (hcall.symm.trans hcall')
        exact hnot
      · exact fun hnot => ⟨name, hname, hcall, hnot⟩
    · intro c marker hmarker hwritten
      exact Contribution.addItem_of_written (by rw [hcall, hmarker]) hwritten
  · obtain ⟨c, errors, hall, hothers, htold⟩ :=
      Contribution.addItems_eq { path := file.path } items
    refine ⟨c, errors, by rw [read, parsed]; exact congrArg _ hall, htold, hothers, ?_⟩
    intro file' items' hpath hparsed like
    have accepted : ∀ item ∈ items.filter fun item => ¬item.IsRefused, ¬item.IsRefused :=
      fun item hitem => by simpa using List.of_mem_filter hitem
    have hread := Contribution.addItems_of_like (c := { path := file.path }) accepted like
    rw [read, hparsed, hpath]
    exact congrArg _ (hread.trans hothers)

/-- A marker without arguments, and one with all that it needs behind it. -/
def unfinished : String := "ignore_property!();" ++ suppression "Article" "body"

theorem items_unfinished : ∃ call call' : MacroCall,
    Source.items unfinished = .ok [.macroCall call, .macroCall call'] ∧
    call.path = suppressionPath ∧ call.arguments = [] ∧ call'.path = suppressionPath ∧
    ∃ p₁ p₂ p₃, call'.arguments = suppressionArguments "Article" "body" p₁ p₂ p₃ := by
  have htext : unfinished.toList = "ignore_property".toList ++ '!' :: '(' :: ')' :: ';' ::
      ("ignore_property".toList ++ '!' :: '(' :: ("Article".toList ++ ',' :: ' ' ::
        ((Text.quoted "body").toList ++ [')', ';']))) := by
    have hfirst : "ignore_property!();".toList =
        "ignore_property".toList ++ ['!', '(', ')', ';'] := by decide
    unfold unfinished
    simp only [String.toList_append, hfirst, toList_suppression, List.append_assoc, List.cons_append,
      List.nil_append]
  obtain ⟨fuel, hfuel⟩ : ∃ fuel, unfinished.toList.length + 1 = fuel + 15 := by
    refine Nat.exists_eq_add_of_le' ?_
    have hname : "ignore_property".toList.length = 15 := by decide
    rw [htext, List.length_append]
    omega
  have htokens : ∃ p₁ p₂ p₃ p₄ p₅ p₆ p₇ p₈ p₉ p₁₀ p₁₁ p₁₂ p₁₃, tokenize unfinished.toList = .ok
      [.word "ignore_property" p₁, .punct '!' false p₂, .group .parenthesis [] p₃ p₄, .punct ';' false p₅,
        .word "ignore_property" p₆, .punct '!' false p₇,
        .group .parenthesis (suppressionArguments "Article" "body" p₈ p₉ p₁₀) p₁₁ p₁₂,
        .punct ';' false p₁₃] := by
    refine ⟨?p₁, ?p₂, ?p₃, ?p₄, ?p₅, ?p₆, ?p₇, ?p₈, ?p₉, ?p₁₀, ?p₁₁, ?p₁₂, ?p₁₃, ?tokens⟩
    case tokens =>
      rw [tokenize, hfuel, htext, run_word (by decide) rfl, run_punct (by decide) rfl,
        run_opening (c := '(') rfl, run_closing (c := ')') rfl, run_punct (by decide) rfl,
        run_word (by decide) rfl, run_punct (by decide) rfl,
        run_opening (c := '(') rfl, run_word (by decide) rfl, run_punct (by decide) rfl, run_gap rfl,
        run_quoted "body" (afterSuffix_eq_self rfl), run_closing (c := ')') rfl,
        run_punct (by decide) rfl, run_end]
      rfl
  obtain ⟨p₁, p₂, p₃, p₄, p₅, p₆, p₇, p₈, p₉, p₁₀, p₁₁, p₁₂, p₁₃, htokens⟩ := htokens
  obtain ⟨rest, hrest⟩ : ∃ rest, unfinished.toList = 'i' :: rest := ⟨_, htext⟩
  have hwhole : withoutByteOrderMark (withoutInterpreter (withoutByteOrderMark
      unfinished.toList)) = unfinished.toList := by
    rw [hrest]
    rfl
  refine ⟨⟨suppressionPath, p₁, [], p₄⟩,
    ⟨suppressionPath, p₆, suppressionArguments "Article" "body" p₈ p₉ p₁₀, p₁₂⟩, ?_,
    rfl, rfl, rfl, p₈, p₉, p₁₀, rfl⟩
  rw [items, hwhole, htokens]
  change itemsOfTokens _ = _
  rw [itemsOfTokens]
  rfl

/-- A marker without arguments is told of, and the file contributes what it does without this
marker. -/
theorem SourceFile.markers_read_unfinished : ∃ c e,
    (⟨⟨"article.rs"⟩, unfinished⟩ : SourceFile).read = .ok (c, [e]) ∧
      (⟨⟨"article.rs"⟩, suppression "Article" "body"⟩ : SourceFile).read = .ok (c, []) := by
  obtain ⟨call, call', parsed, path, none, path', p₁, p₂, p₃, arguments⟩ := items_unfinished
  have hwritten (q₁ q₂ q₃ : Position) : (Marker.ignoreProperties "Article" ["body"]).Written
      (suppressionArguments "Article" "body" q₁ q₂ q₃) :=
    .ignoreProperties q₁ (by decide) (by simp) (.cons false q₂ "body" q₃ .nil)
  have refused : (Item.macroCall call).IsRefused := by
    refine ⟨Marker.ignorePropertyName, by simp [Marker.macroNames], by rw [path]; rfl, ?_⟩
    intro marker hname hmarker
    rw [none] at hmarker
    cases hmarker
  have accepted : ¬(Item.macroCall call').IsRefused := by
    rintro ⟨name, -, hname, hnot⟩
    rw [path'] at hname
    obtain rfl : Marker.ignorePropertyName = name := Option.some_inj.1 hname
    exact hnot (.ignoreProperties "Article" ["body"]) rfl (arguments ▸ hwritten p₁ p₂ p₃)
  obtain ⟨-, c, errors, hread, htold, -, hothers⟩ :=
    SourceFile.markers_read ⟨⟨"article.rs"⟩, unfinished⟩ parsed
  simp only [List.filter_cons, refused, accepted, decide_true, decide_false, not_true, not_false_iff,
    if_true, if_false, List.filter_nil, Bool.false_eq_true] at htold hothers
  obtain - | ⟨-, ⟨⟩⟩ := htold
  obtain ⟨q₁, q₂, q₃, pos, close, parsed'⟩ :=
    items_suppression (by decide : Naming.isIdentifier "Article" = true) "body"
  refine ⟨c, _, hread, hothers _ _ rfl parsed' (.cons (.macroCall path' ?_) .nil)⟩
  rw [arguments]
  exact .cons (.word _ _ (by decide)) (.cons (.punct ..) (.cons (.literal ..) .nil))

end ContentModels
