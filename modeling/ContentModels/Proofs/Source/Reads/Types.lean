import ContentModels.Proofs.Source.Before.Types
import ContentModels.Proofs.Source.Reads.Lists

/-!
# How plain types are read

## Main definitions

* `Parser.Reads` — what a reader answers on tokens, whatever the place.

## Main statements

* `Grammar.IsType.type_arguments` — a name with a type as its argument.
-/

namespace ContentModels.Source

namespace Grammar

open ContentModels.Source.Parser ContentModels.Source.Parser.Running

variable {c : Closing} {g : Grammar} {n m : Nat} {ts us rest : List Token} {scope : Scope}
  {plus : Bool}

theorem not_keyword {w k : String} (h : isUsableIdent w = true) (hk : isUsableIdent k = false) :
    w ≠ k := by
  rintro rfl
  rw [h] at hk
  cases hk

/-- What would go on a type that is a path. -/
def goesOnPath : Ahead := .any [.mark "<", .mark "::", .paren, .mark "!", .mark "+"]

theorem goesOnPath_eq_false (h : goesOnPath ts = false) : Ahead.marks ['<'] ts = false ∧
    Ahead.marks [':', ':'] ts = false ∧ Ahead.group .parenthesis ts = false ∧
      Ahead.marks ['!'] ts = false ∧ Ahead.marks ['+'] ts = false := by
  simpa [goesOnPath] using h

theorem segment_super {p : Position} {inExpr : Bool} :
    g.segment inExpr scope ⟨.word "super" p :: rest, none⟩ =
      .ok (⟨"super", .none⟩, ⟨rest, none⟩) := by
  simp [segment]

theorem segment_name {w : String} {p : Position} (hw : isUsableIdent w = true)
    (hrest : goesOnPath rest = false) :
    g.segment false scope ⟨.word w p :: rest, none⟩ = .ok (⟨w, .none⟩, ⟨rest, none⟩) := by
  have hsuper := not_keyword hw (k := "super") (by decide)
  have hself := not_keyword hw (k := "self") (by decide)
  have hcrate := not_keyword hw (k := "crate") (by decide)
  have htry := not_keyword hw (k := "try") (by decide)
  have hSelf := not_keyword hw (k := "Self") (by decide)
  obtain ⟨hangle, hcolons, -⟩ := goesOnPath_eq_false hrest
  simp [segment, hsuper, hself, hcrate, htry, hSelf, hw, hangle, hcolons]

theorem moreSegments_nil (hrest : goesOnPath rest = false) :
    g.moreSegments false scope ⟨rest, none⟩ = .ok ([], ⟨rest, none⟩) := by
  obtain ⟨-, hcolons, -⟩ := goesOnPath_eq_false hrest
  simp [moreSegments, hcolons]

theorem pathType_eq {p : NamePath}
    (hpath : g.qualifiedPath false scope ⟨ts, none⟩ = .ok ((false, p), ⟨rest, none⟩))
    (hrest : goesOnPath rest = false) :
    g.pathType plus false scope ⟨ts, none⟩ = .ok (⟨.path p, false⟩, ⟨rest, none⟩) := by
  obtain ⟨hangle, hcolons, hparen, hbang, hplus⟩ := goesOnPath_eq_false hrest
  simp [pathType, hpath, pathType.extended, parensFollow, hparen, hcolons, hbang, hplus]

theorem type_path {w : String} {q : Position} {p : NamePath}
    (hw : isUsableIdent w = true ∨ w ∈ ["super", "Self"])
    (hpath : (ofDepth m).qualifiedPath false scope ⟨.word w q :: ts, none⟩ =
      .ok ((false, p), ⟨rest, none⟩))
    (hrest : goesOnPath rest = false) :
    (ofDepth (m + 1)).type plus scope ⟨.word w q :: ts, none⟩ =
      .ok (⟨.path p, false⟩, ⟨rest, none⟩) := by
  have hread : (ofDepth m).pathType plus false scope ⟨.word w q :: ts, none⟩ =
      .ok (⟨.path p, false⟩, ⟨rest, none⟩) := pathType_eq hpath hrest
  have hne {k : String} (hk : isUsableIdent k = false) (hmem : k ∉ ["super", "Self"]) : w ≠ k := by
    rintro rfl
    rcases hw with h | h
    · rw [hk] at h
      cases h
    · exact hmem h
  have hfor : w ≠ "for" := hne (by decide) (by decide)
  have hfn : w ≠ "fn" := hne (by decide) (by decide)
  have hunsafe : w ≠ "unsafe" := hne (by decide) (by decide)
  have hextern : w ≠ "extern" := hne (by decide) (by decide)
  have hword : isUsableIdent w = true ∨ w = "super" ∨ w = "self" ∨ w = "Self" ∨ w = "crate" := by
    simp at hw
    grind
  simp [typeProduction, beq_eq_false_iff_ne.2 hfor, hfn, hunsafe, hextern, hword, hread]

/-- A name alone is a type. -/
theorem type_name {w : String} {p : Position} (hw : isUsableIdent w = true)
    (hrest : goesOnPath rest = false) :
    (ofDepth (m + 1)).type plus scope ⟨.word w p :: rest, none⟩ =
      .ok (⟨.path ⟨false, [⟨w, .none⟩]⟩, false⟩, ⟨rest, none⟩) := by
  refine type_path (.inl hw) ?_ hrest
  simp [qualifiedPath, path, segment_name hw hrest, moreSegments_nil hrest]

theorem type_Self {p : Position} (hrest : goesOnPath rest = false) :
    (ofDepth (m + 1)).type plus scope ⟨.word "Self" p :: rest, none⟩ =
      .ok (⟨.path ⟨false, [⟨"Self", .none⟩]⟩, false⟩, ⟨rest, none⟩) := by
  refine type_path (.inr (by decide)) ?_ hrest
  obtain ⟨hangle, hcolons, -⟩ := goesOnPath_eq_false hrest
  have hcolons' : (ofDepth m).moreSegments false scope ⟨rest, none⟩ = .ok ([], ⟨rest, none⟩) :=
    moreSegments_nil hrest
  simp [qualifiedPath, path, segment, hangle, hcolons, hcolons']

theorem type_super {w : String} {p q r r' : Position} {joint : Bool} (hw : isUsableIdent w = true)
    (hrest : goesOnPath rest = false) :
    (ofDepth (m + 1)).type plus scope ⟨.word "super" p :: .punct ':' true q :: .punct ':' joint r ::
      .word w r' :: rest, none⟩ =
      .ok (⟨.path ⟨false, [⟨"super", .none⟩, ⟨w, .none⟩]⟩, false⟩, ⟨rest, none⟩) := by
  refine type_path (.inr (by decide)) ?_ hrest
  obtain ⟨hangle, hcolons, -⟩ := goesOnPath_eq_false hrest
  simp [qualifiedPath, path, moreSegments, segment_super, segment_name hw hrest, hcolons]

theorem type_reference {name : String} {joint : Bool} {p q : Position} {v : TypeForm}
    (htype : (ofDepth m).type false scope ⟨ts, none⟩ = .ok (v, ⟨rest, none⟩))
    (hmut : Ahead.word "mut" ts = false) :
    (ofDepth (m + 1)).type plus scope ⟨.punct '&' joint p :: .lifetime name q :: ts, none⟩ =
      .ok (⟨.other, v.endsWithBrace⟩, ⟨rest, none⟩) := by
  simp [typeProduction, htype, hmut]

theorem type_referenceTo {joint : Bool} {p : Position} {v : TypeForm}
    (htype : (ofDepth m).type false scope ⟨ts, none⟩ = .ok (v, ⟨rest, none⟩))
    (hmut : Ahead.any [.word "mut", .lifetime] ts = false) :
    (ofDepth (m + 1)).type plus scope ⟨.punct '&' joint p :: ts, none⟩ =
      .ok (⟨.other, v.endsWithBrace⟩, ⟨rest, none⟩) := by
  simp at hmut
  simp [typeProduction, htype, hmut]

theorem type_slice {p q : Position} {v : TypeForm}
    (htype : ∀ scope, (ofDepth m).type true scope ⟨ts, none⟩ = .ok (v, ⟨[], none⟩)) :
    (ofDepth (m + 1)).type plus scope ⟨.group .bracket ts p q :: rest, none⟩ =
      .ok ({}, ⟨rest, none⟩) := by
  simp [typeProduction, brackets, htype]

/-- No type starts with an equality sign, perhaps behind an opening bracket. -/
theorem notCompares_of_type {v : TypeForm} {o : Input}
    (h : (ofDepth (m + 1)).type true scope ⟨us, none⟩ = .ok (v, o)) :
    Ahead.mark "=" us = false ∧ Ahead.mark "<=" us = false := by
  have hequals {i : Input} {m : Nat} {plus : Bool} {r : TypeForm × Input}
      (h : (ofDepth m).type plus scope i = .ok r) : Ahead.mark "=" i.rest = false := by
    cases m with
    | zero => exact absurd h (by simp [ofDepth, nothing])
    | succ m =>
      have hhead := startsType_of_ok h
      obtain ⟨_ | ⟨t, ts⟩, l⟩ := i
      · rfl
      · cases t with
        | punct d joint p =>
          have hne : d ≠ '=' := by rintro rfl; revert hhead; simp [typeHeads]
          simp [Ne.symm hne]
        | _ => rfl
  refine ⟨hequals h, ?_⟩
  by_contra hmark
  rw [Bool.not_eq_false] at hmark
  obtain _ | ⟨t, _ | ⟨u, ts⟩⟩ := us
  · cases hmark
  · cases t <;> simp at hmark
  · cases t with
    | punct d joint p =>
      simp at hmark
      obtain ⟨⟨rfl, rfl⟩, hmark⟩ := hmark
      simp [typeProduction, pathType, qualifiedPath] at h
      cases hinner : (ofDepth m).type true scope ⟨u :: ts, none⟩ with
      | error e => simp [hinner] at h
      | ok r =>
        have := hequals hinner
        simp [hmark] at this
    | _ => simp at hmark

theorem IsType.type_arguments (h : IsType (n + 1) ts) (hm : n ≤ m) {w : String} {p q : Position}
    {joint : Bool} (hw : isUsableIdent w = true)
    (hus : Followed c ts us) (hmore : goesOnPath c.more = false) :
    (ofDepth (m + 3)).type plus scope ⟨.word w p :: .punct '<' joint q :: us, none⟩ =
      .ok (⟨.path ⟨false, [⟨w, .angle false⟩]⟩, false⟩, ⟨c.more, none⟩) := by
  refine type_path (.inl hw) ?_ hmore
  have hargs : (ofDepth (m + 2)).angleArguments scope ⟨.punct '<' joint q :: us, none⟩ =
      .ok (false, ⟨c.more, none⟩) := h.angleArguments_eq hm hus q joint
  obtain ⟨v, hv⟩ := h.type_eq (Nat.succ_le_succ hm) hus scope
  obtain ⟨hequals, hless⟩ := notCompares_of_type hv
  have hsuper := not_keyword hw (k := "super") (by decide)
  have hself := not_keyword hw (k := "self") (by decide)
  have hcrate := not_keyword hw (k := "crate") (by decide)
  have htry := not_keyword hw (k := "try") (by decide)
  have hSelf := not_keyword hw (k := "Self") (by decide)
  have hnil : (ofDepth (m + 2)).moreSegments false scope ⟨c.more, none⟩ =
    .ok ([], ⟨c.more, none⟩) :=
    moreSegments_nil hmore
  simp at hequals hless
  simp [qualifiedPath, path, segment, hsuper, hself, hcrate, htry, hSelf, hw, hequals, hless, hargs,
    hnil]

end Grammar

end ContentModels.Source
