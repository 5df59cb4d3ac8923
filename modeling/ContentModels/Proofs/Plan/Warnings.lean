import ContentModels.Proofs.Plan.Disagreement
import ContentModels.Proofs.Plan.Extension
import ContentModels.Proofs.Plan.ValueTypes

/-!
# No disagreement goes unsaid

Declarations of a property that are dropped on the way from a type behind a type to its plan may
have values of another type than the one that is planned. Each type on that way either keeps a
declaration with values of the same type, or says that it drops one with others. So if nothing is
said of a property, then all its declarations are of the type that is planned.

## Main definitions

* `Diagnostic.TellsOf` — a warning that names a property and a type.
* `Schema.Unanimous` — all declarations of a property have values of one type.

## Main statements

* `Schema.same_or_warned_of_compose` — composing a type warns of each declaration with other values.
* `Planning.told_after` — what planning a type warns of is told.
* `Schema.unanimous_or_told` — the plans of a schema.
-/

namespace ContentModels

/-! ## Warnings -/

/-- A warning that the declarations of a property differ, at a type that has a handle. -/
structure Diagnostic.TellsOf (w : Diagnostic) (type handle : String) : Prop where
  severity : w.severity = .warning
  kind : w.kind = .mixinConflict
  subject : w.subject = type
  names : ∃ rest, w.message = s!"property '{handle}' is declared as `" ++ rest

theorem tellsOf_droppedWarning (owner : String) (kept dropped : Declared) :
    (droppedWarning owner kept dropped).TellsOf owner kept.property.handle where
  severity := rfl
  kind := rfl
  subject := rfl
  names := by
    refine ⟨s!"{kept.property.valueType}` by " ++
      s!"'{kept.declaredBy}' and as `{dropped.property.valueType}` by '{dropped.declaredBy}'; " ++
      s!"keeping `{kept.property.valueType}`", ?_⟩
    simp [droppedWarning, Diagnostic.conflict, String.append_assoc]

namespace Schema

variable {s : Schema}

/-- Some of the warnings is about a property, at a type or one behind it. -/
def Warns (s : Schema) (t : ContentType) (warnings : List Diagnostic) (handle : String) : Prop :=
  ∃ w ∈ warnings, ∃ u, s.Reaches t u ∧ w.TellsOf u.handle handle

theorem Warns.mono {t : ContentType} {warnings more : List Diagnostic} {handle : String}
    (h : s.Warns t warnings handle) (hsubset : warnings ⊆ more) : s.Warns t more handle := by
  obtain ⟨w, hw, hu⟩ := h
  exact ⟨w, hsubset hw, hu⟩

theorem Warns.of_composedWith {t u : ContentType} {warnings : List Diagnostic} {handle : String}
    (h : s.Warns u warnings handle) (hu : s.ComposedWith t u) : s.Warns t warnings handle := by
  obtain ⟨w, hw, v, hv, htells⟩ := h
  exact ⟨w, hw, v, .head hu hv, htells⟩

theorem warns_of_mem {t : ContentType} {warnings : List Diagnostic} {kept dropped : Declared}
    (h : droppedWarning t.handle kept dropped ∈ warnings) :
    s.Warns t warnings kept.property.handle :=
  ⟨_, h, t, .refl, tellsOf_droppedWarning ..⟩

/-! ## Composing a type -/

/-- A declaration of a line is in the line of one of the types that the line goes through. -/
theorem exists_part_of_mem {names : List String} {l : List Declared} {d : Declared}
    (h : LinearAll s names l) (hd : d ∈ l) :
    ∃ before handle after a u m rest, names = before ++ handle :: after ∧ LinearAll s before a ∧
      s.find? handle = some u ∧ Linear s u m ∧ d ∈ m ∧ l = a ++ (m ++ rest) := by
  cases h with
  | nil => cases hd
  | cons found first more =>
    rcases List.mem_append.1 hd with hd | hd
    · exact ⟨[], _, _, [], _, _, _, rfl, .nil, found, first, hd, rfl⟩
    · obtain ⟨before, handle, after, a, u, m, rest, rfl, ha, hu, hm, hmem, rfl⟩ :=
        exists_part_of_mem more hd
      exact ⟨_ :: before, handle, after, _, u, m, rest, rfl, .cons found first ha, hu, hm, hmem,
        (List.append_assoc ..).symm⟩

theorem exists_firstOf_of_mem {l : List Declared} {d : Declared} (h : d ∈ l) :
    ∃ k, firstOf l d.property.handle = some k :=
  Option.ne_none_iff_exists'.1 (firstOf_eq_none.not.2 (not_not.2 (List.mem_map.2 ⟨d, h, rfl⟩)))

/-- The own declarations of a type have values of the type of the first one, or it is said that they
have not. -/
theorem same_or_warned_of_own {t : ContentType} {own : Composed} {kept d : Declared}
    (h : Composed.addAll {} t.handle (ownDeclarations t) = .ok own) (hd : d ∈ ownDeclarations t)
    (hfirst : firstOf (ownDeclarations t) d.property.handle = some kept) :
    sameType kept.property.valueType d.property.valueType = true ∨
      s.Warns t own.warnings d.property.handle := by
  obtain ⟨before, after, hsplit⟩ := List.append_of_mem hd
  rw [hsplit] at h hfirst
  cases hbefore : firstOf before d.property.handle with
  | none =>
    rw [firstOf_append, hbefore, Option.none_or] at hfirst
    obtain rfl : d = kept := by simpa [firstOf] using hfirst
    exact .inl (sameType_refl _)
  | some k =>
    rw [firstOf_append, hbefore, Option.some_or] at hfirst
    obtain rfl := Option.some.inj hfirst
    have hmet : firstOf (before.foldl absorb []) d.property.handle =
        some (k.ignoreIf (ignoresHandle before d.property.handle)) := by
      rw [← collapse, firstOf_collapse, hbefore, Option.map_some]
    have hwarns := (Composed.settled_of_addAll h hmet).2
    rw [Declared.ignoreIf_valueType] at hwarns
    cases hsame : sameType k.property.valueType d.property.valueType with
    | true => exact .inl rfl
    | false =>
      have htold := warns_of_mem (s := s) (hwarns hsame)
      rw [Declared.ignoreIf_handle, handle_of_firstOf hbefore] at htold
      exact .inr htold

/-- Each declaration that a type is composed of has values of the type of the first one of its
handle, or it is said at some type on the way that two declarations of the handle differ. -/
theorem same_or_warned_of_compose {t : s.Member} {stack : List String} {c : Composed}
    {l : List Declared} {kept d : Declared} (h : s.compose t stack = .ok c) (line : Linear s t.1 l)
    (hd : d ∈ l) (hfirst : firstOf l d.property.handle = some kept) :
    sameType kept.property.valueType d.property.valueType = true ∨
      s.Warns t.1 c.warnings d.property.handle := by
  induction t, stack using compose_induct generalizing c l kept with
  | step t stack ih =>
    obtain ⟨lines⟩ := line
    obtain ⟨hfresh, own, hown, hrest⟩ := exists_own_of_compose h
    rcases List.mem_append.1 hd with hd | hd
    · rw [firstOf_append] at hfirst
      obtain ⟨k, hk⟩ := exists_firstOf_of_mem hd
      rw [hk, Option.some_or] at hfirst
      have hown := same_or_warned_of_own (s := s) hown hd (hk.trans hfirst)
      exact hown.imp_right fun hwarns => hwarns.mono (warnings_subset_of_composeWith hrest)
    · obtain ⟨before, handle, after, a, u, m, rest, hsplit, ha, hu, hm, hmem, rfl⟩ :=
        exists_part_of_mem lines hd
      obtain ⟨v, inner, a', m', hv, hinner, hsubset, ha', hm', hsettles⟩ :=
        settles_of_compose h hsplit
      obtain rfl := Option.some.inj ((find?_of_member? hv).symm.trans hu)
      obtain rfl := hm.unique hm'
      obtain rfl := ha.unique ha'
      have hcomposed := composedWith_of_member? (t := t.1) (by simp [hsplit]) hv
      -- The first one in the part is kept there, and meets the first one before the part, if any.
      obtain ⟨k, hk⟩ := exists_firstOf_of_mem hmem
      have hinside := (ih v hfresh hcomposed hinner hm hmem hk).imp_right fun hwarns =>
        (hwarns.mono hsubset).of_composedWith hcomposed
      rw [← List.append_assoc, firstOf_append, firstOf_append m, hk, Option.some_or] at hfirst
      cases hbefore : firstOf (ownDeclarations t.1 ++ a) d.property.handle with
      | none =>
        rw [hbefore, Option.none_or] at hfirst
        exact Option.some.inj hfirst ▸ hinside
      | some e =>
        rw [hbefore, Option.some_or] at hfirst
        obtain rfl := Option.some.inj hfirst
        have hhandle := handle_of_firstOf hk
        obtain ⟨-, hwarns⟩ := hsettles e k (hhandle.symm ▸ hbefore) (hhandle.symm ▸ hk)
        cases hsame : sameType e.property.valueType k.property.valueType with
        | true => exact hinside.imp_left (sameType_trans hsame)
        | false => exact .inr (handle_of_firstOf hbefore ▸ warns_of_mem (hwarns hsame))

end Schema

/-! ## Planning all types -/

namespace Planning

variable {s : Schema} {code : HandCode} {l : List s.Member} {p p' : Planning} {t : s.Member}

/-- A decision takes back nothing that was told. -/
theorem Step.diagnostics_subset (h : Step s code p t p') : p.diagnostics ⊆ p'.diagnostics := by
  cases h with
  | leftOut => exact List.Subset.refl _
  | nameTaken => exact List.subset_append_left ..
  | byHand => exact List.Subset.refl _
  | fileTaken => exact List.subset_append_left ..
  | failed => exact List.subset_append_left ..
  | planned => exact (prefix_noteAll ..).subset

/-- What planning a type warned of is told, for all types that got a plan. -/
structure Told (s : Schema) (code : HandCode) (l : List s.Member) (p : Planning) : Prop where
  sourced : Sourced s code l p
  told : ∀ plan ∈ p.plans.values, ∀ t : s.Member,
    firstAsking code (l.map (·.1)) plan.className = some t.1 →
      ∀ q warnings, s.planType code t = .ok (q, warnings) → warnings ⊆ p.diagnostics

theorem Told.step (h : Told s code l p) (hstep : Step s code p t p') :
    Told s code (l ++ [t]) p' where
  sourced := h.sourced.step hstep
  told := by
    -- A plan that was there already is of the same type as before.
    have kept : ∀ plan ∈ p.plans.values, ∀ u : s.Member,
        firstAsking code ((l ++ [t]).map (·.1)) plan.className = some u.1 →
          ∀ q warnings, s.planType code u = .ok (q, warnings) → warnings ⊆ p'.diagnostics := by
      intro plan hplan u hfirst q warnings hok
      obtain ⟨v, -, -, hv, -⟩ := h.sourced.source plan hplan
      rw [firstAsking_concat, hv, Option.some_or] at hfirst
      have htold := h.told plan hplan u (hv.trans hfirst) q warnings hok
      exact List.Subset.trans htold hstep.diagnostics_subset
    have hsourced := h.sourced
    cases hstep with
    | planned plan warnings left free open_ freeFile plans =>
      intro plan' hplan' u hfirst q warnings' hok
      rcases SortedMap.mem_values_insert hplan' with rfl | hold
      · obtain ⟨-, -, -, -, hname, -⟩ := Schema.planType_eq plans
        rw [hname, firstAsking_concat, hsourced.free _ free, Option.none_or] at hfirst
        split at hfirst
        · obtain rfl : t = u := Subtype.ext (Option.some.inj hfirst)
          obtain ⟨-, rfl⟩ := Prod.ext_iff.1 (Except.ok.inj (plans.symm.trans hok))
          exact fun w hw => mem_noteAll.2 (.inr hw)
        · cases hfirst
      · exact kept plan' hold u hfirst q warnings' hok
    | leftOut | nameTaken | byHand | fileTaken | failed => exact kept

theorem told_after (s : Schema) (code : HandCode) (l : List s.Member) :
    Told s code l (after s code l) := by
  refine after_induct ⟨sourced_after s code [], ?_⟩ (fun _ _ _ _ h hstep => h.step hstep) l
  intro plan hplan
  cases hplan

end Planning

namespace Schema

/-- All declarations of a property that a type is composed of have values of one type. -/
def Unanimous (s : Schema) (t : ContentType) (handle valueType : String) : Prop :=
  ∀ u, s.Reaches t u → ∀ p ∈ u.properties, p.handle = handle → sameType valueType p.valueType = true

/-- The type of a plan was composed, and what that warned of is told. -/
theorem exists_compose_told {s : Schema} {code : HandCode} {plan : Plan}
    (h : plan ∈ (s.plan code).plans) : ∃ (t : s.Member) (c : Composed),
      firstAsking code s.types plan.className = some t.1 ∧ plan.handle = t.1.handle ∧
      s.compose t [] = .ok c ∧ c.warnings ⊆ (s.plan code).diagnostics ∧
      plan.properties = plannedOf code t.1.modelName c.declared := by
  rw [plan_eq] at h ⊢
  obtain ⟨q, hq, rfl⟩ := List.mem_map.1 h
  have htold := Planning.told_after s code s.types.attach
  obtain ⟨t, -, warnings, hfirst, hok⟩ := htold.sourced.source q hq
  have hsubset := htold.told q hq t hfirst q warnings hok
  rw [List.attach_map_subtype_val] at hfirst
  obtain ⟨c, hc, rfl, hhandle, -, hproperties, -⟩ := planType_eq hok
  exact ⟨t, c, hfirst, hhandle, hc, hsubset, hproperties⟩

/-- No disagreement about the type of a property is settled silently. For each property of a type
that has a plan, with all that the type is composed of, all declarations have values of the type
that counts and that is planned, or a warning is told that names the property and the type or one
behind it. -/
theorem unanimous_or_told (s : Schema) (code : HandCode) (plan : Plan)
    (h : plan ∈ (s.plan code).plans) :
    ∃ t l, firstAsking code s.types plan.className = some t ∧ t.handle = plan.handle ∧
      Linear s t l ∧
      (∀ d ∈ collapse l, s.Unanimous t d.property.handle d.property.valueType ∨
        s.Warns t (s.plan code).diagnostics d.property.handle) ∧
      ∀ q ∈ plan.properties, s.Unanimous t q.handle q.valueType ∨
        s.Warns t (s.plan code).diagnostics q.handle := by
  obtain ⟨t, c, hfirst, hhandle, hc, hsubset, hproperties⟩ := exists_compose_told h
  obtain ⟨l, line, hdeclared⟩ := (exists_linear_of_compose s).1 t [] c hc
  have counts : ∀ d ∈ collapse l, s.Unanimous t.1 d.property.handle d.property.valueType ∨
      s.Warns t.1 (s.plan code).diagnostics d.property.handle := by
    intro d hd
    by_cases hwarns : s.Warns t.1 c.warnings d.property.handle
    · exact .inr (hwarns.mono hsubset)
    · refine .inl fun u hu p hp hp' => ?_
      obtain ⟨k, hk, heq⟩ := eq_firstOf_of_mem_collapse hd
      have hmem : ⟨p, u.handle⟩ ∈ l := line.mem_iff.2 ⟨u, hu, mem_ownDeclarations.2 ⟨hp, rfl⟩⟩
      rw [heq, Declared.ignoreIf_valueType]
      rw [← hp'] at hk hwarns
      exact (same_or_warned_of_compose hc line hmem hk).resolve_right hwarns
  refine ⟨t.1, l, hfirst, hhandle.symm, line, counts, fun q hq => ?_⟩
  rw [hproperties, hdeclared] at hq
  obtain ⟨d, hd, -, rfl⟩ := mem_plannedOf.1 hq
  refine (counts d hd).imp_left fun hunanimous u hu p hp hp' => ?_
  rw [Declared.planned, sameType_trim]
  exact hunanimous u hu p hp hp'

/-! ### A date that may be missing

The two declarations of the date meet in the story, and the page is based on it. -/

/-- A page based on a type that is composed with a date and with an optional one. -/
def lenient : Schema where
  types := [
    { handle := "page", name := some "Page", base := some "story" },
    { handle := "story", name := some "Story", mixins := ["dated", "lax"] },
    { handle := "dated", name := some "Dated"
      properties := [{ handle := "date", name := some "date", valueType := " i64 " }] },
    { handle := "lax", name := some "Lax"
      properties := [{ handle := "date", name := some "date", valueType := "Option<i64>" }] }]

/-- The types of `lenient`. -/
def lenientPart (i : Fin 4) : lenient.Member := ⟨lenient.types[i], by simp [lenient]⟩

/-- The plan of the page. -/
def lenientPlan : Plan where
  handle := "page"
  className := "Page"
  base := some ⟨"story", "Story"⟩
  properties := [⟨"date", "date", "i64", "dated"⟩]

theorem lenientPlan_mem_plans : lenientPlan ∈ (lenient.plan {}).plans := by
  have deep : (lenient.outside []).length < 5 := by decide
  have hcompose (i : Fin 4) : lenient.compose (lenientPart i) [] =
      lenient.composeTo (.ok {}) 5 (lenientPart i) [] := (composeTo_eq _ deep).symm
  change lenientPlan ∈ (((((Planning.add {} lenient {} (lenientPart 0)).add lenient {}
    (lenientPart 1)).add lenient {} (lenientPart 2)).add lenient {} (lenientPart 3)).result).plans
  simp only [Planning.add, Planning.addNamed, Schema.planType, hcompose]
  decide

/-- The optional date is behind the page, so that a warning is told. -/
theorem unanimous_or_told_lenient : lenientPlan ∈ (lenient.plan {}).plans ∧
    ∃ t, t.handle = "page" ∧ lenient.Warns t (lenient.plan {}).diagnostics "date" := by
  obtain ⟨t, l, hfirst, hhandle, line, -, hplanned⟩ :=
    unanimous_or_told lenient {} lenientPlan lenientPlan_mem_plans
  refine ⟨lenientPlan_mem_plans, t, hhandle, ?_⟩
  obtain rfl : (lenientPart 0).1 = t := Option.some.inj (by rw [← hfirst]; rfl)
  refine (hplanned _ (List.mem_singleton.2 rfl)).resolve_left fun hunanimous => ?_
  have hlax : lenient.Reaches (lenientPart 0).1 (lenientPart 3).1 :=
    .tail (b := (lenientPart 1).1) (.single ⟨"story", by decide, rfl⟩) ⟨"lax", by decide, rfl⟩
  exact absurd (hunanimous _ hlax _ (List.mem_singleton.2 rfl) rfl) (by decide)

end Schema

end ContentModels
