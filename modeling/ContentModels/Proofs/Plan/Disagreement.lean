import ContentModels.Proofs.Plan.Cycles

/-!
# Disagreement that no own declaration settles

Two types that a type is composed with may declare one property with values of different types.
Where the type declares the property itself, its own declaration counts, whatever the others say.
Where it does not, the first of the two is kept, and the type can be composed only if the other one
gives way. So a type cannot be composed if and only if it, or a type behind it, leaves such a
disagreement unsettled.

## Main definitions

* `Schema.Effective` — the properties of a type with all that it is composed of.
* `Schema.Unsettled` — two declarations that a type leaves unsettled.

## Main statements

* `Schema.unsettled_of_compose` — the disagreement that is reported is one.
* `Schema.not_unsettled_of_compose` — a type that can be composed has none behind it.
* `Schema.incompatible_iff_unsettled` — all of it.
-/

namespace ContentModels

/-! ## Parts of a line -/

theorem linearAll_append_iff {s : Schema} {names more : List String} {l : List Declared} :
    LinearAll s (names ++ more) l ↔
      ∃ a b, LinearAll s names a ∧ LinearAll s more b ∧ l = a ++ b := by
  induction names generalizing l with
  | nil =>
    constructor
    · exact fun h => ⟨[], l, .nil, h, rfl⟩
    · rintro ⟨a, b, ⟨⟩, h, rfl⟩
      exact h
  | cons handle rest ih =>
    constructor
    · rintro (_ | ⟨found, first, more⟩)
      obtain ⟨a, b, ha, hb, rfl⟩ := ih.1 more
      exact ⟨_, b, .cons found first ha, hb, (List.append_assoc ..).symm⟩
    · rintro ⟨a, b, _ | ⟨found, first, ha⟩, hb, rfl⟩
      rw [List.append_assoc]
      exact .cons found first (ih.2 ⟨_, b, ha, hb, rfl⟩)

/-- The first declaration of a handle in a line of several types is that of the first of them whose
line has the handle. -/
theorem LinearAll.exists_of_firstOf {s : Schema} {names : List String} {l : List Declared}
    {handle : String} {d : Declared} (h : LinearAll s names l)
    (hfirst : firstOf l handle = some d) :
    ∃ before first after a u m, names = before ++ first :: after ∧ LinearAll s before a ∧
      handle ∉ handles a ∧ s.find? first = some u ∧ Linear s u m ∧ firstOf m handle = some d := by
  match h with
  | .nil => cases hfirst
  | .cons (l := k) found first rest =>
    rw [firstOf_append] at hfirst
    cases hk : firstOf k handle with
    | some e =>
      rw [hk, Option.some_or] at hfirst
      exact ⟨[], _, _, [], _, k, rfl, .nil, by simp, found, first, hk.trans hfirst⟩
    | none =>
      rw [hk, Option.none_or] at hfirst
      obtain ⟨before, other, after, a, u, m, rfl, ha, hnew, hu, hm, hd⟩ :=
        rest.exists_of_firstOf hfirst
      refine ⟨_ :: before, other, after, k ++ a, u, m, rfl, .cons found first ha, ?_, hu, hm, hd⟩
      rw [handles_append, List.mem_append, not_or]
      exact ⟨firstOf_eq_none.1 hk, hnew⟩

namespace Schema

variable {s : Schema}

/-! ## The properties of a type -/

/-- A declaration is among the properties of a type with all that it is composed of: the first ones
of their handles, which are ignored if any other one is. -/
def Effective (s : Schema) (t : ContentType) (d : Declared) : Prop :=
  ∃ l, Linear s t l ∧ d ∈ collapse l

/-- These are what composing gives. -/
theorem effective_iff_of_compose {t : s.Member} {stack : List String} {c : Composed}
    (h : s.compose t stack = .ok c) {d : Declared} : s.Effective t.1 d ↔ d ∈ c.declared := by
  obtain ⟨l, hl, hdeclared⟩ := (exists_linear_of_compose s).1 t stack c h
  rw [hdeclared]
  constructor
  · rintro ⟨m, hm, hd⟩
    exact hm.unique hl ▸ hd
  · exact fun hd => ⟨l, hl, hd⟩

theorem effective_of_firstOf {t : ContentType} {l : List Declared} {d : Declared}
    (h : Linear s t l) (hfirst : firstOf l d.property.handle = some d) :
    ∃ b, s.Effective t (d.ignoreIf b) := by
  refine ⟨ignoresHandle l d.property.handle, l, h, ?_⟩
  apply mem_of_firstOf
  rw [firstOf_collapse, hfirst, Option.map_some]

/-- Each of them is the first declaration of its handle, but for ignoring. -/
theorem Effective.exists_firstOf {t : ContentType} {d : Declared} (h : s.Effective t d) :
    ∃ l e b, Linear s t l ∧ firstOf l d.property.handle = some e ∧ d = e.ignoreIf b := by
  obtain ⟨l, hl, hd⟩ := h
  obtain ⟨e, he, heq⟩ := eq_firstOf_of_mem_collapse hd
  exact ⟨l, e, _, hl, he, heq⟩

/-- A handle refers to a type that has a declaration among its properties. -/
def Offers (s : Schema) (handle : String) (d : Declared) : Prop :=
  ∃ u, s.find? handle = some u ∧ s.Effective u d

/-- The line of several types has no declaration of a handle if and only if none of them has one
among its properties. -/
theorem notMem_handles_iff {names : List String} {l : List Declared} {handle : String}
    (h : LinearAll s names l) :
    handle ∉ ContentModels.handles l ↔
      ∀ name ∈ names, ∀ d, s.Offers name d → d.property.handle ≠ handle := by
  constructor
  · rintro hnew name hname d ⟨u, hu, m, hm, hd⟩ rfl
    obtain ⟨v, k, hv, hk, hsubset⟩ := h.exists_of_mem hname
    obtain rfl := Option.some.inj (hu.symm.trans hv)
    obtain rfl := hm.unique hk
    exact hnew (List.map_subset _ hsubset (mem_handles_collapse.1 (List.mem_map_of_mem hd)))
  · intro hother hmem
    obtain ⟨d, hd⟩ := Option.ne_none_iff_exists'.1 (firstOf_eq_none.not.2 (not_not.2 hmem))
    obtain ⟨_, name, _, _, u, m, rfl, -, -, hu, hm, hfirst⟩ := h.exists_of_firstOf hd
    have hhandle := handle_of_firstOf hfirst
    obtain ⟨b, hb⟩ := effective_of_firstOf hm (hhandle.symm ▸ hfirst)
    exact hother name (by simp) _ ⟨u, hu, hb⟩ hhandle

/-- Two declarations of a handle that a type leaves unsettled: it is composed with two types that
have them among their properties, the first of which is the first one that has the handle, and it
does not declare the handle itself; and their values are neither of one type nor of types that
differ by an option. -/
structure Unsettled (s : Schema) (t : ContentType) (kept dropped : Declared) : Prop where
  same : dropped.property.handle = kept.property.handle
  undeclared : ∀ p ∈ t.properties, p.handle ≠ kept.property.handle
  met : ∃ before first between second after,
    t.dependencies = before ++ first :: (between ++ second :: after) ∧
    (∀ earlier ∈ before, ∀ d, s.Offers earlier d → d.property.handle ≠ kept.property.handle) ∧
    s.Offers first kept ∧ s.Offers second dropped
  differ : sameType kept.property.valueType dropped.property.valueType = false
  apart : compatible kept.property.valueType dropped.property.valueType = false

theorem mem_ownDeclarations {t : ContentType} {d : Declared} :
    d ∈ ownDeclarations t ↔ d.property ∈ t.properties ∧ d.declaredBy = t.handle := by
  rw [ownDeclarations, List.mem_map]
  constructor
  · rintro ⟨p, hp, rfl⟩
    exact ⟨hp, rfl⟩
  · rintro ⟨hp, hby⟩
    exact ⟨d.property, hp, by rw [← hby]⟩

theorem notMem_handles_ownDeclarations {t : ContentType} {handle : String} :
    handle ∉ handles (ownDeclarations t) ↔ ∀ p ∈ t.properties, p.handle ≠ handle := by
  simp [ownDeclarations, handles]

/-- A clash is about two declarations that the type leaves unsettled. -/
theorem unsettled_of_clash {t : s.Member} {before after : List String} {handle : String}
    {u : s.Member} {l m : List Declared} {kept dropped : Declared}
    (dependencies : t.1.dependencies = before ++ handle :: after) (lines : LinearAll s before l)
    (found : s.find? handle = some u.1) (line : Linear s u.1 m)
    (first : firstOf (ownDeclarations t.1 ++ l) dropped.property.handle = some kept)
    (counts : firstOf m dropped.property.handle = some dropped)
    (clashes : kept.Clashes t.1.handle dropped) :
    ∃ kept' dropped', s.Unsettled t.1 kept' dropped' ∧
      incompatibility t.1.handle kept' dropped' = incompatibility t.1.handle kept dropped := by
  have hhandle := handle_of_firstOf first
  -- The own declarations of the type do not clash, so that the first one is another type's.
  have hown : firstOf (ownDeclarations t.1) dropped.property.handle = none := by
    by_contra hsome
    obtain ⟨d, hd⟩ := Option.ne_none_iff_exists'.1 hsome
    rw [firstOf_append, hd, Option.some_or] at first
    obtain rfl := Option.some.inj first
    exact clashes.foreign (mem_ownDeclarations.1 (mem_of_firstOf hd)).2
  rw [firstOf_append, hown, Option.none_or] at first
  obtain ⟨earlier, other, between, a, v, k, rfl, ha, hnew, hv, hk, hkept⟩ :=
    lines.exists_of_firstOf first
  obtain ⟨b, hb⟩ := effective_of_firstOf hk (hhandle ▸ hkept)
  obtain ⟨b', hb'⟩ := effective_of_firstOf line counts
  refine ⟨kept.ignoreIf b, dropped.ignoreIf b', ⟨hhandle.symm, ?_, ?_, ?_, ?_⟩, rfl⟩
  · rw [Declared.ignoreIf_handle, hhandle]
    exact notMem_handles_ownDeclarations.1 (firstOf_eq_none.1 hown)
  · refine ⟨earlier, other, between, handle, after, by simp [dependencies], ?_, ⟨v, hv, hb⟩,
      ⟨u.1, found, hb'⟩⟩
    rw [Declared.ignoreIf_handle, hhandle]
    exact (notMem_handles_iff ha).1 hnew
  · exact clashes.differ
  · exact clashes.apart

/-- Where composing fails for a property whose declarations are incompatible, a type behind the type
leaves these unsettled, and the error names them. -/
theorem unsettled_of_compose {t : s.Member} {stack : List String} {e : PlanError}
    (h : s.compose t stack = .error e) (hcircular : ∀ cycle, e ≠ .circular cycle)
    (hmissing : ∀ type dependency, e ≠ .missing type dependency) :
    ∃ n kept dropped, s.Reaches t.1 n ∧ s.Unsettled n kept dropped ∧
      e = incompatibility n.handle kept dropped := by
  induction t, stack using compose_induct with
  | step t stack ih =>
    cases fails_of_compose h with
    | met => exact absurd rfl (hcircular _)
    | unknown => exact absurd rfl (hmissing _ _)
    | @inside u _ fresh composed fails =>
      obtain ⟨n, kept, dropped, hn, hunsettled, heq⟩ := ih u fresh composed fails
      exact ⟨n, kept, dropped, .head composed hn, hunsettled, heq⟩
    | clash fresh dependencies lines found line first counts clashes =>
      obtain ⟨kept, dropped, hunsettled, heq⟩ :=
        unsettled_of_clash dependencies lines found line first counts clashes
      exact ⟨t.1, kept, dropped, .refl, hunsettled, heq.symm⟩

/-! ## Types that can be composed -/

/-- What a type is composed of was composed. -/
theorem exists_compose_of_reaches {t : s.Member} {stack : List String} {c : Composed}
    (h : s.compose t stack = .ok c) {n : ContentType} (hn : s.Reaches t.1 n) :
    ∃ (u : s.Member) (stack' : List String) (c' : Composed), u.1 = n ∧
      s.compose u stack' = .ok c' := by
  induction hn with
  | refl => exact ⟨t, stack, c, rfl, h⟩
  | tail _ hstep ih =>
    obtain ⟨u, stack', c', rfl, hu⟩ := ih
    obtain ⟨handle, hmem, hfind⟩ := hstep
    obtain ⟨before, after, hsplit⟩ := List.append_of_mem hmem
    obtain ⟨v, inner, -, -, hv, hinner, -⟩ := settles_of_compose hu hsplit
    have heq := Option.some.inj ((find?_of_member? hv).symm.trans hfind)
    exact ⟨v, _, inner, heq, hinner⟩

/-- The declarations that a type takes from others are not its own: it is not composed of itself,
and no other type has its handle. -/
theorem declaredBy_ne (handles : (s.types.map (·.handle)).Nodup) {t u : ContentType}
    {l : List Declared} {d : Declared} (ht : t ∈ s.types) (acyclic : ¬s.ReachesCycle t)
    (hu : s.ComposedWith t u) (line : Linear s u l) (hd : d ∈ l) : d.declaredBy ≠ t.handle := by
  obtain ⟨v, hv, hown⟩ := line.mem_iff.1 hd
  intro heq
  have hhandle : v.handle = t.handle := (mem_ownDeclarations.1 hown).2.symm.trans heq
  obtain rfl := List.inj_on_of_nodup_map handles (Reaches.mem hu.mem hv) ht hhandle
  exact acyclic ⟨v, .refl, .head' hu hv⟩

/-- A type that can be composed leaves nothing unsettled. -/
theorem not_unsettled_of_compose (handles : (s.types.map (·.handle)).Nodup) {t : s.Member}
    {stack : List String} {c : Composed} (h : s.compose t stack = .ok c) (kept dropped : Declared) :
    ¬s.Unsettled t.1 kept dropped := by
  rintro ⟨same, undeclared, ⟨before, first, between, second, after, hdependencies, hnew,
    ⟨v, hv, hkept⟩, ⟨w, hw, hdropped⟩⟩, differ, apart⟩
  have hsplit : t.1.dependencies = (before ++ first :: between) ++ second :: after := by
    simp [hdependencies]
  obtain ⟨u, inner, l, m, hu, -, -, hl, hm, hsettles⟩ := settles_of_compose h hsplit
  obtain rfl := Option.some.inj ((find?_of_member? hu).symm.trans hw)
  obtain ⟨a, _, ha, _ | ⟨found, hk, _⟩, rfl⟩ := linearAll_append_iff.1 hl
  obtain rfl := Option.some.inj (found.symm.trans hv)
  obtain ⟨k, e, _, hline, he, rfl⟩ := hkept.exists_firstOf
  obtain rfl := hline.unique hk
  obtain ⟨_, f, _, hline', hf, rfl⟩ := hdropped.exists_firstOf
  obtain rfl := hline'.unique hm
  simp only [Declared.ignoreIf_handle] at same undeclared hnew he hf
  have hown := firstOf_eq_none.2 (notMem_handles_ownDeclarations.2 undeclared)
  have hbefore := firstOf_eq_none.2 ((notMem_handles_iff ha).2 hnew)
  have hmet (rest : List Declared) :
      firstOf (ownDeclarations t.1 ++ (a ++ (k ++ rest))) f.property.handle = some e := by
    rw [same, firstOf_append, hown, firstOf_append, hbefore, firstOf_append, he]
    rfl
  have hmem : first ∈ t.1.dependencies := by simp [hdependencies]
  have hforeign := declaredBy_ne handles t.2 (leads_to_end_of_compose h).2 ⟨first, hmem, hv⟩ hk
    (mem_of_firstOf he)
  exact (hsettles e f (hmet _) hf).1 ⟨differ, hforeign, apart⟩

/-- In a schema whose types have different handles, composing a type that leads to no unknown handle
and to no cycle fails if and only if a type behind it leaves two declarations unsettled. The error
names such a type and its declarations, and no type is named that declares the property itself. -/
theorem incompatible_iff_unsettled (s : Schema) (handles : (s.types.map (·.handle)).Nodup)
    (t : s.Member) (known : ¬s.ReachesUnknown t.1) (acyclic : ¬s.ReachesCycle t.1) :
    ((∃ type handle kept keptOrigin dropped droppedOrigin, s.compose t [] =
        .error (.incompatible type handle kept keptOrigin dropped droppedOrigin)) ↔
      ∃ n kept dropped, s.Reaches t.1 n ∧ s.Unsettled n kept dropped) ∧
    (∀ e, s.compose t [] = .error e → ∃ n kept dropped, s.Reaches t.1 n ∧
      s.Unsettled n kept dropped ∧ e = incompatibility n.handle kept dropped) ∧
    (∀ u ∈ s.types, ∀ p ∈ u.properties, ∀ kept keptOrigin dropped droppedOrigin, s.compose t [] ≠
      .error (.incompatible u.handle p.handle kept keptOrigin dropped droppedOrigin)) ∧
    ∀ (u : s.Member) (c : Composed), s.compose u [] = .ok c →
      ∀ d, s.Effective u.1 d ↔ d ∈ c.declared := by
  have fails (e : PlanError) (h : s.compose t [] = .error e) : ∃ n kept dropped,
      s.Reaches t.1 n ∧ s.Unsettled n kept dropped ∧ e = incompatibility n.handle kept dropped := by
    obtain ⟨owner, kept, dropped, rfl⟩ := exists_incompatibility handles known acyclic h
    exact unsettled_of_compose h nofun nofun
  refine ⟨⟨?_, ?_⟩, fails, ?_, fun u c hc d => effective_iff_of_compose hc⟩
  · rintro ⟨type, handle, kept, keptOrigin, dropped, droppedOrigin, h⟩
    obtain ⟨n, kept, dropped, hn, hunsettled, -⟩ := fails _ h
    exact ⟨n, kept, dropped, hn, hunsettled⟩
  · rintro ⟨n, kept, dropped, hn, hunsettled⟩
    cases hc : s.compose t [] with
    | error e =>
      obtain ⟨m, kept, dropped, -, -, rfl⟩ := fails e hc
      exact ⟨_, _, _, _, _, _, rfl⟩
    | ok c =>
      obtain ⟨u, stack, c', rfl, hu⟩ := exists_compose_of_reaches hc hn
      exact absurd hunsettled (not_unsettled_of_compose handles hu kept dropped)
  · intro u hu p hp kept keptOrigin dropped droppedOrigin h
    obtain ⟨n, k, d, hn, hunsettled, heq⟩ := fails _ h
    obtain ⟨hhandle, hproperty, -⟩ := PlanError.incompatible.inj heq
    obtain rfl := List.inj_on_of_nodup_map handles hu (Reaches.mem t.2 hn) hhandle
    exact hunsettled.undeclared p hp hproperty

/-! ### Two dates -/

/-- Two types that have dates of different types, with a type that is composed with both, a page
based on it, and an archive that has a date of its own. -/
def datings : Schema where
  types := [
    { handle := "page", base := some "story" },
    { handle := "story", mixins := ["dated", "legacy"] },
    { handle := "dated", properties := [{ handle := "date", valueType := "i64" }] },
    { handle := "legacy", properties := [{ handle := "date", valueType := "String" }] },
    { handle := "archive", mixins := ["dated", "legacy"]
      properties := [{ handle := "date", valueType := "u8" }] }]

/-- The page of `datings`. -/
def datingsPage : datings.Member := ⟨datings.types[0], by simp [datings]⟩

/-- The archive of `datings`. -/
def datingsArchive : datings.Member := ⟨datings.types[4], by simp [datings]⟩

/-- The page cannot be composed for the type behind it, and the archive can. -/
theorem incompatible_iff_unsettled_datings :
    (datings.types.map (·.handle)).Nodup ∧ ¬datings.ReachesUnknown datingsPage.1 ∧
      ¬datings.ReachesCycle datingsPage.1 ∧
      datings.compose datingsPage [] =
        .error (.incompatible "story" "date" "i64" "'dated'" "String" "'legacy'") ∧
      (∃ n kept dropped, datings.Reaches datingsPage.1 n ∧ datings.Unsettled n kept dropped) ∧
      ∃ c, datings.compose datingsArchive [] = .ok c ∧ c.warnings.length = 2 := by
  have handles : (datings.types.map (·.handle)).Nodup := by decide
  have deep : (datings.outside []).length < 6 := by decide
  obtain ⟨l, line⟩ : ∃ l, Linear datings datingsPage.1 l :=
    ⟨_, .type (.cons rfl (.type (.cons rfl (.type .nil) (.cons rfl (.type .nil) .nil))) .nil)⟩
  have known := not_reachesUnknown_of_linear line
  have acyclic := not_reachesCycle_of_linear line
  have hpage : datings.compose datingsPage [] =
      .error (.incompatible "story" "date" "i64" "'dated'" "String" "'legacy'") := by
    rw [← composeTo_eq (.ok {}) deep]
    rfl
  have hunsettled := (incompatible_iff_unsettled datings handles datingsPage known acyclic).1.1
    ⟨_, _, _, _, _, _, hpage⟩
  refine ⟨handles, known, acyclic, hpage, hunsettled, ?_⟩
  rw [← composeTo_eq (.ok {}) deep]
  exact ⟨_, rfl, rfl⟩

end Schema

end ContentModels
