import ContentModels.Proofs.Plan.Accessors
import ContentModels.Proofs.Plan.References
import ContentModels.Proofs.Rendering.Modules
import ContentModels.Proofs.Source.Masking

/-!
# Handles in generated code

Generated code shows handles and the namespace in line comments and in quoted text, and nowhere
else. Quoted text holds whatever it is given. A comment holds a text of one line only: a line break
ends it, and what follows stands in the code.

## Main definitions

* `lineCount`, `lineBreaks` — the lines of a text, and the breaks in it.
* `Plan.unnamed` — a plan without its handles.
* `Plan.spill` — the line breaks that the comments of a model hold.
* `Plan.WritesWhole` — nothing that is written as it is leaves a comment or a literal open.

## Main statements

* `lineCount_render`, `lineCount_renderIndex` — every line break shown is one line more.
* `masked_render`, `masked_renderIndex` — but for line breaks, no handle changes the masked code.
* `Schema.writesWhole_of_mem_plans` — the names in the plans of a schema leave nothing open.
* `Plan.handles_confined` — plans that differ in their handles.
-/

namespace ContentModels

open Text

/-! ## Plans without handles -/

/-- A reference without the handle. -/
def ModelRef.unnamed (r : ModelRef) : ModelRef := { r with handle := "" }

/-- A property without its handle and without that of the type that declares it. -/
def PlannedProperty.unnamed (q : PlannedProperty) : PlannedProperty :=
  { q with handle := "", declaredBy := "" }

/-- What a plan says apart from handles. -/
def Plan.unnamed (p : Plan) : Plan :=
  { p with
    handle := ""
    base := p.base.map ModelRef.unnamed
    mixins := p.mixins.map ModelRef.unnamed
    properties := p.properties.map PlannedProperty.unnamed
    skipped := [] }

theorem Plan.references_unnamed (p : Plan) :
    p.unnamed.references = p.references.map ModelRef.unnamed := by
  cases hbase : p.base <;> simp [Plan.references, Plan.unnamed, hbase]

namespace Rendering

open Source Naming

/-! ## Lines -/

/-- The line breaks of a text. -/
def lineBreaks (s : String) : Nat := s.toList.count '\n'

/-- The number of lines of a text. -/
def lineCount (text : String) : Nat := (textLines text).length

theorem lineBreaks_eq_zero {s : String} : lineBreaks s = 0 ↔ '\n' ∉ s.toList := List.count_eq_zero

@[simp] theorem lineBreaks_append (s t : String) :
    lineBreaks (s ++ t) = lineBreaks s + lineBreaks t := by
  simp [lineBreaks]

@[simp] theorem lineBreaks_quoted (s : String) : lineBreaks (quoted s) = 0 :=
  lineBreaks_eq_zero.2 (Lexer.notMem_quoted s)

theorem lines_cons (line : String) (l : List String) :
    lines (line :: l) = line ++ "\n" ++ lines l := by
  simp [lines]

theorem lines_append (l m : List String) : lines (l ++ m) = lines l ++ lines m := by
  induction l with
  | nil => simp [lines]
  | cons line l ih => rw [List.cons_append, lines_cons, lines_cons, ih, ← String.append_assoc]

/-- The line breaks of lines that are written one below the other. -/
def height (l : List String) : Nat := (l.map fun line => lineBreaks line + 1).sum

@[simp] theorem height_nil : height [] = 0 := rfl

@[simp] theorem height_cons (line : String) (l : List String) :
    height (line :: l) = lineBreaks line + 1 + height l := rfl

@[simp] theorem height_append (l m : List String) : height (l ++ m) = height l + height m := by
  simp [height]

theorem lineBreaks_lines (l : List String) : lineBreaks (lines l) = height l := by
  induction l with
  | nil => rfl
  | cons line l ih =>
    have hbreak : lineBreaks "\n" = 1 := by decide
    rw [lines_cons, lineBreaks_append, lineBreaks_append, ih, hbreak, height_cons]

theorem length_pieces (cs : List Char) : (pieces '\n' cs).length = cs.count '\n' + 1 := by
  induction cs with
  | nil => rfl
  | cons c rest ih =>
    rw [pieces]
    split
    · next h => rw [List.length_cons, ih, h, List.count_cons_self]
    · next h =>
      rw [List.count_cons_of_ne h, ← ih]
      split <;> simp_all

/-- Lines that are written one below the other make the lines of the text, with the breaks in
them. -/
theorem lineCount_lines (l : List String) : lineCount (lines l) = height l := by
  rcases List.eq_nil_or_concat l with rfl | ⟨l, line, rfl⟩
  · rfl
  · have hchars : (lines (l.concat line)).toList = (lines l ++ line).toList ++ '\n' :: [] := by
      simp [List.concat_eq_append, lines]
    have hlast : pieces '\n' [] = [[]] := rfl
    have hlength : lineCount (lines (l.concat line)) = lineBreaks (lines l ++ line) + 1 := by
      rw [lineCount, textLines, List.length_map, Text.lines, hchars, pieces_append_sep, hlast]
      simp [length_pieces, lineBreaks]
    rw [hlength, lineBreaks_append, lineBreaks_lines, List.concat_eq_append, height_append,
      height_cons, height_nil]
    omega

/-! ## Lines of a model -/

@[simp] theorem lineBreaks_empty : lineBreaks "" = 0 := rfl

theorem lineBreaks_namespaceLine (space : String) :
    lineBreaks (namespaceLine space) = lineBreaks space := by
  have hopening : lineBreaks "//! Models of the `" = 0 := lineBreaks_eq_zero.2 (by decide)
  have hending : lineBreaks "` namespace." = 0 := lineBreaks_eq_zero.2 (by decide)
  rw [namespaceLine_eq, lineBreaks_append, lineBreaks_append, hopening, hending]
  omega

/-- What the comment of a type says behind its slashes. -/
theorem declaration_eq (p : Plan) : declaration p =
    ("///" ++ (" Published `" ++ p.handle ++ "` " ++ kindWord p.kind ++ ".")) ::
      (declaration p).tail := by
  have hcomment : s!"/// Published `{p.handle}` {kindWord p.kind}." =
      "///" ++ (" Published `" ++ p.handle ++ "` " ++ kindWord p.kind ++ ".") := by
    have hwritten : s!"/// Published `{p.handle}` {kindWord p.kind}." =
        "/// Published `" ++ p.handle ++ "` " ++ kindWord p.kind ++ "." := rfl
    simp [hwritten, ← String.toList_inj]
  rw [declaration, hcomment, List.tail_cons]

/-- What the comment of an accessor says behind its slashes. -/
theorem accessorLines_eq (q : PlannedProperty) : accessorLines q =
    "" :: ("    ///" ++ (" Value of the `" ++ q.handle ++ "` property.")) ::
      (accessorLines q).drop 2 := by
  have hcomment : s!"    /// Value of the `{q.handle}` property." =
      "    ///" ++ (" Value of the `" ++ q.handle ++ "` property.") := by
    have hwritten : s!"    /// Value of the `{q.handle}` property." =
        "    /// Value of the `" ++ q.handle ++ "` property." := rfl
    simp [hwritten, ← String.toList_inj]
  rw [accessorLines, hcomment]
  rfl

theorem height_declaration (p : Plan) :
    height (declaration p) = height (declaration p.unnamed) + lineBreaks p.handle := by
  have htail : (declaration p.unnamed).tail = (declaration p).tail := rfl
  have hkind : p.unnamed.kind = p.kind := rfl
  have hnone : lineBreaks p.unnamed.handle = 0 := rfl
  rw [declaration_eq p, declaration_eq p.unnamed, htail, hkind]
  simp only [height_cons, lineBreaks_append, hnone]
  omega

theorem height_accessorLines (q : PlannedProperty) :
    height (accessorLines q) = height (accessorLines q.unnamed) + lineBreaks q.handle := by
  have hrest : height ((accessorLines q.unnamed).drop 2) = height ((accessorLines q).drop 2) := by
    simp [accessorLines, PlannedProperty.unnamed]
  have hnone : lineBreaks q.unnamed.handle = 0 := rfl
  rw [accessorLines_eq q, accessorLines_eq q.unnamed]
  simp only [height_cons, lineBreaks_append, hrest, hnone]
  omega

theorem height_accessors (l : List PlannedProperty) : height (l.flatMap accessorLines) =
    height ((l.map PlannedProperty.unnamed).flatMap accessorLines) +
      (l.map fun q => lineBreaks q.handle).sum := by
  induction l with
  | nil => rfl
  | cons q l ih =>
    simp only [List.flatMap_cons, List.map_cons, List.sum_cons, height_append,
      height_accessorLines q, ih]
    omega

theorem lineBreaks_quotedList (l : List ModelRef) :
    lineBreaks (", ".intercalate (l.map fun r => quoted r.handle)) = 0 := by
  induction l with
  | nil => rfl
  | cons r l ih =>
    cases l with
    | nil => simp
    | cons r' l =>
      have hcomma : lineBreaks ", " = 0 := lineBreaks_eq_zero.2 (by decide)
      simp only [List.map_cons, String.intercalate_cons_cons, lineBreaks_append, lineBreaks_quoted,
        hcomma] at ih ⊢
      omega

theorem height_constants (p : Plan) : height (constants p) = height (constants p.unnamed) := by
  have hbase : lineBreaks (baseValue p.base) = lineBreaks (baseValue p.unnamed.base) := by
    cases h : p.base <;> simp [Plan.unnamed, h, baseValue]
  have hmixins := lineBreaks_quotedList p.mixins
  have hmixins' := lineBreaks_quotedList p.unnamed.mixins
  have hkind : p.unnamed.kind = p.kind := rfl
  simp only [constants, height_cons, height_nil, lineBreaks_append, hbase, hmixins, hmixins', hkind,
    lineBreaks_quoted]

/-- The line breaks that the comments of a model hold, apart from those of the namespace. -/
def spill (p : Plan) : Nat :=
  lineBreaks p.handle + (p.properties.map fun q => lineBreaks q.handle).sum

theorem conversions_unnamed (p : Plan) : p.unnamed.references.flatMap (conversion p.className) =
    p.references.flatMap (conversion p.className) := by
  rw [Plan.references_unnamed, List.flatMap_map]
  rfl

theorem height_modelLines (p : Plan) (space : String) : height (modelLines p space) =
    height (modelLines p.unnamed "") + (lineBreaks space + spill p) := by
  have hname : p.unnamed.className = p.className := rfl
  have himports : imports p.unnamed = imports p := rfl
  have hproperties : p.unnamed.properties = p.properties.map PlannedProperty.unnamed := rfl
  unfold modelLines
  simp only [hname, himports, hproperties, conversions_unnamed, height_append, height_cons,
    lineBreaks_namespaceLine, lineBreaks_empty]
  rw [height_declaration p, height_accessors p.properties, height_constants p, spill]
  omega

/-! ## Alike lines -/

/-- Lines that make alike texts. -/
structure AlikeLines (l m : List String) : Prop where
  alike : Alike (lines l) (lines m)

namespace AlikeLines

variable {l m l' m' : List String} {line line' : String}

theorem nil : AlikeLines [] [] := ⟨.same rfl⟩

theorem append (h : AlikeLines l m) (h' : AlikeLines l' m') : AlikeLines (l ++ l') (m ++ m') := by
  constructor
  rw [lines_append, lines_append]
  exact h.alike.append h'.alike

theorem cons (hline : Alike (line ++ "\n") (line' ++ "\n")) (h : AlikeLines l m) :
    AlikeLines (line :: l) (line' :: m) := by
  constructor
  rw [lines_cons, lines_cons]
  exact hline.append h.alike

/-- A line that is written out. -/
theorem cons_line {cs : List Char} (hcs : Place.code.after (cs ++ ['\n']) = .code)
    (h : AlikeLines l m) : AlikeLines (String.ofList cs :: l) (String.ofList cs :: m) :=
  .cons (.same (by simpa using hcs)) h

/-- A line that is written out in two parts. -/
theorem cons_longLine {cs ds : List Char} (hcs : Place.code.after (cs ++ ds ++ ['\n']) = .code)
    (h : AlikeLines l m) :
    AlikeLines ((String.ofList cs ++ String.ofList ds) :: l)
      ((String.ofList cs ++ String.ofList ds) :: m) :=
  .cons (.same (by simpa using hcs)) h

theorem flatMap {α : Type} {f g : α → List String} {l : List α}
    (h : ∀ a ∈ l, AlikeLines (f a) (g a)) : AlikeLines (l.flatMap f) (l.flatMap g) := by
  induction l with
  | nil => exact .nil
  | cons a l ih =>
    obtain ⟨ha, hl⟩ := List.forall_mem_cons.1 h
    exact ha.append (ih hl)

end AlikeLines

theorem alikeLines_header : AlikeLines header header := by
  repeat' first | exact .nil | refine .cons_line (by decide) ?_

theorem alikeLines_runtimeModule : AlikeLines runtimeModule runtimeModule := by
  repeat' first | exact .nil | refine .cons_line (by decide) ?_ |
    refine .cons_longLine (by decide) ?_

theorem alikeLines_ownMembers : AlikeLines ownMembers ownMembers := by
  repeat' first | exact .nil | refine .cons_line (by decide) ?_ |
    refine .cons (.same (by decide)) ?_

/-- The comment on the namespace, which has to be one line. -/
theorem alike_namespaceLine {space : String} (h : lineBreaks space = 0) :
    Alike (namespaceLine space ++ "\n") (namespaceLine "" ++ "\n") := by
  have hsplit (space : String) : namespaceLine space =
      "//!" ++ (" Models of the `" ++ space ++ "` namespace.") := by
    simp [namespaceLine_eq, ← String.toList_inj]
  have hspace : '\n' ∉ space.toList := lineBreaks_eq_zero.1 h
  rw [hsplit, hsplit]
  exact .comment (by decide) (by simp [hspace]) (by decide)

theorem alikeLines_declaration {p : Plan} (hname : IsWhole p.className)
    (h : lineBreaks p.handle = 0) : AlikeLines (declaration p) (declaration p.unnamed) := by
  have hhandle : '\n' ∉ p.handle.toList := lineBreaks_eq_zero.1 h
  have hkind : '\n' ∉ (kindWord p.kind).toList := by cases p.kind <;> decide
  have hstruct : Alike ("pub struct " ++ p.className ++ open_ ++ "\n")
      ("pub struct " ++ p.className ++ open_ ++ "\n") := by
    simp only [String.append_assoc]
    exact .code (by decide) (.whole hname (by decide) (.same (by decide)))
  rw [declaration_eq p, declaration_eq p.unnamed]
  refine .cons (.comment (by decide) ?_ ?_) ?_
  · simp [hhandle, hkind]
  · simp [Plan.unnamed, hkind]
  · exact .cons_line (by decide) (.cons hstruct
      (.cons_line (by decide) (.cons_line (by decide) .nil)))

theorem alike_baseValue (base : Option ModelRef) :
    Alike (baseValue base) (baseValue (base.map ModelRef.unnamed)) := by
  cases base with
  | none => exact .same (by decide)
  | some r =>
    rw [Option.map_some, baseValue, baseValue, String.append_assoc, String.append_assoc]
    exact .code (by decide) ((Alike.quoted _ _).append (.same (by decide)))

theorem alike_quotedList (l : List ModelRef) :
    Alike (", ".intercalate (l.map fun r => quoted r.handle))
      (", ".intercalate ((l.map ModelRef.unnamed).map fun r => quoted r.handle)) := by
  induction l with
  | nil => exact .same rfl
  | cons r l ih =>
    cases l with
    | nil => simpa using Alike.quoted _ _
    | cons r' l =>
      simp only [List.map_cons, String.intercalate_cons_cons] at ih ⊢
      exact ((Alike.quoted _ _).append (.same (by decide))).append ih

theorem alikeLines_constants (p : Plan) : AlikeLines (constants p) (constants p.unnamed) := by
  have hquoted {opening s t : String} (hopening : Place.code.after opening.toList = .code)
      (ending : String) (hending : Place.code.after (ending ++ "\n").toList = .code) (h : Alike s t) :
      Alike (opening ++ s ++ ending ++ "\n") (opening ++ t ++ ending ++ "\n") := by
    simp only [String.append_assoc]
    exact .code hopening (h.append (.same hending))
  have hkind : p.unnamed.kind = p.kind := rfl
  have hword : Place.code.after (truthWord (p.kind == .element)).toList = .code := by
    cases p.kind <;> decide
  rw [constants, constants, hkind]
  refine .cons (hquoted (by decide) ";" (by decide) (.quoted _ _)) ?_
  refine .cons (hquoted (by decide) ";" (by decide) (.same hword)) ?_
  refine .cons (hquoted (by decide) ";" (by decide) (alike_baseValue p.base)) ?_
  exact .cons (hquoted (by decide) "];" (by decide) (alike_quotedList p.mixins)) .nil

theorem alikeLines_accessorLines {q : PlannedProperty} (hname : IsWhole q.localName)
    (htype : IsWhole q.valueType) (h : lineBreaks q.handle = 0) :
    AlikeLines (accessorLines q) (accessorLines q.unnamed) := by
  have hhandle : '\n' ∉ q.handle.toList := lineBreaks_eq_zero.1 h
  rw [accessorLines_eq q, accessorLines_eq q.unnamed]
  refine .cons (.same (by decide)) (.cons (.comment (by decide) ?_ ?_) ?_)
  · simp [hhandle]
  · simp [PlannedProperty.unnamed]
  · refine .cons ?_ (.cons ?_ (.cons (.same (by decide)) .nil))
    · simp only [String.append_assoc, PlannedProperty.unnamed]
      exact .code (by decide) (.whole hname (by decide)
        (.whole htype (by decide) (.same (by decide))))
    · simp only [String.append_assoc, PlannedProperty.unnamed]
      exact .code (by decide)
        (.whole htype (by decide) ((Alike.quoted _ _).append (.same (by decide))))

theorem alikeLines_fromContent {name : String} (h : IsWhole name) :
    AlikeLines (fromContent name) (fromContent name) := by
  refine .cons ?_ ?_
  · simp only [String.append_assoc]
    exact .code (by decide) (.whole h (by decide) (.same (by decide)))
  · repeat' first | exact .nil | refine .cons (.same (by decide)) ?_

theorem alikeLines_toContent {name : String} (h : IsWhole name) :
    AlikeLines (toContent name) (toContent name) := by
  refine .cons ?_ (.cons ?_ ?_)
  · simp only [String.append_assoc]
    exact .code (by decide) (.whole h (by decide) (.same (by decide)))
  · simp only [String.append_assoc]
    exact .code (by decide) (.whole h (by decide) (.same (by decide)))
  · repeat' first | exact .nil | refine .cons (.same (by decide)) ?_

theorem alikeLines_conversion {name : String} (h : IsWhole name) {target : ModelRef}
    (htarget : IsWhole target.className) :
    AlikeLines (conversion name target) (conversion name target) := by
  refine .cons (.same (by decide)) (.cons ?_ (.cons ?_ (.cons ?_ ?_)))
  · simp only [String.append_assoc]
    exact .code (by decide) (.whole h (by decide)
      (.whole htarget (by decide) (.same (by decide))))
  · simp only [String.append_assoc]
    exact .code (by decide) (.whole h (by decide) (.same (by decide)))
  · simp only [String.append_assoc]
    exact .code (by decide) (.whole htarget (by decide) (.same (by decide)))
  · repeat' first | exact .nil | refine .cons (.same (by decide)) ?_

end Rendering

open Rendering Source Naming

/-- Nothing that the code of a model holds as it is leaves a comment or a literal open. -/
structure Plan.WritesWhole (p : Plan) : Prop where
  name : IsWhole p.className
  module : IsWhole (modelModule p.className)
  references : ∀ r ∈ p.references, IsWhole r.className
  accessors : ∀ q ∈ p.properties, IsWhole q.localName
  types : ∀ q ∈ p.properties, IsWhole q.valueType
  imports : ∀ path ∈ Rendering.imports p, IsWhole path

theorem Plan.writesWhole_unnamed (p : Plan) : p.unnamed.WritesWhole ↔ p.WritesWhole := by
  have hreferences : (∀ r ∈ p.unnamed.references, IsWhole r.className) ↔
      ∀ r ∈ p.references, IsWhole r.className := by
    rw [references_unnamed, List.forall_mem_map]
    rfl
  have hproperties : p.unnamed.properties = p.properties.map PlannedProperty.unnamed := rfl
  have haccessors : (∀ q ∈ p.unnamed.properties, IsWhole q.localName) ↔
      ∀ q ∈ p.properties, IsWhole q.localName := by
    rw [hproperties, List.forall_mem_map]
    rfl
  have htypes : (∀ q ∈ p.unnamed.properties, IsWhole q.valueType) ↔
      ∀ q ∈ p.properties, IsWhole q.valueType := by
    rw [hproperties, List.forall_mem_map]
    rfl
  constructor
  · intro h
    exact ⟨h.name, h.module, hreferences.1 h.references, haccessors.1 h.accessors,
      htypes.1 h.types, h.imports⟩
  · intro h
    exact ⟨h.name, h.module, hreferences.2 h.references, haccessors.2 h.accessors,
      htypes.2 h.types, h.imports⟩

namespace Rendering

theorem alikeLines_modelLines {p : Plan} (h : p.WritesWhole) {space : String}
    (hspace : lineBreaks space = 0) (hspill : spill p = 0) :
    AlikeLines (modelLines p space) (modelLines p.unnamed "") := by
  obtain ⟨hhandle, hproperties⟩ := Nat.add_eq_zero_iff.1 hspill
  have hblank : AlikeLines [""] [""] := .cons (.same (by decide)) .nil
  have hnamespace : AlikeLines ["", namespaceLine space, ""] ["", namespaceLine "", ""] :=
    hblank.append (.cons (alike_namespaceLine hspace) hblank)
  have himports : AlikeLines ((imports p).map fun path => "use " ++ path ++ ";")
      ((imports p).map fun path => "use " ++ path ++ ";") := by
    rw [List.map_eq_flatMap]
    refine .flatMap fun path hpath => .cons ?_ .nil
    simp only [String.append_assoc]
    exact .code (by decide) (.whole (h.imports path hpath) (by decide) (.same (by decide)))
  have himpl : AlikeLines ["impl " ++ p.className ++ open_] ["impl " ++ p.className ++ open_] := by
    refine .cons ?_ .nil
    simp only [String.append_assoc]
    exact .code (by decide) (.whole h.name (by decide) (.same (by decide)))
  have hend : AlikeLines [close, ""] [close, ""] := .cons (.same (by decide)) hblank
  have haccessors : AlikeLines (p.properties.flatMap accessorLines)
      (p.unnamed.properties.flatMap accessorLines) := by
    have hunnamed : p.unnamed.properties = p.properties.map PlannedProperty.unnamed := rfl
    rw [hunnamed, List.flatMap_map]
    refine .flatMap fun q hq => ?_
    have hnone : lineBreaks q.handle = 0 :=
      List.sum_eq_zero_iff_forall_eq_nat.1 hproperties _ (List.mem_map_of_mem hq)
    exact alikeLines_accessorLines (h.accessors q hq) (h.types q hq) hnone
  have hconversions : AlikeLines (p.references.flatMap (conversion p.className))
      (p.unnamed.references.flatMap (conversion p.className)) := by
    rw [conversions_unnamed]
    exact .flatMap fun r hr => alikeLines_conversion h.name (h.references r hr)
  have hbefore := alikeLines_header.append hnamespace |>.append himports |>.append hblank
  have htype := alikeLines_declaration h.name hhandle |>.append hblank |>.append himpl
  have hmembers := alikeLines_constants p |>.append hblank |>.append alikeLines_ownMembers
    |>.append haccessors
  have hafter := alikeLines_fromContent h.name |>.append hblank |>.append (alikeLines_toContent h.name)
  have hall := hbefore.append htype |>.append hmembers |>.append hend |>.append hafter
    |>.append hconversions
  have hname : p.unnamed.className = p.className := rfl
  have himports' : imports p.unnamed = imports p := rfl
  simpa only [modelLines, hname, himports', List.append_assoc] using hall

/-! ## Lines of the index -/

theorem indexLines_unnamed (space : String) (plans : List Plan) (handFiles : List Path) :
    indexLines space (plans.map Plan.unnamed) handFiles = indexLines space plans handFiles := by
  have hmodules : ownModules (plans.map Plan.unnamed) = ownModules plans := by
    rw [ownModules, ownModules, List.map_map]
    rfl
  have hentries : (plans.map Plan.unnamed).flatMap modelEntry = plans.flatMap modelEntry := by
    rw [List.flatMap_map]
    rfl
  simp only [indexLines, hmodules, hentries]

theorem height_indexLines (space : String) (plans : List Plan) (handFiles : List Path) :
    height (indexLines space plans handFiles) =
      height (indexLines "" plans handFiles) + lineBreaks space := by
  obtain ⟨before, after, heq⟩ : ∃ before after, ∀ space,
      indexLines space plans handFiles = before ++ namespaceLine space :: after := by
    refine ⟨header ++ [""], ?_, fun space => ?_⟩
    rotate_left
    · simp only [indexLines, List.append_assoc, List.cons_append, List.nil_append]
      rfl
  rw [heq, heq, height_append, height_append, height_cons, height_cons, lineBreaks_namespaceLine,
    lineBreaks_namespaceLine, lineBreaks_empty]
  omega

theorem alikeLines_emptyMacro {name : String} (h : IsWhole name) :
    AlikeLines (emptyMacro name) (emptyMacro name) := by
  refine .cons ?_ ?_
  · simp only [String.append_assoc]
    exact .code (by decide) (.whole h (by decide) (.same (by decide)))
  · repeat' first | exact .nil | refine .cons (.same (by decide)) ?_

theorem alikeLines_modelEntry {p : Plan} (h : p.WritesWhole) :
    AlikeLines (modelEntry p) (modelEntry p) := by
  refine .cons (.same (by decide)) (.cons ?_ (.cons ?_ (.cons ?_ .nil)))
  · simp only [String.append_assoc]
    exact .code (by decide) ((Alike.quoted _ _).append (.same (by decide)))
  · simp only [String.append_assoc]
    exact .code (by decide) (.whole h.module (by decide) (.same (by decide)))
  · simp only [String.append_assoc]
    exact .code (by decide) (.whole h.module (by decide)
      (.whole h.name (by decide) (.same (by decide))))

theorem alikeLines_handEntry {entry : String × String} (h : isIdentifier entry.2 = true) :
    AlikeLines (handEntry entry) (handEntry entry) := by
  have hname : IsWhole entry.2 := isWhole_of_isPlain ((isIdentifier_iff _).1 h).1
  refine .cons (.same (by decide)) (.cons ?_ (.cons ?_ .nil))
  · simp only [String.append_assoc]
    exact .code (by decide) ((Alike.quoted _ _).append (.same (by decide)))
  · simp only [String.append_assoc]
    exact .code (by decide) (.whole hname (by decide) (.same (by decide)))

theorem alikeLines_indexLines {plans : List Plan} (h : ∀ p ∈ plans, p.WritesWhole) {space : String}
    (hspace : lineBreaks space = 0) (handFiles : List Path) :
    AlikeLines (indexLines space plans handFiles) (indexLines "" plans handFiles) := by
  have hintro : AlikeLines ["", namespaceLine space, "//!",
      "//! Include it with `#[path = \"<models dir>/_models.generated.rs\"] pub mod models;`.", "",
      "#![allow(dead_code, unused_imports, unused_macros)]", ""] ["", namespaceLine "", "//!",
      "//! Include it with `#[path = \"<models dir>/_models.generated.rs\"] pub mod models;`.", "",
      "#![allow(dead_code, unused_imports, unused_macros)]", ""] := by
    refine .cons (.same (by decide)) (.cons (alike_namespaceLine hspace) ?_)
    repeat' first | exact .nil | refine .cons_line (by decide) ?_
  have hmacros : AlikeLines (markerMacros.flatMap emptyMacro) (markerMacros.flatMap emptyMacro) := by
    have hall : ∀ name ∈ markerMacros, IsWhole name := by decide
    exact .flatMap fun name hname => alikeLines_emptyMacro (hall name hname)
  have hplans := AlikeLines.flatMap fun p hp => alikeLines_modelEntry (h p hp)
  have hfiles := AlikeLines.flatMap fun entry (hentry : entry ∈
    handModules (ownModules plans) (handFileNames handFiles)) =>
      alikeLines_handEntry (isIdentifier_of_mem_handModules hentry)
  have hall := alikeLines_header.append hintro |>.append hmacros |>.append alikeLines_runtimeModule
    |>.append hplans |>.append hfiles
  simpa only [indexLines, List.append_assoc] using hall

end Rendering

/-! ## Plans of a schema -/

/-- The names in the plans of a schema are identifiers, so that all depends on the types of values
and on the imports. -/
theorem Schema.writesWhole_of_mem_plans {s : Schema} {code : HandCode} {p : Plan}
    (h : p ∈ (s.plan code).plans) (types : ∀ q ∈ p.properties, IsWhole q.valueType)
    (imports : ∀ path ∈ Rendering.imports p, IsWhole path) : p.WritesWhole := by
  have hwhole {name : String} (h : isIdentifier name = true) : IsWhole name :=
    isWhole_of_isPlain ((isIdentifier_iff _).1 h).1
  have hname := isIdentifier_className h
  constructor
  case name => exact hwhole hname
  case module => exact hwhole (isIdentifier_modelModule hname)
  case references =>
    intro r hr
    obtain ⟨t, -, heq, -⟩ := (refers_of_mem_plans h).target r hr
    exact heq ▸ hwhole t.isIdentifier_modelName
  case accessors =>
    intro q hq
    obtain ⟨u, -, x, -, -, heq⟩ := exists_property_of_mem_plans h hq
    exact heq ▸ hwhole (isIdentifier_accessor _).1
  case types => exact types
  case imports => exact imports

/-! ## Plans that differ in their handles -/

/-- The code of plans that differ in their handles alone, written for two namespaces. Its numbers of
lines differ by the line breaks that the comments show. If there are none, and nothing that is
written as it is leaves a comment or a literal open, it is the same once masked. -/
theorem Plan.handles_confined {plans others : List Plan}
    (same : plans.map Plan.unnamed = others.map Plan.unnamed) (space otherSpace : String) :
    (∀ handFiles, lineCount (renderIndex space plans handFiles) + lineBreaks otherSpace =
        lineCount (renderIndex otherSpace others handFiles) + lineBreaks space) ∧
      List.Forall₂ (fun p q : Plan =>
        lineCount (p.render space) + (lineBreaks otherSpace + spill q) =
          lineCount (q.render otherSpace) + (lineBreaks space + spill p)) plans others ∧
      ((∀ p ∈ plans, p.WritesWhole) → lineBreaks space = 0 → lineBreaks otherSpace = 0 →
        (∀ handFiles, masked (renderIndex space plans handFiles) =
            masked (renderIndex otherSpace others handFiles)) ∧
          List.Forall₂ (fun p q : Plan => spill p = 0 → spill q = 0 →
            masked (p.render space) = masked (q.render otherSpace)) plans others) := by
  have hpairs : List.Forall₂ (fun p q : Plan => p.unnamed = q.unnamed) plans others := by
    rw [← List.forall₂_eq_eq_eq, List.forall₂_map_left_iff, List.forall₂_map_right_iff] at same
    exact same
  have hindex (handFiles : List Path) (space : String) :
      indexLines space others handFiles = indexLines space plans handFiles := by
    rw [← indexLines_unnamed, ← same, indexLines_unnamed]
  refine ⟨fun handFiles => ?_, hpairs.imp fun p q heq => ?_, fun hwhole hspace hother =>
    ⟨fun handFiles => ?_, ?_⟩⟩
  · rw [renderIndex, renderIndex, hindex, lineCount_lines, lineCount_lines, height_indexLines space,
      height_indexLines otherSpace]
    omega
  · rw [Plan.render, Plan.render, lineCount_lines, lineCount_lines, height_modelLines p,
      height_modelLines q, heq]
    omega
  · rw [renderIndex, renderIndex, hindex]
    have hleft := (alikeLines_indexLines hwhole hspace handFiles).alike.masked_eq
    have hright := (alikeLines_indexLines hwhole hother handFiles).alike.masked_eq
    exact hleft.trans hright.symm
  · have hboth := (List.forall₂_and_left _ _).2 ⟨hwhole, hpairs⟩
    refine hboth.imp fun p q ⟨hp, heq⟩ hspill hspill' => ?_
    have hq : q.WritesWhole := by rwa [← writesWhole_unnamed, ← heq, writesWhole_unnamed]
    have hleft := (alikeLines_modelLines hp hspace hspill).alike.masked_eq
    have hright := (alikeLines_modelLines hq hother hspill').alike.masked_eq
    rw [heq] at hleft
    exact hleft.trans hright.symm

/-- A plan with handles that would end a literal or open a comment. -/
def hostilePlan : Plan where
  handle := "page\"; // \\"
  className := "Page"
  base := some ⟨"base\n\"", "Base"⟩
  properties := [⟨"a\" */ \t", "title", "Option<&'static str>", "page"⟩]

/-- The plan with handles in which nothing stands out. -/
def harmlessPlan : Plan where
  handle := "page"
  className := "Page"
  base := some ⟨"base", "Base"⟩
  properties := [⟨"title", "title", "Option<&'static str>", "page"⟩]

theorem handles_confined_hostilePlan :
    [hostilePlan].map Plan.unnamed = [harmlessPlan].map Plan.unnamed ∧
      (∀ p ∈ [hostilePlan], p.WritesWhole) ∧ spill hostilePlan = 0 ∧
      masked (hostilePlan.render "site") = masked (harmlessPlan.render "\" /*") := by
  have hsame : [hostilePlan].map Plan.unnamed = [harmlessPlan].map Plan.unnamed := rfl
  have hwhole : ∀ p ∈ [hostilePlan], p.WritesWhole := by
    rw [List.forall_mem_singleton]
    constructor <;> decide
  obtain ⟨-, -, h⟩ := Plan.handles_confined hsame "site" "\" /*"
  obtain ⟨-, hpairs⟩ := h hwhole (by decide) (by decide)
  exact ⟨hsame, hwhole, by decide, List.forall₂_cons.1 hpairs |>.1 (by decide) (by decide)⟩

end ContentModels
