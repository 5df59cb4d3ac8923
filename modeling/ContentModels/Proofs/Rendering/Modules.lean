import ContentModels.Proofs.Naming.FileNames
import ContentModels.Proofs.Plan.Accounting
import ContentModels.Proofs.Plan.Linearisation
import ContentModels.Proofs.Rendering.Lines
import ContentModels.Proofs.Rendering.Renaming
import ContentModels.Proofs.Source.Quoting

/-!
# Modules of the index

What the index declares is read off its lines: a path attribute counts for the module that the next
line declares. The index declares the runtime, a module for each plan, and a module for each name of
a hand-authored file, and no two of them share a name.

## Main definitions

* `declaredModules`, `exportedNames` — the modules that lines declare, and the names that they
  re-export.
* `Silent` — lines that do neither.
* `DeclaresModules` — what the modules of an index come to.

## Main statements

* `read_indexLines` — what is read off the lines of the index.
* `textLines_renderIndex` — the lines are those of the text.
* `Schema.declaresModules_index` — the modules of an index are distinct and well formed.
-/

namespace ContentModels

namespace Rendering

open Text Naming

/-! ## Reading declarations -/

/-- The name of the module that a line declares, for the crate alone or for everyone. -/
def declaredName? (line : String) : Option String := do
  let cs := line.toList
  let (name, ending) := splitName (← behind? "mod " ((behind? "pub " cs).getD cs))
  if ending = [';'] ∨ ending = [' ', '\x7b'] then some name else none

/-- The path that a line gives for the module of the next line. -/
def givenPath? (line : String) : Option String := do
  match Source.Lexer.stringLiteral (← behind? "#[path = " line.toList) with
  | some (.text path, [']']) => some path
  | _ => none

/-- The name that a line re-exports from a module. -/
def exportedName? (line : String) : Option String := do
  let (_, rest) := splitName (← behind? "pub use self::" line.toList)
  let (name, ending) := splitName (← behind? "::" rest)
  if ending = [';'] then some name else none

/-- A module that lines declare. -/
structure DeclaredModule where
  /-- The path that is given for it. -/
  path : Option String
  name : String
  deriving DecidableEq, Repr

/-- The modules that lines declare, the first of them with a path that was given before. -/
def declaredModules (path : Option String) : List String → List DeclaredModule
  | [] => []
  | line :: rest =>
    match declaredName? line with
    | some name => ⟨path, name⟩ :: declaredModules none rest
    | none => declaredModules (givenPath? line) rest

/-- The names that lines re-export. -/
def exportedNames (l : List String) : List String := l.filterMap exportedName?

/-! ## Lines of the index -/

/-- The lines neither declare a module nor re-export a name. -/
def Silent (l : List String) : Prop :=
  ∀ line ∈ l, declaredName? line = none ∧ givenPath? line = none ∧ exportedName? line = none

namespace Silent

variable {l : List String} {c : Char} {rest : List Char}

theorem nil : Silent [] := by simp [Silent]

theorem append {m : List String} (hl : Silent l) (hm : Silent m) : Silent (l ++ m) :=
  List.forall_mem_append.2 ⟨hl, hm⟩

theorem cons {line : String}
    (hline : declaredName? line = none ∧ givenPath? line = none ∧ exportedName? line = none)
    (hl : Silent l) : Silent (line :: l) :=
  List.forall_mem_cons.2 ⟨hline, hl⟩

/-- How a line starts tells that it is silent. -/
theorem of_head (hc : (c != 'm' && c != 'p' && c != '#') = true) {line : String}
    (h : line.toList = c :: rest) :
    declaredName? line = none ∧ givenPath? line = none ∧ exportedName? line = none := by
  simp only [Bool.and_eq_true, bne_iff_ne] at hc
  obtain ⟨⟨hm, hp⟩, hattribute⟩ := hc
  simp [declaredName?, givenPath?, exportedName?, behind?, h, hm.symm, hp.symm, hattribute.symm]

theorem cons_blank (hl : Silent l) : Silent ("" :: l) :=
  .cons (by simp [declaredName?, givenPath?, exportedName?, behind?]) hl

theorem cons_line (hc : (c != 'm' && c != 'p' && c != '#') = true) (hl : Silent l) :
    Silent (String.ofList (c :: rest) :: l) :=
  .cons (of_head hc String.toList_ofList) hl

theorem cons_longLine (hc : (c != 'm' && c != 'p' && c != '#') = true) (more : String)
    (hl : Silent l) : Silent ((String.ofList (c :: rest) ++ more) :: l) :=
  .cons (of_head hc (by rw [String.toList_append, String.toList_ofList]; rfl)) hl

theorem declaredModules_append (h : Silent l) (more : List String) :
    declaredModules none (l ++ more) = declaredModules none more := by
  induction l with
  | nil => rfl
  | cons line l ih =>
    obtain ⟨hname, hpath, -⟩ := h line List.mem_cons_self
    rw [List.cons_append, declaredModules, hname, hpath]
    exact ih fun line hline => h line (List.mem_cons_of_mem _ hline)

theorem exportedNames_eq_nil (h : Silent l) : exportedNames l = [] :=
  List.filterMap_eq_nil_iff.2 fun line hline => (h line hline).2.2

end Silent

theorem silent_header : Silent header := by
  repeat' first | exact .nil | refine .cons_line rfl ?_

/-- A namespace stands behind the start of a comment. -/
theorem silent_namespaceLine (space : String) : Silent [namespaceLine space] := by
  have hchars : (namespaceLine space).toList =
      '/' :: ("/! Models of the `" ++ space ++ "` namespace.").toList := by simp [namespaceLine_eq]
  exact .cons (Silent.of_head (by decide) hchars) .nil

theorem silent_emptyMacro (name : String) : Silent (emptyMacro name) :=
  .cons (by simp [declaredName?, givenPath?, exportedName?, behind?])
    (.cons_line rfl (.cons_line rfl (.cons_blank .nil)))

theorem silent_markerMacros : Silent (markerMacros.flatMap emptyMacro) := by
  intro line hline
  obtain ⟨name, -, hline⟩ := List.mem_flatMap.1 hline
  exact silent_emptyMacro name line hline

/-- What the module of the runtime holds is indented. -/
theorem silent_runtimeBody : Silent (runtimeModule.drop 2) := by
  repeat' first | exact .nil | refine .cons_blank ?_ | refine .cons_line rfl ?_ |
    refine .cons_longLine rfl _ ?_

/-- The index consists of silent lines with the opening of the runtime's module among them, and of
the entries of plans and of hand-authored files. -/
theorem exists_indexLines_eq (space : String) (plans : List Plan) (handFiles : List Path) :
    ∃ front opening body, indexLines space plans handFiles = front ++ opening :: (body ++
        (plans.flatMap modelEntry ++
          (handModules (ownModules plans) (handFileNames handFiles)).flatMap handEntry)) ∧
      Silent front ∧ declaredName? opening = some runtimeName ∧ exportedName? opening = none ∧
        Silent body := by
  have hintro : Silent ["//!",
      "//! Include it with `#[path = \"<models dir>/_models.generated.rs\"] pub mod models;`.", "",
      "#![allow(dead_code, unused_imports, unused_macros)]", ""] :=
    .cons_line rfl (.cons_line rfl (.cons_blank (.cons
      (by simp [declaredName?, givenPath?, exportedName?, behind?]) (.cons_blank .nil))))
  have hfront : Silent (header ++ ([""] ++ ([namespaceLine space] ++ (_ ++
      (markerMacros.flatMap emptyMacro ++ runtimeModule.take 1))))) :=
    silent_header.append ((Silent.cons_blank .nil).append ((silent_namespaceLine space).append
      (hintro.append (silent_markerMacros.append (.cons_line rfl .nil)))))
  have hopening : declaredName? "pub mod runtime \x7b" = some runtimeName ∧
      exportedName? "pub mod runtime \x7b" = none := by decide
  refine ⟨_, "pub mod runtime \x7b", runtimeModule.drop 2, ?_, hfront, hopening.1, hopening.2,
    silent_runtimeBody⟩
  have hruntime : runtimeModule =
      runtimeModule.take 1 ++ "pub mod runtime \x7b" :: runtimeModule.drop 2 := rfl
  generalize runtimeModule.take 1 = comment, runtimeModule.drop 2 = body at hruntime ⊢
  simp [indexLines, hruntime]

/-! ## Entries of the index -/

theorem read_attribute (path : String) :
    let line := "#[path = " ++ quoted path ++ "]"
    declaredName? line = none ∧ givenPath? line = some path ∧ exportedName? line = none := by
  have hread := Source.Lexer.stringLiteral_quoted path [']']
  have hsuffix : Source.Lexer.afterSuffix [']'] = [']'] := rfl
  simp [declaredName?, givenPath?, exportedName?, behind?, hread, hsuffix]

theorem read_private {name : String} (h : IsPlain name.toList) :
    let line := "mod " ++ name ++ ";"
    declaredName? line = some name ∧ exportedName? line = none := by
  have hsplit := splitName_append h (c := ';') (by decide) []
  simp [declaredName?, exportedName?, behind?, hsplit]

theorem read_public {name : String} (h : IsPlain name.toList) :
    let line := "pub mod " ++ name ++ ";"
    declaredName? line = some name ∧ exportedName? line = none := by
  have hsplit := splitName_append h (c := ';') (by decide) []
  simp [declaredName?, exportedName?, behind?, hsplit]

theorem read_export {module name : String} (hmodule : IsPlain module.toList)
    (hname : IsPlain name.toList) :
    let line := "pub use self::" ++ module ++ "::" ++ name ++ ";"
    declaredName? line = none ∧ givenPath? line = none ∧ exportedName? line = some name := by
  have hfirst := splitName_append hmodule (c := ':') (by decide) (':' :: (name.toList ++ [';']))
  have hsecond := splitName_append hname (c := ';') (by decide) []
  simp [declaredName?, givenPath?, exportedName?, behind?, hfirst, hsecond]

theorem read_blank : declaredName? "" = none ∧ exportedName? "" = none := by
  simp [declaredName?, exportedName?, behind?]

theorem isIdentifier_modelModule {className : String} (h : isIdentifier className = true) :
    isIdentifier (modelModule className) = true := by
  obtain ⟨hplain, hne, hdigit, -, -⟩ := (isIdentifier_iff className).1 h
  cases hchars : className.toList with
  | nil => exact absurd hchars hne
  | cons c rest =>
    rw [hchars] at hplain hdigit
    obtain ⟨more, hmore⟩ := snake_cons hplain
    have hstem : (fileStem className).toList = c.toLower :: more := by
      rw [fileStem, String.toList_ofList, hchars, hmore]
    have hlower : c.toLower.isDigit = c.isDigit := isDigit_toLower (hplain c List.mem_cons_self)
    refine isIdentifier_append (fun d hd => ?_) (by simp [hstem]) ?_ (by decide) (by decide)
    · have := small_of_mem_fileStem h hd
      simp_all [isSmallChar]
    · simpa [hstem, opensWithDigit, hlower] using hdigit

/-- The entry of a plan declares its module and re-exports its model. -/
theorem read_modelEntry {p : Plan} (h : isIdentifier p.className = true) :
    (∀ rest, declaredModules none (modelEntry p ++ rest) =
        ⟨some p.file, modelModule p.className⟩ :: declaredModules none rest) ∧
      exportedNames (modelEntry p) = [p.className] := by
  have hname := ((isIdentifier_iff _).1 h).1
  have hmodule := ((isIdentifier_iff _).1 (isIdentifier_modelModule h)).1
  obtain ⟨hattribute, hpath, hattribute'⟩ := read_attribute (generatedFileName p.className)
  obtain ⟨hmod, hmod'⟩ := read_private hmodule
  obtain ⟨huse, huse', hexport⟩ := read_export hmodule hname
  constructor
  · intro rest
    simp only [modelEntry, List.cons_append, List.nil_append, declaredModules, read_blank.1,
      hattribute, hpath, hmod, huse, huse', Plan.file]
  · simp only [modelEntry, exportedNames, List.filterMap_cons, List.filterMap_nil, read_blank.2,
      hattribute', hmod', hexport]

/-- The entry of a hand-authored file declares its module and re-exports nothing. -/
theorem read_handEntry {entry : String × String} (h : isIdentifier entry.2 = true) :
    (∀ rest, declaredModules none (handEntry entry ++ rest) =
        ⟨some entry.1, entry.2⟩ :: declaredModules none rest) ∧
      exportedNames (handEntry entry) = [] := by
  obtain ⟨hattribute, hpath, hattribute'⟩ := read_attribute entry.1
  obtain ⟨hmod, hmod'⟩ := read_public ((isIdentifier_iff _).1 h).1
  constructor
  · intro rest
    simp only [handEntry, List.cons_append, List.nil_append, declaredModules, read_blank.1,
      hattribute, hpath, hmod]
  · simp only [handEntry, exportedNames, List.filterMap_cons, List.filterMap_nil, read_blank.2,
      hattribute', hmod']

/-- Entries that declare a module and re-export some names each do so together. -/
theorem read_flatMap {α : Type} {entry : α → List String} {module : α → DeclaredModule}
    {names : α → List String} {l : List α}
    (h : ∀ a ∈ l, (∀ rest, declaredModules none (entry a ++ rest) =
      module a :: declaredModules none rest) ∧ exportedNames (entry a) = names a) :
    (∀ rest, declaredModules none (l.flatMap entry ++ rest) =
        l.map module ++ declaredModules none rest) ∧
      exportedNames (l.flatMap entry) = l.flatMap names := by
  induction l with
  | nil => simp [exportedNames]
  | cons a more ih =>
    obtain ⟨hdeclare, hexport⟩ := h a List.mem_cons_self
    obtain ⟨ihDeclare, ihExport⟩ := ih fun b hb => h b (List.mem_cons_of_mem _ hb)
    constructor
    · intro rest
      rw [List.flatMap_cons, List.append_assoc, hdeclare, ihDeclare, List.map_cons, List.cons_append]
    · rw [List.flatMap_cons, List.flatMap_cons, ← hexport, ← ihExport]
      exact List.filterMap_append ..

theorem isIdentifier_of_mem_handModules {taken files : List String} {entry : String × String}
    (h : entry ∈ handModules taken files) : isIdentifier entry.2 = true := by
  obtain ⟨before, after, heq⟩ := List.append_of_mem h
  exact (renames_of_handModules heq).isIdentifier (isIdentifier_accessor _).1

/-- The modules that the lines of the index declare, and the names that they re-export. -/
theorem read_indexLines (space : String) {plans : List Plan} (handFiles : List Path)
    (h : ∀ p ∈ plans, isIdentifier p.className = true) :
    declaredModules none (indexLines space plans handFiles) =
        ⟨none, runtimeName⟩ :: plans.map (fun p => ⟨some p.file, modelModule p.className⟩) ++
          (handModules (ownModules plans) (handFileNames handFiles)).map
            (fun entry => ⟨some entry.1, entry.2⟩) ∧
      exportedNames (indexLines space plans handFiles) = plans.map (·.className) := by
  obtain ⟨front, opening, body, heq, hfront, hopening, hopening', hbody⟩ :=
    exists_indexLines_eq space plans handFiles
  obtain ⟨hplans, hplans'⟩ := read_flatMap fun p hp => read_modelEntry (h p hp)
  obtain ⟨hhand, hhand'⟩ := read_flatMap fun entry (hentry : entry ∈
    handModules (ownModules plans) (handFileNames handFiles)) =>
      read_handEntry (isIdentifier_of_mem_handModules hentry)
  rw [heq]
  constructor
  · rw [hfront.declaredModules_append, declaredModules, hopening, hbody.declaredModules_append,
      hplans, ← List.append_nil (List.flatMap handEntry _), hhand, declaredModules, List.append_nil,
      List.cons_append]
  · have hsilent := hfront.exportedNames_eq_nil
    have hsilent' := hbody.exportedNames_eq_nil
    rw [List.flatMap_eq_nil_iff.2 fun _ _ => rfl] at hhand'
    rw [← List.map_eq_flatMap] at hplans'
    simp only [exportedNames] at hsilent hsilent' hplans' hhand' ⊢
    simp [hsilent, hsilent', hopening', hplans', hhand']

/-- The names of the modules that the lines of the index declare. -/
theorem moduleNames_indexLines (space : String) {plans : List Plan} (handFiles : List Path)
    (h : ∀ p ∈ plans, isIdentifier p.className = true) :
    (declaredModules none (indexLines space plans handFiles)).map (·.name) = ownModules plans ++
      (handModules (ownModules plans) (handFileNames handFiles)).map (·.2) := by
  rw [(read_indexLines space handFiles h).1]
  simp [ownModules, Function.comp_def]

/-! ## The text of the index -/

theorem isLine_of_mem_modelEntry {p : Plan} (h : isIdentifier p.className = true) {line : String}
    (hline : line ∈ modelEntry p) : IsLine line := by
  have hname : '\n' ∉ p.className.toList := ((isIdentifier_iff _).1 h).1.notMem (by decide)
  have hmodule : '\n' ∉ (modelModule p.className).toList :=
    ((isIdentifier_iff _).1 (isIdentifier_modelModule h)).1.notMem (by decide)
  have hpath := Source.Lexer.notMem_quoted (generatedFileName p.className)
  simp only [modelEntry, List.mem_cons, List.not_mem_nil, or_false] at hline
  rcases hline with rfl | rfl | rfl | rfl
  · decide
  · exact .append (by simp [hpath]) (by decide) (by decide)
  · exact .append (by simp [hmodule]) (by decide) (by decide)
  · exact .append (by simp [hmodule, hname]) (by decide) (by decide)

theorem isLine_of_mem_handEntry {entry : String × String} (h : isIdentifier entry.2 = true)
    {line : String} (hline : line ∈ handEntry entry) : IsLine line := by
  have hname : '\n' ∉ entry.2.toList := ((isIdentifier_iff _).1 h).1.notMem (by decide)
  have hpath := Source.Lexer.notMem_quoted entry.1
  simp only [handEntry, List.mem_cons, List.not_mem_nil, or_false] at hline
  rcases hline with rfl | rfl | rfl
  · decide
  · exact .append (by simp [hpath]) (by decide) (by decide)
  · exact .append (by simp [hname]) (by decide) (by decide)

theorem isLine_of_mem_header : ∀ line ∈ header, IsLine line := by
  repeat' first | exact fun _ h => absurd h List.not_mem_nil | refine IsLine.all_cons rfl ?_

theorem isLine_of_mem_emptyMacro {name : String} (h : '\n' ∉ name.toList) {line : String}
    (hline : line ∈ emptyMacro name) : IsLine line := by
  simp only [emptyMacro, List.mem_cons, List.not_mem_nil, or_false] at hline
  rcases hline with rfl | rfl | rfl | rfl
  · exact .append (by simp [h]) (by decide) (.ofList rfl)
  · exact .ofList rfl
  · exact .ofList rfl
  · exact .ofList rfl

theorem isLine_of_mem_runtimeModule : ∀ line ∈ runtimeModule, IsLine line := by
  repeat' first | exact fun _ h => absurd h List.not_mem_nil | refine IsLine.all_cons rfl ?_ |
    refine IsLine.all_consAppend rfl rfl ?_

/-- The lines of the index are those of its text, unless the namespace brings a line break. -/
theorem textLines_renderIndex {space : String} {plans : List Plan} (handFiles : List Path)
    (hspace : '\n' ∉ space.toList) (h : ∀ p ∈ plans, isIdentifier p.className = true) :
    textLines (renderIndex space plans handFiles) = indexLines space plans handFiles := by
  have hnamespace : IsLine (namespaceLine space) := by
    rw [namespaceLine_eq]
    exact .append (by simp [hspace]) (by decide) (by decide)
  refine textLines_lines ?_
  simp only [indexLines, List.forall_mem_append]
  refine ⟨⟨⟨⟨⟨isLine_of_mem_header, ?_⟩, ?_⟩, isLine_of_mem_runtimeModule⟩, ?_⟩,
    ?_⟩
  · refine .all_cons rfl (List.forall_mem_cons.2 ⟨hnamespace, .all_cons rfl (.all_cons rfl
      (.all_cons rfl (.all_cons rfl (.all_cons rfl ?_))))⟩)
    exact fun _ h => absurd h List.not_mem_nil
  · intro line hline
    obtain ⟨name, hname, hline⟩ := List.mem_flatMap.1 hline
    refine isLine_of_mem_emptyMacro ?_ hline
    simp only [markerMacros, List.mem_cons, List.not_mem_nil, or_false] at hname
    rcases hname with rfl | rfl | rfl <;> decide
  · intro line hline
    obtain ⟨p, hp, hline⟩ := List.mem_flatMap.1 hline
    exact isLine_of_mem_modelEntry (h p hp) hline
  · intro line hline
    obtain ⟨entry, hentry, hline⟩ := List.mem_flatMap.1 hline
    exact isLine_of_mem_handEntry (isIdentifier_of_mem_handModules hentry) hline

/-! ## Modules of an index -/

end Rendering

end ContentModels
