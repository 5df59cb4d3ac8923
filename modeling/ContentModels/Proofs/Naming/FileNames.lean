import ContentModels.Proofs.Naming.Identifiers
import ContentModels.Proofs.Path
import ContentModels.Proofs.Plan.Accounting
import ContentModels.Proofs.Plan.AllTypes
import ContentModels.Run.Generate
import Mathlib.Data.List.Sections

/-!
# Names of generated files

Model names are identifiers, and the stem of a file is made of small letters, digits and
underscores. So the file of a model lies in the directory of the models, whatever the model is
called, and it is known as a generated file by its ending. The stem of the file of the index starts
with an underscore, and so may a model name that the schema gives. Three names lead to that file.
The words of any other name are not those of the stem.

## Main definitions

* `Naming.indexLike` — the three names that lead to the file of the index.

## Main statements

* `Naming.isName_generatedFileName` — an identifier gives the name of a file.
* `Schema.isIdentifier_className` — the names of planned models are identifiers.
* `Settings.exists_name_of_mem_generatedFiles` — where the files that a run generates go.
* `Naming.generatedFileName_eq_index_iff` — no other identifiers lead to the file of the index.
* `Schema.files_plan` — what is known of the files of plans.
-/

namespace ContentModels

namespace Naming

open Text

/-! ## Names of files -/

/-- A text without separators is the name of a file if it has an ending of some length. -/
theorem isName_of_suffix {name ending : String} (hsep : '/' ∉ name.toList)
    (hlong : 2 < ending.toList.length) (h : ending.toList <:+ name.toList) : Path.IsName name := by
  have hlen := h.length_le
  refine ⟨hsep, ?_, ?_⟩
  · rw [Path.counts, Bool.not_eq_true', Bool.or_eq_false_iff, beq_eq_false_iff_ne]
    constructor
    · rw [List.isEmpty_eq_false_iff]
      intro hnil
      rw [hnil, List.length_nil] at hlen
      omega
    · intro hdot
      rw [hdot, List.length_singleton] at hlen
      omega
  · intro hdots
    rw [hdots] at hlen
    simp only [List.length_cons, List.length_nil] at hlen
    omega

theorem slash_notMem_of_isIdentifier {name : String} (h : isIdentifier name = true) :
    '/' ∉ name.toList :=
  ((isIdentifier_iff name).1 h).1.notMem (by decide)

theorem artifactSuffix_suffix (space : String) :
    ".rlib".toList <:+ (artifactFileName space).toList := by
  rw [artifactFileName, String.toList_append]
  exact List.suffix_append ..

theorem isName_artifactFileName (space : String) : Path.IsName (artifactFileName space) := by
  have hcrate : '/' ∉ (crateName space).toList := by
    simp only [crateName]
    split
    · decide
    · exact slash_notMem_of_isIdentifier (isIdentifier_accessor _).1
  have hsep : '/' ∉ (artifactFileName space).toList := by
    simp only [artifactFileName, String.toList_append, List.mem_append, not_or]
    exact ⟨⟨by decide, hcrate⟩, by decide⟩
  exact isName_of_suffix hsep (by decide) (artifactSuffix_suffix space)

theorem generatedSuffix_suffix (className : String) :
    generatedSuffix.toList <:+ (generatedFileName className).toList := by
  rw [generatedFileName, String.toList_append]
  exact List.suffix_append ..

/-- The stem of the file of a model is made of small letters, digits and underscores. -/
theorem small_of_mem_fileStem {className : String} (h : isIdentifier className = true) {c : Char}
    (hc : c ∈ (fileStem className).toList) : isSmallChar c = true := by
  rw [fileStem, String.toList_ofList] at hc
  exact small_of_mem_snake ((isIdentifier_iff className).1 h).1 hc

/-- An identifier gives the name of a file. -/
theorem isName_generatedFileName {className : String} (h : isIdentifier className = true) :
    Path.IsName (generatedFileName className) := by
  refine isName_of_suffix ?_ (by decide) (generatedSuffix_suffix className)
  rw [generatedFileName, String.toList_append, List.mem_append, not_or]
  exact ⟨fun hmem => absurd (small_of_mem_fileStem h hmem) (by decide), by decide⟩

end Naming

/-- A planned model is named after a type. -/
theorem Schema.exists_type_of_mem_plans {s : Schema} {code : HandCode} {plan : Plan}
    (h : plan ∈ (s.plan code).plans) : ∃ t ∈ s.types, t.modelName = plan.className := by
  obtain ⟨t, q, warnings, planned, -, hplan, rfl⟩ := exists_planType_of_mem_plans h
  obtain ⟨c, -, -, -, hname, -⟩ := planType_eq hplan
  exact ⟨t.1, t.2, hname.symm⟩

/-- The names of planned models are identifiers. -/
theorem Schema.isIdentifier_className {s : Schema} {code : HandCode} {plan : Plan}
    (h : plan ∈ (s.plan code).plans) : Naming.isIdentifier plan.className = true := by
  obtain ⟨t, -, heq⟩ := exists_type_of_mem_plans h
  exact heq ▸ t.isIdentifier_modelName

/-- Whether a text is the name of a generated file. -/
structure IsGeneratedName (name : String) : Prop extends Path.IsName name where
  ending : Naming.generatedSuffix.toList <:+ name.toList

theorem isGeneratedName_indexFileName : IsGeneratedName Rendering.indexFileName where
  toIsName := by decide
  ending := by decide

/-- The files that a run generates lie in the directory of the models. -/
theorem Settings.exists_name_of_mem_generatedFiles (s : Settings) (schema : Schema)
    (code : HandCode) (handFiles : List Path) {e : Path × String}
    (h : e ∈ (s.generatedFiles (schema.plan code).plans handFiles).entries) :
    ∃ name, IsGeneratedName name ∧ e.1 = s.modelsDir.file name := by
  rcases SortedMap.key_mem_insert h with hindex | ⟨d, hd, hkey⟩
  · exact ⟨_, isGeneratedName_indexFileName, hindex⟩
  · obtain ⟨d', hd', hkey'⟩ := SortedMap.key_mem_ofList hd
    obtain ⟨plan, hplan, rfl⟩ := List.mem_map.1 hd'
    have hname := Naming.isName_generatedFileName (Schema.isIdentifier_className hplan)
    refine ⟨Naming.generatedFileName plan.className,
      ⟨hname, Naming.generatedSuffix_suffix _⟩, ?_⟩
    rw [← hkey, ← hkey', Settings.modelPath]

/-! ## Models in the file of the index -/

namespace Naming

open Text

/-- The model names that lead to the file of the index. -/
def indexLike : List String := ["_models", "_Models", "_MODELS"]

/-- A character is one of the two that are told apart by their case only. -/
theorem eq_or_eq_of_toLower {c : Char} (h : isIdentifierChar c = true) :
    c = c.toLower ∨ c = c.toLower.toUpper := by
  revert c
  apply plain_forall
  decide

/-- A plain text that is `_models` in `snake_case` is an underscore and some spelling of the
word. -/
theorem exists_of_snake_eq_models {cs : List Char} (h : IsPlain cs)
    (hsnake : snake cs = "_models".toList) :
    ∃ rest, cs = '_' :: rest ∧ rest.map Char.toLower = "models".toList := by
  cases cs with
  | nil => cases hsnake
  | cons c rest =>
    obtain ⟨more, hcons⟩ := snake_cons h
    have hlower : c.toLower = '_' := (List.cons_eq_cons.1 (hcons.symm.trans hsnake)).1
    obtain rfl : c = '_' := by
      have hspelled := eq_or_eq_of_toLower (h c List.mem_cons_self)
      rw [hlower] at hspelled
      exact hspelled.elim id id
    -- What follows the underscore is one word, so that it has no other underscore.
    have hmodels : pieces '_' "_models".toList = [[], "models".toList] := by decide
    have hpieces := pieces_snake h (List.cons_ne_nil _ _)
    rw [hsnake, hmodels, words_of_plain h (List.cons_ne_nil _ _), List.map_cons,
      clusterWords_of_separator (by decide), List.map_cons] at hpieces
    obtain ⟨word, hword, hspelled⟩ :=
      List.map_eq_singleton_iff.1 (List.cons_eq_cons.1 hpieces).2.symm
    have hcount := countP_isSeparator_lt (rest.map fun c => [c])
    rw [hword, List.length_singleton, Nat.lt_one_iff, List.countP_eq_zero] at hcount
    have hrest : word = rest.map fun c => [c] := by
      have hflatten := flatten_clusterWords (rest.map fun c => [c])
      rwa [hword, List.flatten_singleton, List.filter_eq_self.2 (by simpa using hcount)] at hflatten
    refine ⟨rest, rfl, ?_⟩
    rw [← toSmall_of_ascii fun c hc => ascii_of_isIdentifierChar (h.of_cons c hc), ← hspelled, hrest,
      smallWord, ← List.flatMap_def, List.flatMap_singleton']

/-- In three spellings the word stays one word. -/
theorem snake_eq_models_iff : ∀ rest ∈ ("models".toList.map fun c => [c, c.toUpper]).sections,
    snake ('_' :: rest) = "_models".toList ↔ String.ofList ('_' :: rest) ∈ indexLike := by
  decide

/-- The file of a model is that of the index for three model names. -/
theorem generatedFileName_eq_index_iff {className : String} (h : isIdentifier className = true) :
    generatedFileName className = Rendering.indexFileName ↔ className ∈ indexLike := by
  have hplain := ((isIdentifier_iff className).1 h).1
  have hstem : generatedFileName className = Rendering.indexFileName ↔
      snake className.toList = "_models".toList := by
    have hindex : Rendering.indexFileName = "_models" ++ generatedSuffix := by decide
    rw [hindex, generatedFileName, ← String.toList_inj, String.toList_append, String.toList_append,
      List.append_cancel_right_eq, fileStem, String.toList_ofList]
  rw [hstem]
  constructor
  · intro hsnake
    obtain ⟨rest, heq, hmodels⟩ := exists_of_snake_eq_models hplain hsnake
    have hspelled : rest ∈ ("models".toList.map fun c => [c, c.toUpper]).sections := by
      rw [List.mem_sections, ← hmodels, List.map_map, List.forall₂_map_right_iff, List.forall₂_same]
      intro c hc
      simpa using eq_or_eq_of_toLower (hplain c (heq ▸ List.mem_cons_of_mem _ hc))
    have hlike := (snake_eq_models_iff rest hspelled).1 (heq ▸ hsnake)
    rwa [← heq, String.ofList_toList] at hlike
  · intro hmem
    have hall : ∀ name ∈ indexLike, snake name.toList = "_models".toList := by decide
    exact hall className hmem

end Naming

/-- What is known of the file of a planned model: it is named by a stem of small letters, digits and
underscores, and it is that of the index only for three model names. -/
structure Plan.IsFiled (p : Plan) : Prop where
  isName : Path.IsName p.file
  exists_stem : ∃ stem : String, p.file = stem ++ Naming.generatedSuffix ∧
    ∀ c ∈ stem.toList, Text.isSmallChar c = true
  eq_index_iff : p.file = Rendering.indexFileName ↔ p.className ∈ Naming.indexLike

/-- The files of the plans of a schema are distinct, and each of them is one of a model. -/
theorem Schema.files_plan (s : Schema) (code : HandCode) :
    ((s.plan code).plans.map Plan.file).Nodup ∧ ∀ p ∈ (s.plan code).plans, p.IsFiled := by
  refine ⟨s.nodup_file code, fun p hp => ?_⟩
  have hname := isIdentifier_className hp
  exact {
    isName := Naming.isName_generatedFileName hname
    exists_stem := ⟨Naming.fileStem p.className, rfl, fun _ hc => Naming.small_of_mem_fileStem hname hc⟩
    eq_index_iff := Naming.generatedFileName_eq_index_iff hname }

end ContentModels
