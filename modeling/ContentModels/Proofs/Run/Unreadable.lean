import ContentModels.Proofs.HandFile.Suppression
import ContentModels.Proofs.Run.Coupling

/-!
# Files that cannot be read

A hand-authored file that is no source text contributes nothing. What a run plans and generates next
to it is what it does without the file, but for the index, which declares the file as a module, and
what it reports differs by one diagnostic. On files in memory two such runs can be followed side by
side.

## Main definitions

* `problems` — what is wrong with hand-authored files, as it is reported.
* `Settings.Tells` — a report that tells of one more file.
* `MemoryStore.Lacks` — files in memory without one that is read.

## Main statements

* `HandCode.read_unreadable` — what files contribute next to one that cannot be read.
* `Settings.tells_of_reports` — what is reported of them.
* `MemoryStore.couples` — runs on files in memory, with the file and without it.
-/

namespace ContentModels

open Program

variable {b : SourceFile} {e : HandFileError} {before after : List SourceFile}

/-! ## What is read -/

theorem SourceFile.exists_of_read_error (h : b.read = .error e) :
    ∃ pos reason, e = .unreadable b.path pos reason := by
  unfold read at h
  split at h
  · cases h
  · exact ⟨_, _, (Except.error.inj h).symm⟩

namespace HandCode

/-- A file that cannot be read contributes nothing but what is wrong with it. -/
theorem read_unreadable (h : b.read = .error e) (before after : List SourceFile) :
    read (before ++ b :: after) =
      ((read (before ++ after)).1, (read before).2 ++ e :: (read after).2) := by
  rw [read_append, read_append, read_cons, h]

end HandCode

/-- What is wrong with hand-authored files, as it is reported. -/
def problems (files : List SourceFile) : List Diagnostic :=
  (HandCode.read files).2.map .ofHandFile

/-- Files in the order of their paths, without one of them. -/
theorem filter_path_ne
    (h : (before ++ b :: after).Pairwise fun f g => compare f.path g.path = .lt) :
    (before ++ b :: after).filter (fun f => compare b.path f.path != .eq) = before ++ after := by
  obtain ⟨-, hafter, hbefore⟩ := List.pairwise_append.1 h
  have hkept {files : List SourceFile} (hne : ∀ f ∈ files, compare b.path f.path ≠ .eq) :
      files.filter (fun f => compare b.path f.path != .eq) = files :=
    List.filter_eq_self.2 fun f hf => bne_iff_ne.2 (hne f hf)
  rw [List.filter_append, List.filter_cons_of_neg (by simp), hkept, hkept]
  · intro f hf
    rw [(List.pairwise_cons.1 hafter).1 f hf]
    decide
  · intro f hf
    rw [Std.OrientedOrd.eq_swap, hbefore f hf b List.mem_cons_self]
    decide

/-! ## What is reported -/

namespace Settings

/-- Two reports agree but for one diagnostic, which comes between those of some files and those of
others, and for the text of the index. -/
structure Tells (set : Settings) (before : List SourceFile) (d : Diagnostic)
    (after : List SourceFile) (r r' : Report) : Prop where
  deleted : r.deleted = r'.deleted
  written : r.written.map Written.path = r'.written.map Written.path
  generated : r.generated.AgreesBut set.indexPath r'.generated
  plans : r.plans = r'.plans
  skippedTypes : r.skippedTypes = r'.skippedTypes
  diagnostics : ∃ planned, r.diagnostics = problems before ++ d :: (problems after ++ planned) ∧
    r'.diagnostics = problems before ++ (problems after ++ planned)

/-- Among the files that are read there is one that the other run does not have. -/
def Misses (before : List SourceFile) (b : SourceFile) (after l l' : List SourceFile) : Prop :=
  l = before ++ b :: after ∧ l' = before ++ after

variable {set : Settings} {schema : Schema} {l l' : List SourceFile} {r r' : Report}

theorem generatedFrom_unreadable (h : b.read = .error e) (hl : Misses before b after l l')
    (schema : Schema) :
    (set.generatedFrom schema l).AgreesBut set.indexPath (set.generatedFrom schema l') := by
  obtain ⟨rfl, rfl⟩ := hl
  rw [generatedFrom, generatedFrom, HandCode.ofFiles, HandCode.ofFiles, HandCode.read_unreadable h]
  exact (SortedMap.AgreesBut.refl _ _).insert fun hne => absurd Std.ReflOrd.compare_self hne

theorem tells_of_reports (h : b.read = .error e)
    (hreports : set.Reports (Misses before b after) schema r r') :
    set.Tells before (.ofHandFile e) after r r' := by
  obtain ⟨l, l', deleted, written, written', hl, hpaths, rfl, rfl⟩ := hreports
  have hgenerated : (set.generatedFrom schema l).AgreesBut set.indexPath (set.generatedFrom schema l') :=
    generatedFrom_unreadable h hl schema
  obtain ⟨rfl, rfl⟩ := hl
  have hread := HandCode.read_unreadable h before after
  have hcode : (HandCode.ofFiles (before ++ b :: after)).1 = (HandCode.ofFiles (before ++ after)).1 := by
    rw [HandCode.ofFiles, hread]
    rfl
  have herrors : (HandCode.ofFiles (before ++ after)).2 =
      (HandCode.read before).2 ++ (HandCode.read after).2 := by
    rw [HandCode.ofFiles, HandCode.read_append]
  refine ⟨rfl, hpaths, hgenerated, ?_, ?_,
    (schema.plan (HandCode.ofFiles (before ++ after)).1).diagnostics, ?_, ?_⟩
  · simp only [report, hcode]
  · simp only [report, hcode]
  · simp only [report, hcode, problems]
    rw [HandCode.ofFiles, hread]
    simp
  · simp only [report, herrors, problems, List.map_append, List.append_assoc]

end Settings

/-! ## Files in memory -/

namespace MemoryStore

variable {set : Settings} {dry : Bool} {compiler : CompileRequest → Except CompileError Artifact}
  {s s' : MemoryStore} {file : Path}

/-- The files that are read come in the order of their paths. -/
theorem pairwise_scanned (dir : Path) (files : SortedMap Path String) :
    (scanned dir files).Pairwise fun f g => compare f.path g.path = .lt := by
  rw [scanned, sources, List.pairwise_map]
  exact (files.pairwise_keys.sublist List.filter_sublist).sublist List.filter_sublist

/-- The second store has the files of the first one but for one of those that are read, and the
index may have another text. -/
structure Lacks (set : Settings) (before : List SourceFile) (b : SourceFile)
    (after : List SourceFile) (s s' : MemoryStore) : Prop where
  held : s'.held = s.held
  files : (s.files.erase b.path).AgreesBut set.indexPath s'.files
  scans : scanned set.modelsDir s.files = before ++ b :: after
  scans' : scanned set.modelsDir s'.files = before ++ after

namespace Lacks

variable (h : Lacks set before b after s s')

include h

theorem isGenerated : b.path.isGenerated = false := by
  have hmem : b ∈ scanned set.modelsDir s.files := by rw [h.scans]; simp
  exact isGenerated_of_mem_scanned hmem

theorem compare_ne (hfile : file.isGenerated = true) : compare b.path file ≠ .eq := by
  intro heq
  have hsame := Path.isGenerated_congr heq
  rw [h.isGenerated, hfile] at hsame
  cases hsame

/-- The same generated files are listed. -/
theorem list_eq (dir : Path) : s'.list dir generatedPattern = s.list dir generatedPattern := by
  rw [list_generatedPattern, list_generatedPattern, ← h.files.keys_eq, SortedMap.erase_eq_part,
    SortedMap.keys_part, List.filter_filter]
  refine List.filter_congr fun file _ => ?_
  cases hfile : isGeneratedChild dir file with
  | false => rfl
  | true => simpa using h.compare_ne (isGenerated_of_isGeneratedChild hfile)

theorem contains_eq (hfile : file.isGenerated = true) :
    s'.files.contains file = s.files.contains file := by
  rw [← h.files.contains_eq, SortedMap.contains_erase_of_ne (h.compare_ne hfile)]

/-- What is done to a generated file of the directory leaves what is read alone. -/
theorem of_keeps {t t' : MemoryStore} (held : t'.held = t.held)
    (files : (t.files.erase b.path).AgreesBut set.indexPath t'.files)
    (hs : Keeps set.modelsDir s t) (hs' : Keeps set.modelsDir s' t') :
    Lacks set before b after t t' :=
  ⟨held, files, (scanned_congr hs.agree).trans h.scans, (scanned_congr hs'.agree).trans h.scans'⟩

theorem delete (hfile : isGeneratedChild set.modelsDir file = true) :
    Lacks set before b after (s.delete file) (s'.delete file) := by
  refine h.of_keeps h.held ?_ (.delete hfile) (.delete hfile)
  rw [MemoryStore.delete, MemoryStore.delete, SortedMap.erase_erase_comm]
  exact h.files.erase file

theorem write (hfile : isGeneratedChild set.modelsDir file = true) {text text' : String}
    (hsame : compare file set.indexPath ≠ .eq → text = text') :
    Lacks set before b after (s.write file text) (s'.write file text') := by
  refine h.of_keeps h.held ?_ (.write hfile text) (.write hfile text')
  have hne := h.compare_ne (isGenerated_of_isGeneratedChild hfile)
  rw [MemoryStore.write, MemoryStore.write, SortedMap.erase_insert_of_ne hne]
  exact h.files.insert hsame

end Lacks

theorem coupled_clean : Coupled (host dry {} compiler) (Lacks set before b after) (Matches Eq)
    set.clean set.clean := by
  have hlist : Coupled (host dry {} compiler) (Lacks set before b after)
      (fun l l' => l = l' ∧ ∀ files, l = .ok files → ∀ file ∈ files,
        isGeneratedChild set.modelsDir file = true)
      (ask (.list set.modelsDir generatedPattern)) (ask (.list set.modelsDir generatedPattern)) := by
    refine coupled_ask_iff.2 fun s s' h => ?_
    rw [answer_reliable, answer_reliable, perform, perform, h.list_eq]
    refine ⟨⟨rfl, fun files hfiles file hfile => ?_⟩, h⟩
    obtain rfl := Except.ok.inj hfiles
    rw [list_generatedPattern] at hfile
    exact (List.mem_filter.1 hfile).2
  refine hlist.bind fun l l' hl => ?_
  obtain ⟨rfl, hgenerated⟩ := hl
  cases l with
  | error e => exact .pure (.failed e)
  | ok files =>
    refine coupled_deleteAll fun file hfile => coupled_ask_iff.2 fun s s' h => ?_
    have hchild := hgenerated files rfl file hfile
    rw [answer_reliable, answer_reliable, perform, perform]
    cases dry with
    | true => exact ⟨.ok rfl, h⟩
    | false =>
      exact ⟨matches_eq_iff.2 (by rw [h.contains_eq (isGenerated_of_isGeneratedChild hchild)]; rfl),
        h.delete hchild⟩

/-- Runs on files in memory that lack an unreadable file. -/
theorem couples (h : b.read = .error e) : set.Couples (host dry {} compiler)
    (Lacks set before b after)
    (fun s s' => (s.files.erase b.path).AgreesBut set.indexPath s'.files)
    (Settings.Misses before b after) where
  final _ _ hs := hs.files
  createDir := coupled_ask_iff.2 fun s s' hs => ⟨.ok rfl, hs⟩
  lock := by
    refine coupled_ask_iff.2 fun s s' hs => ?_
    rw [answer_reliable, answer_reliable, perform, perform, lock, lock, hs.held]
    split
    · exact ⟨.failed _, hs⟩
    · exact ⟨.ok ⟨rfl, fun t t' ht => ⟨ht.files, fun _ _ _ => ht.files⟩⟩,
        ⟨rfl, hs.files, hs.scans, hs.scans'⟩⟩
  clean := coupled_clean
  scan s s' hs := by
    have hruns (t : MemoryStore) : (scan set.modelsDir).Runs (host dry {} compiler) t
        (.ok (scanned set.modelsDir t.files)) t := runs_scan set.modelsDir
    obtain ⟨hresult, hstate⟩ := hruns s
    obtain ⟨hresult', hstate'⟩ := hruns s'
    rw [hresult, hresult', hstate, hstate', hs.scans, hs.scans']
    exact ⟨.ok ⟨rfl, rfl⟩, hs⟩
  generated _ _ hl schema := Settings.generatedFrom_unreadable h hl schema
  write x hx text text' hsame := by
    refine coupled_ask_iff.2 fun s s' hs => ?_
    rw [answer_reliable, answer_reliable, perform, perform]
    cases dry with
    | true => exact ⟨.ok rfl, hs⟩
    | false => exact ⟨.ok rfl, hs.write (isGeneratedChild_file _ hx) hsame⟩

/-- Without a file that is read, the others are read. -/
theorem lacks_delete (h : scanned set.modelsDir s.files = before ++ b :: after) :
    Lacks set before b after s (s.delete b.path) where
  held := rfl
  files := .refl _ _
  scans := h
  scans' := by
    rw [← filter_path_ne (h ▸ pairwise_scanned set.modelsDir s.files), ← h, delete,
      SortedMap.erase_eq_part, scanned_part (SortedMap.respects_ne b.path)]

end MemoryStore

end ContentModels
