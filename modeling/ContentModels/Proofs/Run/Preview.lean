import ContentModels.Proofs.Disk.Preview
import ContentModels.Proofs.Run.Repeat
import ContentModels.Proofs.Validation

/-!
# Previews of runs

A run that writes nothing reports what a run that writes generates from the same files, and after
the latter the generated files are those that were reported. On a disk that is so unless a search
for the directory gets stuck, or the directory is missing on a way that leads up again.

## Main definitions

* `MemoryStore.HoldsGenerated` — the generated files in memory are those of a map of texts.

## Main statements

* `MemoryStore.files_of_runs_generate` — what a run that succeeds reports, and which files it
  leaves.
* `MemoryStore.preview` — previews of runs on files in memory.
* `Settings.agrees_preview` — previews of runs on a disk, and on files in memory.
-/

namespace ContentModels

open Program

namespace MemoryStore

variable {set : Settings} {store store' : MemoryStore} {r r' : Report}
  {compiler compiler' : CompileRequest → Except CompileError Artifact}

/-! ## Files in memory -/

/-- The generated files of a directory are those of a map of texts. -/
structure HoldsGenerated (store : MemoryStore) (dir : Path) (generated : SortedMap Path String) :
    Prop where
  named : ∀ e ∈ generated.entries, isGeneratedIn dir e.1 = true
  get?_eq : ∀ file, isGeneratedIn dir file = true → store.files.get? file = generated.get? file

theorem get?_handAuthored {dir file : Path} (files : SortedMap Path String)
    (h : isGeneratedIn dir file = true) : (handAuthored dir files).get? file = none := by
  refine SortedMap.get?_eq_none_iff.2 fun e he heq => ?_
  rw [isGeneratedIn_congr heq, (mem_handAuthored.1 he).2] at h
  cases h

theorem holdsGenerated_of_files_eq {schema : Schema} {sources : List SourceFile}
    (h : store'.files = (set.generatedFrom schema sources).entries.foldl
      (fun files e => files.insert e.1 e.2) (handAuthored set.modelsDir store.files)) :
    store'.HoldsGenerated set.modelsDir (set.generatedFrom schema sources) where
  named e he := by
    obtain ⟨x, hx, hpath⟩ := set.exists_name_of_mem_generatedFiles schema _ _ he
    rw [hpath]
    exact isGeneratedIn_of_isGeneratedChild (isGeneratedChild_file _ hx)
  get?_eq file hfile := by
    rw [h, SortedMap.get?_foldl_insert (SortedMap.inOrder _), get?_handAuthored _ hfile,
      Option.or_none]

theorem files_of_lock {dry : Bool} {dir : Path} {guard : Guard}
    (h : (host dry {} compiler).answer (.lock dir) store = (.ok guard, store')) :
    store'.files = store.files := by
  rw [answer_reliable, perform, MemoryStore.lock] at h
  split at h
  · cases (Prod.ext_iff.1 h).1
  · exact (congrArg (·.2.files) h).symm

/-- Compiling leaves files in memory alone. -/
theorem eq_of_runs_compile {dry : Bool} {faults : Faults} {request : CompileRequest}
    {artifact : Option Artifact}
    (h : (set.compile dry request).run.Runs (host false faults compiler) store (.ok artifact) store') :
    store' = store := by
  rw [Settings.compile] at h
  split at h
  · obtain ⟨made, m, hask, h⟩ := runs_bind_ok_iff.1 h
    obtain ⟨-, rfl⟩ := runs_pure_iff.1 h
    have hanswer := runs_ask_iff.1 (runs_attempt_ok_iff.1 hask)
    exact (congrArg Prod.snd hanswer).symm
  · exact (runs_pure_iff.1 h).2

/-- What a run that succeeds reports, and which files it leaves. -/
theorem files_of_runs_generate {input : Except SchemaFailure Schema}
    (lists : store.ListsGenerated set.modelsDir)
    (h : (set.generate input false).Runs (reliable compiler) store (.ok r) store') :
    ∃ schema, input = .ok schema ∧
      let sources := scanned set.modelsDir store.files
      (∃ deleted written artifact, r = set.report schema deleted sources written artifact) ∧
      store'.files = (set.generatedFrom schema sources).entries.foldl
        (fun files e => files.insert e.1 e.2) (handAuthored set.modelsDir store.files) := by
  obtain ⟨-, schema, rfl, guard, s₁, s₂, s₃, hcreate, hlock, hrun, rfl⟩ :=
    Settings.runs_generate_ok_iff.1 h
  obtain rfl : store = s₁ := congrArg Prod.snd hcreate
  have hlocked := files_of_lock hlock
  obtain ⟨deleted, sources, written, artifact, t₁, t₂, t₃, hclean, hscan, hwrite, hcompile, rfl⟩ :=
    Settings.runs_generateLocked_ok_iff.1 hrun
  obtain ⟨gone, hdelete⟩ := runs_deleteAll compiler s₂ (s₂.list set.modelsDir generatedPattern)
  obtain ⟨-, rfl⟩ := hclean.unique
    (runs_bind_iff.2 ⟨_, _, runs_ask_iff.2 (answer_reliable _), hdelete⟩)
  have hcleaned := files_foldl_delete_list ((Keeps.of_files_eq hlocked).lists lists)
  obtain ⟨hsources, rfl⟩ := hscan.unique (runs_scan set.modelsDir)
  obtain ⟨-, rfl⟩ := hwrite.unique (runs_writeAll _)
  obtain rfl := eq_of_runs_compile hcompile
  rw [hcleaned, hlocked, scanned_handAuthored] at hsources
  obtain rfl := Except.ok.inj hsources
  refine ⟨schema, rfl, ⟨deleted, written, artifact, rfl⟩, ?_⟩
  exact (files_foldl_write _).trans (by rw [hcleaned, hlocked])

/-- A run on files in memory that writes nothing reports what a run that writes generates. -/
theorem preview {input : Except SchemaFailure Schema} {s : MemoryStore}
    (lists : store.ListsGenerated set.modelsDir)
    (hdry : (set.generate input true).Runs (host true {} compiler) store (.ok r) s)
    (hreal : (set.generate input false).Runs (reliable compiler') store (.ok r') store') :
    r.Agrees r' ∧ store'.HoldsGenerated set.modelsDir r.generated := by
  have same (c : Call) (s : MemoryStore) (hc : c.isStore = true) :
      ((host true {} compiler).answer c s).2 = s := by
    cases c with
    | createDir | list | read | write | delete => rfl
    | lock | removeLockFile | release | compile => cases hc
  obtain ⟨schema, sources, guard, s₁, rfl, hlock, hscan, deleted, written, artifact, rfl⟩ :=
    Settings.exists_scan_of_runs_dry same hdry
  obtain ⟨_, hschema, ⟨deleted', written', artifact', rfl⟩, hfiles⟩ :=
    files_of_runs_generate lists hreal
  cases hschema
  obtain ⟨hsources, -⟩ := hscan.unique (runs_scan set.modelsDir)
  rw [files_of_lock hlock] at hsources
  obtain rfl := Except.ok.inj hsources
  exact ⟨Settings.report_agrees, holdsGenerated_of_files_eq hfiles⟩

end MemoryStore

namespace Settings

/-! ## Previews -/

/-- What a run that writes nothing tells of one that writes, if both succeed. They report the same
of what is generated, and after the latter that is what the generated files of the directory are. On
a disk the directory has to be there, or the way to it must not lead up; and if a search for it gets
stuck, files that earlier runs generated stay. -/
theorem agrees_preview (set : Settings) (input : Except SchemaFailure Schema) (r r' : Report) :
    (∀ (tools tools' : Toolchain) (d : Disk), set.modelsDir.text ≠ "" → d.tree.IsNamed →
      d.tree.IsRooted →
      (d.tree.isDir set.modelsDir = true ∨ Component.up ∉ set.modelsDir.components) →
      ((set.generate input true).execute (Disk.host true tools) d).result = .ok r →
      let real := (set.generate input false).execute (Disk.host false tools') d
      real.result = .ok r' → r.Agrees r' ∧
        ∃ l, Disk.HoldsGenerated d.tree real.state.tree set.modelsDir l r.generated) ∧
    ∀ (compiler compiler' : CompileRequest → Except CompileError Artifact) (store : MemoryStore),
      store.ListsGenerated set.modelsDir →
      ((set.generate input true).execute (MemoryStore.host true {} compiler) store).result = .ok r →
      let real := (set.generate input false).execute (MemoryStore.host false {} compiler') store
      real.result = .ok r' →
        r.Agrees r' ∧ real.state.HoldsGenerated set.modelsDir r.generated := by
  constructor
  · intro tools tools' d hdir named rooted there hdry real hreal
    have hchars : set.modelsDir.chars ≠ [] := fun h => hdir (String.toList_eq_nil_iff.1 h)
    exact Disk.preview hchars named rooted there ⟨hdry, rfl⟩ ⟨hreal, rfl⟩
  · intro compiler compiler' store lists hdry real hreal
    exact MemoryStore.preview lists ⟨hdry, rfl⟩ ⟨hreal, rfl⟩

theorem isRooted_empty : ({} : FileTree).IsRooted := by
  intro dir x h
  cases h

/-- A compiler that gives what it is asked for. -/
def anyCompiler (request : CompileRequest) : Except CompileError Artifact := .ok ⟨request.output, []⟩

/-- Runs for the same settings, and for a schema without types. -/
def emptyRun (dry : Bool) : Program (Except RunError Report) :=
  (forDir "models").generate (.ok ⟨[]⟩) dry

/-- A directory that is missing on a disk, and one with an old generated file in memory. -/
theorem agrees_preview_forDir :
    (∃ r r', ((emptyRun true).execute (Disk.host true noCompiler) {}).result = .ok r ∧
      let real := (emptyRun false).execute (Disk.host false noCompiler) {}
      real.result = .ok r' ∧ r.Agrees r' ∧
        ∃ l, Disk.HoldsGenerated {} real.state.tree ⟨"models"⟩ l r.generated) ∧
    ∃ r r', ((emptyRun true).execute (MemoryStore.host true {} anyCompiler) staleStore).result =
        .ok r ∧
      let real := (emptyRun false).execute (MemoryStore.host false {} anyCompiler) staleStore
      real.result = .ok r' ∧ r.Agrees r' ∧
        real.state.HoldsGenerated ⟨"models"⟩ r.generated := by
  constructor
  · obtain ⟨r, hdry⟩ : ∃ r, ((emptyRun true).execute
        (Disk.host true noCompiler) {}).result = .ok r := ⟨_, rfl⟩
    obtain ⟨r', hreal⟩ := exists_result_forDir "models" (by decide) (by decide)
    exact ⟨r, r', hdry, hreal, (agrees_preview (forDir "models") (.ok ⟨[]⟩) r r').1 noCompiler
      noCompiler {} (by decide) isNamed_empty isRooted_empty (.inr (by decide)) hdry hreal⟩
  · obtain ⟨r, hdry⟩ : ∃ r, ((emptyRun true).execute
        (MemoryStore.host true {} anyCompiler) staleStore).result = .ok r := ⟨_, rfl⟩
    obtain ⟨r', hreal⟩ : ∃ r, ((emptyRun false).execute
        (MemoryStore.host false {} anyCompiler) staleStore).result = .ok r := ⟨_, rfl⟩
    have lists : staleStore.ListsGenerated ⟨"models"⟩ := by
      unfold MemoryStore.ListsGenerated
      decide
    exact ⟨r, r', hdry, hreal, (agrees_preview (forDir "models") (.ok ⟨[]⟩) r r').2 anyCompiler
      anyCompiler staleStore lists hdry hreal⟩

end Settings

end ContentModels
