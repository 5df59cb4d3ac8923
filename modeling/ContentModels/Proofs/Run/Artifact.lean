import ContentModels.Proofs.Run.Kept

/-!
# What is compiled

A run that has an artifact compiled does what a run without one does, and then calls the compiler,
before it gives the directory back. What it has compiled are the files that it read and those that
it wrote. No file is one of both, as their names end differently.

## Main definitions

* `Settings.withMode` — the settings of another mode.
* `Settings.emitted` — a run up to the writing of its files.
* `Settings.Emits` — all steps up to then succeed.
* `Settings.Merges` — a request has the files that were read, and those that were written.
* `Disk.SameBut` — two disks have the same files, except at the end of one path.

## Main statements

* `Settings.modes_generate` — runs of both modes, side by side.
* `Settings.merges_requestFrom` — what is requested of the compiler.
* `Disk.sameBut_giveBack` — the compiler changes no other file than the artifact.
* `Settings.compiles_merged` — all of it, for files in memory and on a disk.
-/

namespace ContentModels

open Program

section AnyHost

variable {σ : Type} {host : Host σ} {s t : σ}

/-! ## Programs -/

instance : LawfulMonad Program :=
  LawfulMonad.mk' Program
    (by
      intro α p
      induction p with
      | done a => rfl
      | call c next ih => exact congrArg (Program.call c) (funext ih))
    (by
      intro α β a f
      rfl)
    (by
      intro α β γ p f g
      induction p with
      | done a => rfl
      | call c next ih => exact congrArg (Program.call c) (funext ih))

theorem Program.execute_ask_bind {α : Type} (host : Host σ) (c : Call) (f : c.Answer → Program α)
    (s : σ) : (ask c >>= f).execute host s =
      let e := (f (host.answer c s).1).execute host (host.answer c s).2
      { e with calls := c :: e.calls } := rfl

/-- Gives a directory back. -/
def giveBack (host : Host σ) (guard : Guard) (s : σ) : σ :=
  (host.answer (.release guard) (host.answer (.removeLockFile guard) s).2).2

namespace Settings

variable {set : Settings} {schema : Schema} {input : Except SchemaFailure Schema}
  {sources : List SourceFile} {guard : Guard} {r : Report}

/-- The settings of another mode. -/
def withMode (set : Settings) (mode : Mode) : Settings := { set with mode := mode }

/-- What is compiled next to hand-authored files. -/
def requestFrom (set : Settings) (schema : Schema) (sources : List SourceFile) : CompileRequest :=
  set.compileRequest sources (set.generatedFrom schema sources)

/-! ## A run up to the writing of its files -/

/-- The part of a run up to the writing of its files, with the files that it read and what there is
to report by then. -/
def emitted (set : Settings) (schema : Schema) : Attempt (List SourceFile × Report) := do
  let deleted ← attempt .clean set.clean
  let sources ← attempt .scan (scan set.modelsDir)
  let written ← attempt .emit (writeAll (set.generatedFrom schema sources).entries)
  return (sources, set.report schema deleted sources written none)

theorem generateLocked_eq (set : Settings) (schema : Schema) (dry : Bool) :
    set.generateLocked schema dry = do
      let (sources, r) ← set.emitted schema
      let artifact ← set.compile dry (set.requestFrom schema sources)
      return { r with artifact := artifact } := by
  simp only [generateLocked, emitted, bind_assoc, pure_bind]
  rfl

theorem clean_withMode (set : Settings) (mode : Mode) : (set.withMode mode).clean = set.clean := by
  refine congrArg (Program.call (.list set.modelsDir generatedPattern)) (funext fun answer => ?_)
  cases answer <;> rfl

/-- The mode makes no difference up to then. -/
theorem emitted_withMode (set : Settings) (mode : Mode) (schema : Schema) :
    (set.withMode mode).emitted schema = set.emitted schema := by
  rw [emitted, clean_withMode]
  rfl

/-- What a run tells once the compiler has answered. -/
def finished (r : Report) (answer : Except CompileError Artifact) : Except RunError Report :=
  match answer with
  | .ok artifact => .ok { r with artifact := some artifact }
  | .error e => .error (.compilation e)

/-- A run that has its directory calls the compiler, if it is asked for an artifact, when its files
are written. -/
theorem run_generateLocked (set : Settings) (schema : Schema) (dry : Bool) :
    (set.generateLocked schema dry).run = (set.emitted schema).run >>= fun
      | .error e => pure (.error e)
      | .ok (sources, r) =>
        if set.mode.needsArtifact && !dry then
          ask (.compile (set.requestFrom schema sources)) >>= fun answer => pure (finished r answer)
        else pure (.ok { r with artifact := none }) := by
  rw [generateLocked_eq, ExceptT.run_bind]
  refine congrArg ((set.emitted schema).run >>= ·) (funext fun result => ?_)
  rcases result with e | ⟨sources, r⟩
  · rfl
  · simp only [Settings.compile]
    split
    · refine congrArg (Program.call _) (funext fun answer => ?_)
      cases answer <;> rfl
    · rfl

/-- A run without an artifact is done when its files are written. -/
theorem run_generateLocked_sourceOnly (set : Settings) (schema : Schema) :
    ((set.withMode .sourceOnly).generateLocked schema false).run =
      (set.emitted schema).run >>= fun
        | .error e => pure (.error e)
        | .ok (_, r) => pure (.ok { r with artifact := none }) := by
  rw [run_generateLocked, emitted_withMode]
  rfl

/-- A run with an artifact calls the compiler once, when its files are written. -/
theorem run_generateLocked_artifact (set : Settings) (schema : Schema) :
    ((set.withMode .artifact).generateLocked schema false).run =
      (set.emitted schema).run >>= fun
        | .error e => pure (.error e)
        | .ok (sources, r) => ask (.compile (set.requestFrom schema sources)) >>= fun answer =>
            pure (finished r answer) := by
  rw [run_generateLocked, emitted_withMode]
  rfl

/-! ## Runs of both modes -/

/-- All steps of a run up to the writing of its files succeed: it has its directory, removes what
earlier runs generated, reads the hand-authored files, and writes what is generated from them. -/
def Emits (set : Settings) (host : Host σ) (schema : Schema) (s : σ) (guard : Guard)
    (sources : List SourceFile) (t : σ) : Prop :=
  ∃ deleted written s₁ s₂ s₃ s₄,
    host.answer (.createDir set.modelsDir) s = (.ok (), s₁) ∧
    host.answer (.lock set.modelsDir) s₁ = (.ok guard, s₂) ∧
    set.clean.Runs host s₂ (.ok deleted) s₃ ∧
    (scan set.modelsDir).Runs host s₃ (.ok sources) s₄ ∧
    (writeAll (set.generatedFrom schema sources).entries).Runs host s₄ (.ok written) t

/-- Before a run succeeds all of these steps do. -/
theorem exists_emits_of_runs_generate {dry : Bool}
    (h : (set.generate (.ok schema) dry).Runs host s (.ok r) t) :
    ∃ guard sources t', set.Emits host schema s guard sources t' := by
  obtain ⟨-, _, hinput, guard, s₁, s₂, s₃, hcreate, hlock, hrun, -⟩ := runs_generate_ok_iff.1 h
  obtain rfl := Except.ok.inj hinput
  obtain ⟨deleted, sources, written, artifact, t₁, t₂, t₃, hclean, hscan, hwrite, -⟩ :=
    runs_generateLocked_ok_iff.1 hrun
  exact ⟨guard, sources, t₃, deleted, written, s₁, s₂, t₁, t₂, hcreate, hlock, hclean, hscan, hwrite⟩

theorem runs_emitted_ok_iff :
    (set.emitted schema).run.Runs host s (.ok (sources, r)) t ↔
      ∃ deleted written s₁ s₂,
        set.clean.Runs host s (.ok deleted) s₁ ∧
        (scan set.modelsDir).Runs host s₁ (.ok sources) s₂ ∧
        (writeAll (set.generatedFrom schema sources).entries).Runs host s₂ (.ok written) t ∧
        r = set.report schema deleted sources written none := by
  rw [emitted]
  constructor
  · intro h
    obtain ⟨deleted, s₁, hclean, h⟩ := runs_bind_ok_iff.1 h
    obtain ⟨sources, s₂, hscan, h⟩ := runs_bind_ok_iff.1 h
    obtain ⟨written, s₃, hwrite, h⟩ := runs_bind_ok_iff.1 h
    obtain ⟨ha, rfl⟩ := runs_pure_iff.1 h
    obtain ⟨rfl, rfl⟩ := Prod.mk.inj (Except.ok.inj ha)
    exact ⟨deleted, written, s₁, s₂, runs_attempt_ok_iff.1 hclean, runs_attempt_ok_iff.1 hscan,
      runs_attempt_ok_iff.1 hwrite, rfl⟩
  · rintro ⟨deleted, written, s₁, s₂, hclean, hscan, hwrite, rfl⟩
    refine runs_bind_ok_iff.2 ⟨deleted, s₁, runs_attempt_ok_iff.2 hclean, ?_⟩
    refine runs_bind_ok_iff.2 ⟨sources, s₂, runs_attempt_ok_iff.2 hscan, ?_⟩
    exact runs_bind_ok_iff.2 ⟨written, t, runs_attempt_ok_iff.2 hwrite, runs_pure_iff.2 ⟨rfl, rfl⟩⟩

theorem emits_iff : set.Emits host schema s guard sources t ↔ ∃ s₁ s₂ r,
    host.answer (.createDir set.modelsDir) s = (.ok (), s₁) ∧
    host.answer (.lock set.modelsDir) s₁ = (.ok guard, s₂) ∧
    (set.emitted schema).run.Runs host s₂ (.ok (sources, r)) t := by
  simp only [Emits, runs_emitted_ok_iff]
  constructor
  · rintro ⟨deleted, written, s₁, s₂, s₃, s₄, hcreate, hlock, hclean, hscan, hwrite⟩
    exact ⟨s₁, s₂, _, hcreate, hlock, deleted, written, s₃, s₄, hclean, hscan, hwrite, rfl⟩
  · rintro ⟨s₁, s₂, r, hcreate, hlock, deleted, written, s₃, s₄, hclean, hscan, hwrite, -⟩
    exact ⟨deleted, written, s₁, s₂, s₃, s₄, hcreate, hlock, hclean, hscan, hwrite⟩

/-- The compiler is not called before the files are written. -/
theorem filter_isCompile_emitted (set : Settings) (schema : Schema) (host : Host σ) (s : σ) :
    ((set.emitted schema).run.execute host s).calls.filter Call.isCompile = [] := by
  have honly : (set.emitted schema).run.Only (fun _ => True) (·.isStore = true) := by
    rw [emitted]
    refine .attempt_bind only_isStore_clean fun deleted => ?_
    refine .attempt_bind (only_isStore_scan _) fun sources => ?_
    exact .attempt_bind (only_isStore_writeAll _) fun written => .pure _
  refine List.filter_eq_nil_iff.2 fun c hc => ?_
  have hstore := honly.of_mem_calls (fun _ _ => trivial) hc
  cases c <;> simp_all [Call.isStore, Call.isCompile]

theorem execute_generateGuarded (set : Settings) (schema : Schema) (dry : Bool) (guard : Guard)
    (host : Host σ) (s : σ) :
    (set.generateGuarded schema dry guard).execute host s =
      let e := (set.generateLocked schema dry).run.execute host s
      ⟨e.result, giveBack host guard e.state, e.calls ++ [.removeLockFile guard, .release guard]⟩ :=
  execute_bind host _ _ s

/-- What a run comes to before it has its directory, and from then on. -/
theorem execute_generate {dir : Path} (hmode : set.mode.isEnabled = true)
    (hdir : set.modelsDir = dir) (schema : Schema) (dry : Bool) (host : Host σ) (s : σ) :
    (set.generate (.ok schema) dry).execute host s =
      match host.answer (.createDir dir) s with
      | (.error e, s₁) => ⟨.error (.clean e), s₁, [.createDir dir]⟩
      | (.ok (), s₁) =>
        match host.answer (.lock dir) s₁ with
        | (.error e, s₂) => ⟨.error e, s₂, [.createDir dir, .lock dir]⟩
        | (.ok guard, s₂) =>
          let e := (set.generateGuarded schema dry guard).execute host s₂
          { e with calls := .createDir dir :: .lock dir :: e.calls } := by
  subst hdir
  rw [generate, hmode, Bool.not_true, if_neg Bool.false_ne_true]
  dsimp only
  rw [execute_ask_bind]
  rcases host.answer (.createDir set.modelsDir) s with ⟨_ | _, s₁⟩
  · rfl
  · dsimp only
    rw [execute_ask_bind]
    rcases host.answer (.lock set.modelsDir) s₁ with ⟨_ | _, s₂⟩ <;> rfl

/-- How a run without an artifact and one with it end that start from the same state. -/
inductive Modes (set : Settings) (host : Host σ) (input : Except SchemaFailure Schema) (s : σ)
    (plain full : Execution σ (Except RunError Report)) : Prop
  /-- A step before the compiler is called fails, which is the same in both runs. -/
  | stopped
      (unemitted : ¬∃ schema guard sources t, input = .ok schema ∧
        set.Emits host schema s guard sources t)
      (same : full = plain) (calls : full.calls.filter Call.isCompile = [])
  /-- All steps before the compiler is called succeed. Then it is called once, and all that is left
  is to give the directory back. -/
  | compiled {schema : Schema} {guard : Guard} {sources : List SourceFile} {t : σ} {r : Report}
      (emits : input = .ok schema ∧ set.Emits host schema s guard sources t)
      (plain_result : plain.result = .ok r) (plain_state : plain.state = giveBack host guard t)
      (full_result : full.result =
        finished r (host.answer (.compile (set.requestFrom schema sources)) t).1)
      (full_state : full.state =
        giveBack host guard (host.answer (.compile (set.requestFrom schema sources)) t).2)
      (calls : full.calls.filter Call.isCompile = [.compile (set.requestFrom schema sources)])

/-- Runs of both modes that have their directory are the same up to the writing of the files. -/
theorem modes_of_lock {s₁ s₂ : σ}
    (hcreate : host.answer (.createDir set.modelsDir) s = (.ok (), s₁))
    (hlock : host.answer (.lock set.modelsDir) s₁ = (.ok guard, s₂)) :
    let run (mode : Mode) : Execution σ (Except RunError Report) :=
      let e := ((set.withMode mode).generateGuarded schema false guard).execute host s₂
      { e with calls := .createDir set.modelsDir :: .lock set.modelsDir :: e.calls }
    set.Modes host (.ok schema) s (run .sourceOnly) (run .artifact) := by
  intro run
  simp only [run, execute_generateGuarded, run_generateLocked_sourceOnly, run_generateLocked_artifact,
    execute_bind]
  have hnone := filter_isCompile_emitted set schema host s₂
  cases hemit : (set.emitted schema).run.execute host s₂ with
  | mk result t calls =>
  rw [hemit] at hnone
  have hruns : (set.emitted schema).run.Runs host s₂ result t := ⟨by rw [hemit], by rw [hemit]⟩
  cases result with
  | error e =>
    refine .stopped ?_ rfl ?_
    · rintro ⟨schema', guard', sources, t', hinput, hemits⟩
      obtain rfl := Except.ok.inj hinput
      obtain ⟨s₁', s₂', r, hcreated, hlocked, hok⟩ := emits_iff.1 hemits
      obtain rfl := (Prod.mk.inj (hcreate.symm.trans hcreated)).2
      obtain rfl := (Prod.mk.inj (hlock.symm.trans hlocked)).2
      cases (hruns.unique hok).1
    · simpa [execute, pure, Call.isCompile] using hnone
  | ok a =>
    obtain ⟨sources, r⟩ := a
    have hemits := emits_iff.2 ⟨s₁, s₂, r, hcreate, hlock, hruns⟩
    refine .compiled ⟨rfl, hemits⟩ rfl rfl rfl rfl ?_
    simp only [pure, List.filter_cons, List.filter_append, hnone]
    rfl

/-- Runs of both modes are the same up to the writing of the files. -/
theorem modes_generate (set : Settings) (host : Host σ) (input : Except SchemaFailure Schema)
    (s : σ) :
    set.Modes host input s (((set.withMode .sourceOnly).generate input false).execute host s)
      (((set.withMode .artifact).generate input false).execute host s) := by
  cases input with
  | error e => exact .stopped (by simp) rfl rfl
  | ok schema =>
    have hdir (mode : Mode) : (set.withMode mode).modelsDir = set.modelsDir := rfl
    rw [execute_generate rfl (hdir _), execute_generate rfl (hdir _)]
    rcases hcreate : host.answer (.createDir set.modelsDir) s with ⟨_ | _, s₁⟩
    · refine .stopped ?_ rfl rfl
      rintro ⟨_, _, _, _, -, hemits⟩
      obtain ⟨s₁', s₂', r, hcreated, -⟩ := emits_iff.1 hemits
      simp [hcreate] at hcreated
    dsimp only
    rcases hlock : host.answer (.lock set.modelsDir) s₁ with ⟨_ | guard, s₂⟩
    · refine .stopped ?_ rfl rfl
      rintro ⟨_, _, _, _, -, hemits⟩
      obtain ⟨s₁', s₂', r, hcreated, hlocked, -⟩ := emits_iff.1 hemits
      obtain rfl := (Prod.mk.inj (hcreate.symm.trans hcreated)).2
      simp [hlock] at hlocked
    exact modes_of_lock hcreate hlock

/-! ## What is requested of the compiler -/

/-- A request has the files that were read, and those that were written. No file is one of both, as
only the latter are generated by their names. -/
structure Merges (set : Settings) (schema : Schema) (sources : List SourceFile)
    (request : CompileRequest) : Prop where
  space : request.space = set.space
  output : request.output = set.artifactPath
  files : request.files.entries.Perm
    (sources.map (fun file => (file.path, file.content)) ++
      (set.generatedFrom schema sources).entries)
  read : ∀ file ∈ sources, file.path.isGenerated = false
  written : ∀ e ∈ (set.generatedFrom schema sources).entries, e.1.isGenerated = true

theorem files_requestFrom (set : Settings) (schema : Schema) (sources : List SourceFile) :
    (set.requestFrom schema sources).files = (set.generatedFrom schema sources).entries.foldl
      (fun files e => files.insert e.1 e.2) (fileMap sources) := rfl

theorem merges_requestFrom (set : Settings) (schema : Schema)
    (distinct : sources.Pairwise fun f g => compare f.path g.path ≠ .eq)
    (hand : ∀ file ∈ sources, file.path.isGenerated = false) :
    set.Merges schema sources (set.requestFrom schema sources) := by
  have hgenerated : ∀ e ∈ (set.generatedFrom schema sources).entries,
      e.1.isGenerated = true := by
    intro e he
    obtain ⟨x, hx, hpath⟩ := set.exists_name_of_mem_generatedFiles schema _ _ he
    exact hpath ▸ MemoryStore.isGenerated_file _ hx
  have hsources : (fileMap sources).entries.Perm
      (sources.map fun file => (file.path, file.content)) :=
    SortedMap.perm_ofList (List.pairwise_map.2 distinct)
  refine ⟨by rw [requestFrom, compileRequest], by rw [requestFrom, compileRequest], ?_, hand,
    hgenerated⟩
  rw [files_requestFrom]
  have hdiffer := (set.generatedFrom schema sources).pairwise_ne
  refine (SortedMap.perm_foldl_insert hdiffer fun e he => ?_).trans (hsources.append_right _)
  -- Two paths that count as the same have the same name.
  refine SortedMap.get?_eq_none_iff.2 fun d hd heq => ?_
  obtain ⟨file, hfile, rfl⟩ := List.mem_map.1 (hsources.subset hd)
  have hsame := Path.isGenerated_congr heq
  rw [hgenerated e he, hand file hfile] at hsame
  cases hsame

end Settings

/-- The files that are read are those of a list that are not generated. -/
theorem map_path_of_runs_readSources {files : List Path} {sources : List SourceFile}
    (h : (readSources files).Runs host s (.ok sources) t) :
    sources.map (·.path) = files.filter fun file => !file.isGenerated := by
  induction files generalizing s sources with
  | nil =>
    obtain ⟨hdone, -⟩ := runs_pure_iff.1 h
    rw [Except.ok.inj hdone]
    rfl
  | cons file rest ih =>
    cases hgen : file.isGenerated with
    | true =>
      rw [readSources_cons_of_isGenerated hgen] at h
      rw [ih h, List.filter_cons_of_neg (by simp [hgen])]
    | false =>
      obtain ⟨text, m, more, -, hrest, rfl⟩ := (runs_readSources_cons_ok_iff hgen).1 h
      rw [List.map_cons, ih hrest, List.filter_cons_of_pos (by simp [hgen])]

/-- What is read of a directory can be merged with what is generated, if no file is listed twice. -/
theorem Settings.merges_of_runs_scan {set : Settings} {sources : List SourceFile} (schema : Schema)
    (h : (scan set.modelsDir).Runs host s (.ok sources) t)
    (distinct : ∀ files, (host.answer (.list set.modelsDir sourcePattern) s).1 = .ok files →
      files.Pairwise fun p q => compare p q ≠ .eq) :
    set.Merges schema sources (set.requestFrom schema sources) := by
  obtain ⟨answer, m, hlist, h⟩ := runs_bind_iff.1 h
  have hanswer := runs_ask_iff.1 hlist
  cases answer with
  | error e => cases (runs_pure_iff.1 h).1
  | ok files =>
    have hpaths := map_path_of_runs_readSources h
    have hdistinct := (distinct files (by rw [hanswer])).sublist
      (List.filter_sublist (p := fun file : Path => !file.isGenerated))
    rw [← hpaths] at hdistinct
    refine set.merges_requestFrom schema (List.pairwise_map.1 hdistinct) fun file hfile => ?_
    have hmem := List.mem_map_of_mem (f := SourceFile.path) hfile
    rw [hpaths] at hmem
    simpa using (List.mem_filter.1 hmem).2

end AnyHost

/-! ## Files in memory -/

namespace MemoryStore

variable {set : Settings} {schema : Schema} {sources : List SourceFile} {guard : Guard}
  {faults : Faults} {compiler : CompileRequest → Except CompileError Artifact}
  {store store' : MemoryStore}

/-- What is read is given by the files that are not generated. -/
theorem scanned_congr {dir : Path} (h : AgreeOutside dir store store') :
    scanned dir store'.files = scanned dir store.files := by
  have hsame : handAuthored dir store'.files = handAuthored dir store.files :=
    SortedMap.ext_entries fun e => by
      rw [mem_handAuthored, mem_handAuthored]
      exact and_congr_left fun he => (h e he).symm
  rw [← scanned_handAuthored, hsame, scanned_handAuthored]

/-- Cleaning keeps the hand-authored files, whether it fails or not. -/
theorem keeps_clean (set : Settings) (faults : Faults)
    (compiler : CompileRequest → Except CompileError Artifact) (store : MemoryStore) :
    Keeps set.modelsDir store (set.clean.execute (host false faults compiler) store).state := by
  refine execute_induct (fun _ => .refl _ _) (fun _ _ _ h h' => h.trans h') _ store fun c hc s => ?_
  refine keeps_answer false faults compiler ?_ s
  rcases set.only_clean.of_mem_calls (isProper_host false faults compiler) hc
    with rfl | ⟨file, rfl, hfile⟩
  · trivial
  · exact ⟨hfile, isGenerated_of_isGeneratedChild hfile⟩

/-- A call that is not made to fail is performed. -/
theorem perform_of_answer {c : Call} {answer : c.Answer}
    (h : (host false faults compiler).answer c store = (answer, store')) :
    refuse faults c = some answer ∧ store' = store ∨
      store.perform false compiler c = (answer, store') := by
  simp only [host] at h
  split at h
  · next refused hrefuse =>
    obtain ⟨rfl, rfl⟩ := Prod.mk.inj h
    exact .inl ⟨hrefuse, rfl⟩
  · exact .inr h

theorem runs_readSources_ok {files : List Path}
    (h : (readSources files).Runs (host false faults compiler) store (.ok sources) store') :
    sources = MemoryStore.sources store.files files := by
  induction files generalizing store sources with
  | nil => exact Except.ok.inj (runs_pure_iff.1 h).1
  | cons file rest ih =>
    cases hgen : file.isGenerated with
    | true =>
      rw [readSources_cons_of_isGenerated hgen] at h
      simpa [MemoryStore.sources, hgen] using ih h
    | false =>
      obtain ⟨text, m, more, hread, hrest, rfl⟩ := (runs_readSources_cons_ok_iff hgen).1 h
      rcases perform_of_answer hread with ⟨hrefused, -⟩ | hread
      · simp [refuse] at hrefused
      · rw [perform] at hread
        obtain ⟨htext, rfl⟩ := Prod.mk.inj hread
        have hget : store.files.get? file = some text := by
          split at htext <;> simp_all
        simp [MemoryStore.sources, hgen, hget, ih hrest]

/-- What a scan gives that succeeds, whatever can be made to fail. -/
theorem eq_of_runs_scan {dir : Path}
    (h : (scan dir).Runs (host false faults compiler) store (.ok sources) store') :
    sources = scanned dir store.files := by
  obtain ⟨answer, m, hlist, h⟩ := runs_bind_iff.1 h
  cases answer with
  | error e => cases (runs_pure_iff.1 h).1
  | ok files =>
    rcases perform_of_answer (runs_ask_iff.1 hlist) with ⟨hrefused, -⟩ | hlist
    · simp [refuse] at hrefused
    · obtain ⟨hfiles, rfl⟩ := Prod.mk.inj hlist
      obtain rfl := Except.ok.inj hfiles
      exact runs_readSources_ok h

/-- The files that are read are the hand-authored ones of the store. -/
theorem eq_of_emits (h : set.Emits (host false faults compiler) schema store guard sources store') :
    sources = scanned set.modelsDir store.files := by
  obtain ⟨deleted, written, s₁, s₂, s₃, s₄, hcreate, hlock, hclean, hscan, -⟩ := h
  have hkeeps (c : Call) (hc : set.Allows c) (s : MemoryStore) :=
    (keeps_answer false faults compiler hc s).agree
  have hcreated := hkeeps (.createDir set.modelsDir) trivial store
  have hlocked := hkeeps (.lock set.modelsDir) trivial s₁
  have hcleaned := (keeps_clean set faults compiler s₂).agree
  rw [hcreate] at hcreated
  rw [hlock] at hlocked
  rw [hclean.2] at hcleaned
  rw [eq_of_runs_scan hscan, scanned_congr hcleaned, scanned_congr hlocked, scanned_congr hcreated]

/-- What is requested for the files of a store. -/
theorem merges_of_emits
    (h : set.Emits (host false faults compiler) schema store guard sources store') :
    set.Merges schema sources (set.requestFrom schema sources) := by
  obtain ⟨deleted, written, s₁, s₂, s₃, s₄, -, -, -, hscan, -⟩ := h
  refine Settings.merges_of_runs_scan schema hscan fun files hfiles => ?_
  rcases perform_of_answer (Prod.ext hfiles rfl) with ⟨hrefused, -⟩ | hlist
  · simp [refuse] at hrefused
  · obtain rfl := Except.ok.inj (Prod.mk.inj hlist).1
    refine (s₃.files.pairwise_keys.sublist List.filter_sublist).imp fun hlt heq => ?_
    simp [hlt] at heq

end MemoryStore

/-! ## Files on a disk -/

namespace Disk

variable {set : Settings} {schema : Schema} {sources : List SourceFile} {guard : Guard}
  {tools : Toolchain} {d d' : Disk} {l : Location} {dir p : Path} {x : String}

/-- Two disks have the same files, but for one at the end of a path. The second one may have more
directories. -/
structure SameBut (file : Path) (d d' : Disk) : Prop where
  held : d'.held = d.held
  here : d'.tree.here = d.tree.here
  dirs : ∀ m, d.tree.get? m = some .dir → d'.tree.get? m = some .dir
  files : ∀ m, d'.tree.file? m ≠ d.tree.file? m →
    ∃ content, d'.tree.find file = .ok (.node m (.file content))

theorem SameBut.refl (file : Path) (d : Disk) : SameBut file d d :=
  ⟨rfl, rfl, fun _ h => h, fun _ h => absurd rfl h⟩

theorem SameBut.of_frame {file : Path}
    (h : FileTree.Frame (fun m => ∃ content, d'.tree.find file = .ok (.node m (.file content)))
      d.tree d'.tree) (hheld : d'.held = d.held) : SameBut file d d' :=
  ⟨hheld, h.here, h.dirs, fun m hne => by_contra fun hm => hne (h.files m hm)⟩

/-- Deleting a file elsewhere makes no difference to where a file is found. -/
theorem find_erase {t : FileTree} {m m' : Location} {n : Node} (hx : Path.IsName x)
    (hm : t.get? m ≠ some .dir) (hne : m' ≠ m) (h : t.find (p.file x) = .ok (.node m' n)) :
    (t.erase m).find (p.file x) = .ok (.node m' n) := by
  obtain ⟨l, haddresses, hentry⟩ := FileTree.exists_entry_of_find_file hx h
  obtain ⟨rfl, hget⟩ := FileTree.entry_eq_node_iff.1 hentry.symm
  rw [(haddresses.of_frame (.erase hm)).find_file hx]
  refine congrArg Except.ok (FileTree.entry_eq_node_iff.2 ⟨rfl, ?_⟩)
  rw [FileTree.get?_erase hm, if_neg hne, hget]

/-- Two disks that are the same but for one file stay so if another file is deleted. -/
theorem SameBut.erase {m : Location} (h : SameBut (p.file x) d d') (hx : Path.IsName x)
    (hm : d.tree.get? m ≠ some .dir) (hm' : d'.tree.get? m ≠ some .dir) :
    SameBut (p.file x) { d with tree := d.tree.erase m } { d' with tree := d'.tree.erase m } where
  held := h.held
  here := h.here
  dirs l hl := by
    rw [FileTree.get?_erase hm] at hl
    rw [FileTree.get?_erase hm']
    split at hl
    · cases hl
    · next hne => rw [if_neg hne, h.dirs l hl]
  files l hne := by
    have hother : l ≠ m := by
      rintro rfl
      simp [FileTree.file?, FileTree.get?_erase hm, FileTree.get?_erase hm'] at hne
    simp only [FileTree.file?, FileTree.get?_erase hm, FileTree.get?_erase hm', if_neg hother] at hne
    obtain ⟨content, hfind⟩ := h.files l hne
    exact ⟨content, find_erase hx hm' hother hfind⟩

/-- Giving a directory back leaves two disks the same but for the artifact. -/
theorem SameBut.removeLockFile (h : SameBut (p.file x) d d') (hx : Path.IsName x)
    (hlock : lockFileName ≠ x) (hdir : d.tree.Addresses dir l) (hdir' : d'.tree.Addresses dir l)
    (hguard : ∀ file, guard.file = some file → file = dir.file lockFileName) :
    SameBut (p.file x) (d.removeLockFile guard) (d'.removeLockFile guard) := by
  have hsame : d'.tree.file? (l.child lockFileName) = d.tree.file? (l.child lockFileName) := by
    by_contra hne
    obtain ⟨content, hfind⟩ := h.files _ hne
    obtain ⟨m, -, hentry⟩ := FileTree.exists_entry_of_find_file hx hfind
    exact hlock (Location.child_inj.1 (FileTree.entry_eq_node_iff.1 hentry.symm).1).2
  unfold Disk.removeLockFile
  cases hfile : guard.file with
  | none => exact h
  | some file =>
    dsimp only
    rw [hguard file hfile, FileTree.delete_entry (hdir.find_file isName_lockFileName),
      FileTree.delete_entry (hdir'.find_file isName_lockFileName)]
    rw [FileTree.file?, FileTree.file?] at hsame
    rcases hget : d.tree.get? (l.child lockFileName) with _ | _ | content <;>
      rcases hget' : d'.tree.get? (l.child lockFileName) with _ | _ | content' <;>
      simp only [hget, hget'] at hsame
    · exact h
    · exact h
    · cases hsame
    · exact h
    · exact h
    · cases hsame
    · cases hsame
    · cases hsame
    · exact h.erase hx (by simp [hget]) (by simp [hget'])

/-- The compiler changes no other file than the artifact, and neither does giving the directory back
afterwards. -/
theorem sameBut_giveBack (request : CompileRequest) (hdir : d.tree.Addresses dir l)
    (hguard : ∀ file, guard.file = some file → file = dir.file lockFileName)
    (hx : Path.IsName x) (hlock : lockFileName ≠ x) (houtput : request.output = p.file x) :
    SameBut (p.file x) (giveBack (host false tools) guard d)
      (giveBack (host false tools) guard (d.compile tools request).2) := by
  have hframe := frame_compile d tools request
  rw [houtput] at hframe
  have hsame := (SameBut.of_frame hframe (held_compile d tools request)).removeLockFile hx hlock hdir
    (hdir.of_frame hframe) hguard
  exact ⟨congrArg (·.erase guard.key) hsame.held, hsame.here, hsame.dirs, hsame.files⟩

theorem addresses_of_emits {t : Disk}
    (h : set.Emits (host false tools) schema d guard sources t) :
    ∃ l, t.tree.Addresses set.modelsDir l ∧
      ∀ file, guard.file = some file → file = set.modelsDir.file lockFileName := by
  obtain ⟨deleted, written, s₁, s₂, s₃, s₄, hcreate, hlock, hclean, hscan, hwrite⟩ := h
  obtain ⟨l, hdir⟩ := exists_addresses_of_createDir hcreate
  have hlocked := hdir.of_frame (lock_frame hdir hlock)
  have hscanned := (hlocked.of_frame (frame_of_runs hclean)).of_frame (frame_of_runs hscan)
  exact ⟨l, hscanned.of_frame (frame_of_runs hwrite), file_of_lock hlock⟩

/-- What is requested for the files of a disk. -/
theorem merges_of_emits (named : d.tree.IsNamed) {t : Disk}
    (h : set.Emits (host false tools) schema d guard sources t) :
    set.Merges schema sources (set.requestFrom schema sources) := by
  obtain ⟨deleted, written, s₁, s₂, s₃, s₄, hcreate, hlock, hclean, hscan, -⟩ := h
  obtain ⟨l, hdir⟩ := exists_addresses_of_createDir hcreate
  have hlocked := lock_frame hdir hlock
  have hcleaned := frame_of_runs hclean
  have hcreated := (FileTree.createDirs_frame d.tree set.modelsDir).named named
  have hnamed : s₃.tree.IsNamed := by
    refine hcleaned.named (hlocked.named ?_)
    obtain rfl := (Prod.mk.inj hcreate).2
    exact hcreated
  have hdir₃ := (hdir.of_frame hlocked).of_frame hcleaned
  refine Settings.merges_of_runs_scan schema hscan fun files hfiles => ?_
  change Glob.list s₃.tree set.modelsDir sourcePattern = .ok files at hfiles
  rw [Glob.list_eq hnamed hdir₃ endsLike_sourcePattern] at hfiles
  obtain rfl := Except.ok.inj hfiles
  cases hstuck : Glob.isStuck set.modelsDir with
  | true => exact .nil
  | false =>
    have hreach := (Glob.reaches (Glob.find_of_addresses hdir₃ hstuck)).2 hstuck
    rw [if_neg Bool.false_ne_true, List.pairwise_map]
    refine ((FileTree.nodup_names s₃.tree l).sublist List.filter_sublist).imp_of_mem ?_
    intro x y hx hy hne heq
    have hx' := (hreach.below (Glob.isName_of_mem_namesEnding hnamed hx)).2
    have hy' := (hreach.below (Glob.isName_of_mem_namesEnding hnamed hy)).2
    rw [Path.compare_eq_iff, hx', hy'] at heq
    exact hne (by simpa using heq)

end Disk

namespace Settings

/-- The compiler sees the files that were read, together with those that were written, and disturbs
neither. It is called once if all steps before it succeed, and never if one fails. What it is asked
to compile has each file that was read and each one that was written, and no other; in memory, the
former are all hand-authored files of the store. Where compiling leaves the state alone, which is so
in memory, a run ends in the state in which one without an artifact ends; on a disk the two differ
in the artifact only, and in directories that it lies in. -/
theorem compiles_merged (set : Settings) (input : Except SchemaFailure Schema) :
    let plain := (set.withMode .sourceOnly).generate input false
    let full := (set.withMode .artifact).generate input false
    (∀ (σ : Type) (host : Host σ) (s : σ),
      let run := full.execute host s
      ((∃ schema guard sources t, (input = .ok schema ∧ set.Emits host schema s guard sources t) ∧
          run.calls.filter Call.isCompile = [.compile (set.requestFrom schema sources)]) ∨
        (¬∃ schema guard sources t, input = .ok schema ∧ set.Emits host schema s guard sources t) ∧
          run.calls.filter Call.isCompile = []) ∧
      ((∀ request s, (host.answer (.compile request) s).2 = s) →
        run.state = (plain.execute host s).state)) ∧
    (∀ (faults : Faults) (compiler : CompileRequest → Except CompileError Artifact)
      (store : MemoryStore),
      let host := MemoryStore.host false faults compiler
      (full.execute host store).state = (plain.execute host store).state ∧
      ∀ schema guard sources t, set.Emits host schema store guard sources t →
        sources = MemoryStore.scanned set.modelsDir store.files ∧
        set.Merges schema sources (set.requestFrom schema sources)) ∧
    ∀ (tools : Toolchain) (d : Disk),
      let host := Disk.host false tools
      Disk.SameBut set.artifactPath (plain.execute host d).state (full.execute host d).state ∧
      ∀ schema guard sources t, d.tree.IsNamed → set.Emits host schema d guard sources t →
        set.Merges schema sources (set.requestFrom schema sources) := by
  intro plain full
  have hstate (σ : Type) (host : Host σ) (s : σ)
      (same : ∀ request s, (host.answer (.compile request) s).2 = s) :
      (full.execute host s).state = (plain.execute host s).state := by
    cases set.modes_generate host input s with
    | stopped _ heq _ => rw [heq]
    | compiled _ _ hplain _ hfull _ => rw [hplain, hfull, same]
  refine ⟨fun σ host s => ⟨?_, hstate σ host s⟩, fun faults compiler store => ⟨?_, ?_⟩,
    fun tools d => ⟨?_, ?_⟩⟩
  · cases set.modes_generate host input s with
    | stopped unemitted _ hcalls => exact .inr ⟨unemitted, hcalls⟩
    | compiled emits _ _ _ _ hcalls => exact .inl ⟨_, _, _, _, emits, hcalls⟩
  · exact hstate _ _ store fun _ _ => rfl
  · exact fun schema guard sources t h => ⟨MemoryStore.eq_of_emits h, MemoryStore.merges_of_emits h⟩
  · cases set.modes_generate (Disk.host false tools) input d with
    | stopped _ heq _ =>
      rw [heq]
      exact .refl _ _
    | compiled emits _ hplain _ hfull _ =>
      obtain ⟨l, hdir, hguard⟩ := Disk.addresses_of_emits emits.2
      rw [hplain, hfull, Disk.state_compile, artifactPath]
      exact Disk.sameBut_giveBack _ hdir hguard (Naming.isName_artifactFileName set.space)
        (lockFileName_ne_artifactFileName set.space) (by rw [requestFrom, compileRequest, artifactPath])
  · exact fun schema guard sources t named h => Disk.merges_of_emits named h

/-- A compiler that refuses whatever it is asked for. -/
def refusing (_ : CompileRequest) : Except CompileError Artifact := .error (.failed [])

/-- An old generated file in memory is not compiled, and a compiler that is missing on a disk leaves
it as it would be without a compiler. -/
theorem compiles_merged_staleStore :
    let set := forDir "models"
    (∃ guard sources t,
      set.Emits (MemoryStore.host false {} refusing) ⟨[]⟩ staleStore guard sources t ∧
        sources = [⟨⟨"models/help.rs"⟩, "fn help() {}"⟩] ∧
        set.Merges ⟨[]⟩ sources (set.requestFrom ⟨[]⟩ sources)) ∧
      ({} : FileTree).IsNamed ∧
      ∃ guard sources t, set.Emits (Disk.host false noCompiler) ⟨[]⟩ {} guard sources t ∧
        set.Merges ⟨[]⟩ sources (set.requestFrom ⟨[]⟩ sources) := by
  intro set
  obtain ⟨-, hmemory, hdisk⟩ := compiles_merged set (.ok ⟨[]⟩)
  refine ⟨?_, isNamed_empty, ?_⟩
  · obtain ⟨r, hr⟩ : ∃ r, ((emptyRun false).execute
        (MemoryStore.host false {} refusing) staleStore).result = .ok r := ⟨_, rfl⟩
    obtain ⟨guard, sources, t, h⟩ := exists_emits_of_runs_generate ⟨hr, rfl⟩
    obtain ⟨hsources, hmerges⟩ := (hmemory {} refusing staleStore).2 ⟨[]⟩ guard sources t h
    refine ⟨guard, sources, t, h, ?_, hmerges⟩
    rw [hsources]
    decide
  · obtain ⟨r, hr⟩ := exists_result_forDir "models" (by decide) (by decide)
    obtain ⟨guard, sources, t, h⟩ := exists_emits_of_runs_generate ⟨hr, rfl⟩
    exact ⟨guard, sources, t, h, (hdisk noCompiler {}).2 ⟨[]⟩ guard sources t isNamed_empty h⟩

end Settings

end ContentModels
