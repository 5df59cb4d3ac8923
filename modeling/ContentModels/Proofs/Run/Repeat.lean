import ContentModels.Proofs.Run.Execution
import ContentModels.Proofs.Run.Phases
import ContentModels.Proofs.Sorted.Part

/-!
# Runs do not depend on earlier ones

A run on files in memory that do not fail removes every generated file first, and reads none of
them. What it reports and what it leaves are therefore given by the hand-authored files, and those
no run changes, not even one that fails.

## Main definitions

* `MemoryStore.ListsGenerated` — the store finds all generated files when it lists them.
* `MemoryStore.AgreeOutside` — two stores have the same files but for generated ones.
* `MemoryStore.Keeps` — the first store can be exchanged for the second one before a run.
* `Settings.SameOutcome` — two runs report the same and leave the same files.

## Main statements

* `Settings.exists_runs_generate` — what a run comes to.
* `Settings.keeps_generate` — every run keeps the hand-authored files, whatever fails.
* `Settings.sameOutcome_of_agreeOutside` — the result does not depend on what earlier runs left.
-/

namespace ContentModels

open Program

namespace MemoryStore

variable {compiler : CompileRequest → Except CompileError Artifact} {store : MemoryStore}

/-- Files in memory that do not fail. -/
abbrev reliable (compiler : CompileRequest → Except CompileError Artifact) : Host MemoryStore :=
  host false {} compiler

theorem answer_reliable {dry : Bool} (c : Call) :
    (host dry {} compiler).answer c store = store.perform dry compiler c := by
  cases c <;> rfl

/-! ## The steps of a run -/

theorem runs_deleteAll (compiler : CompileRequest → Except CompileError Artifact)
    (store : MemoryStore) (files : List Path) : ∃ gone, (deleteAll files).Runs (reliable compiler)
      store (.ok gone) (files.foldl delete store) := by
  induction files generalizing store with
  | nil => exact ⟨[], runs_pure_iff.2 ⟨rfl, rfl⟩⟩
  | cons file rest ih =>
    obtain ⟨gone, hrest⟩ := ih (store.delete file)
    exact ⟨_, runs_deleteAll_cons_ok_iff.2 ⟨_, _, gone, answer_reliable _, hrest, rfl⟩⟩

/-- What is read of files. -/
def sources (files : SortedMap Path String) (l : List Path) : List SourceFile :=
  (l.filter fun file => !file.isGenerated).map fun file => ⟨file, (files.get? file).getD ""⟩

theorem runs_readSources {dry : Bool} {l : List Path}
    (h : ∀ file ∈ l, (store.files.get? file).isSome = true) :
    (readSources l).Runs (host dry {} compiler) store (.ok (sources store.files l)) store := by
  induction l with
  | nil => exact runs_pure_iff.2 ⟨rfl, rfl⟩
  | cons file rest ih =>
    have hrest := ih fun f hf => h f (List.mem_cons_of_mem _ hf)
    obtain ⟨text, htext⟩ := Option.isSome_iff_exists.1 (h file List.mem_cons_self)
    cases hgen : file.isGenerated with
    | true =>
      rw [readSources_cons_of_isGenerated hgen]
      simpa [sources, hgen] using hrest
    | false =>
      have hread : (host dry {} compiler).answer (.read file) store = (.ok text, store) := by
        rw [answer_reliable, perform, htext]
      refine (runs_readSources_cons_ok_iff hgen).2 ⟨text, store, _, hread, hrest, ?_⟩
      simp [sources, hgen, htext]

/-- The files that a run reads, with their texts. -/
def scanned (dir : Path) (files : SortedMap Path String) : List SourceFile :=
  sources files <| files.keys.filter fun file =>
    isChild dir file && (ending sourcePattern).isSuffixOf file.chars

theorem runs_scan {dry : Bool} (dir : Path) : (scan dir).Runs (host dry {} compiler) store
    (.ok (scanned dir store.files)) store := by
  refine runs_bind_iff.2 ⟨_, _, runs_ask_iff.2 (answer_reliable _), ?_⟩
  refine runs_readSources fun file hfile => ?_
  obtain ⟨text, hmem⟩ := SortedMap.mem_keys.1 (List.mem_filter.1 hfile).1
  rw [SortedMap.get?_of_mem hmem]
  rfl

theorem runs_writeAll (l : List (Path × String)) : (writeAll l).Runs (reliable compiler) store
    (.ok (l.map fun e => .file e.1 e.2.utf8ByteSize))
    (l.foldl (fun s e => s.write e.1 e.2) store) := by
  induction l generalizing store with
  | nil => exact runs_pure_iff.2 ⟨rfl, rfl⟩
  | cons e rest ih =>
    exact runs_writeAll_cons_ok_iff.2 ⟨_, _, _, answer_reliable _, ih, rfl⟩

/-! ## The files that they leave -/

theorem mem_files_foldl_delete {l : List Path} {e : Path × String} :
    e ∈ (l.foldl delete store).files.entries ↔
      e ∈ store.files.entries ∧ ∀ file ∈ l, compare file e.1 ≠ .eq := by
  induction l generalizing store with
  | nil => simp
  | cons file rest ih =>
    rw [List.foldl_cons, ih, delete, SortedMap.mem_erase, List.forall_mem_cons, and_assoc]

/-- The files of a store that are not generated in a directory. -/
def handAuthored (dir : Path) (files : SortedMap Path String) : SortedMap Path String :=
  files.filter fun file _ => !isGeneratedIn dir file

theorem mem_handAuthored {dir : Path} {files : SortedMap Path String} {e : Path × String} :
    e ∈ (handAuthored dir files).entries ↔
      e ∈ files.entries ∧ isGeneratedIn dir e.1 = false := by
  rw [handAuthored, SortedMap.mem_filter, Bool.not_eq_true']

/-- What is read of a part of the files is that part of what is read. -/
theorem scanned_part {P : Path → Bool} (hP : SortedMap.Respects P) (dir : Path)
    (files : SortedMap Path String) :
    scanned dir (files.part P) = (scanned dir files).filter fun f => P f.path := by
  simp only [scanned, sources, SortedMap.keys_part, List.filter_map, List.filter_filter]
  have hfilter (p q : Bool) (file : Path) : (p && (q && P file)) = (P file && (p && q)) := by
    cases p <;> cases q <;> cases P file <;> rfl
  simp only [Function.comp_def, hfilter]
  refine List.map_congr_left fun file hfile => ?_
  have hkept : P file = true := (Bool.and_eq_true_iff.1 (List.mem_filter.1 hfile).2).1
  rw [SortedMap.get?_part hP hkept]

theorem isGenerated_of_mem_scanned {dir : Path} {files : SortedMap Path String} {f : SourceFile}
    (h : f ∈ scanned dir files) : f.path.isGenerated = false := by
  obtain ⟨file, hfile, rfl⟩ := List.mem_map.1 h
  simpa using (List.mem_filter.1 hfile).2

/-- Generated files make no difference to what is read. -/
theorem scanned_handAuthored (dir : Path) (files : SortedMap Path String) :
    scanned dir (handAuthored dir files) = scanned dir files := by
  have hrespects : SortedMap.Respects fun file => !isGeneratedIn dir file :=
    fun _ _ heq => congrArg not (isGeneratedIn_congr heq)
  refine (scanned_part hrespects dir files).trans (List.filter_eq_self.2 fun f hf => ?_)
  rw [isGeneratedIn, isGenerated_of_mem_scanned hf, Bool.and_false]
  rfl

/-- The store finds all generated files of a directory when it lists them. -/
def ListsGenerated (store : MemoryStore) (dir : Path) : Prop :=
  ∀ file ∈ store.files.keys, isGeneratedIn dir file = true → file ∈ store.list dir generatedPattern

/-- Cleaning leaves the hand-authored files. -/
theorem files_foldl_delete_list {dir : Path} (h : store.ListsGenerated dir) :
    ((store.list dir generatedPattern).foldl delete store).files =
      handAuthored dir store.files := by
  refine SortedMap.ext_entries fun e => ?_
  rw [mem_files_foldl_delete, mem_handAuthored, and_congr_right_iff]
  intro he
  constructor
  · intro hne
    rw [Bool.eq_false_iff]
    intro hgen
    have hmem := h e.1 (SortedMap.mem_keys.2 ⟨e.2, he⟩) hgen
    exact hne e.1 hmem Std.ReflCmp.compare_self
  · intro hgen file hfile heq
    rw [list_generatedPattern] at hfile
    have hlisted := isGeneratedIn_of_isGeneratedChild (List.mem_filter.1 hfile).2
    rw [isGeneratedIn_congr heq, hgen] at hlisted
    cases hlisted

theorem files_foldl_write (l : List (Path × String)) :
    (l.foldl (fun s e => s.write e.1 e.2) store).files =
      l.foldl (fun files e => files.insert e.1 e.2) store.files := by
  induction l generalizing store with
  | nil => rfl
  | cons e rest ih => exact ih

/-! ## What runs keep -/

/-- Two stores have the same files but for the generated ones of a directory. -/
def AgreeOutside (dir : Path) (store store' : MemoryStore) : Prop :=
  ∀ e, isGeneratedIn dir e.1 = false → (e ∈ store.files.entries ↔ e ∈ store'.files.entries)

/-- A store is changed in nothing but generated files of a directory, and they are listed as before.
-/
structure Keeps (dir : Path) (store store' : MemoryStore) : Prop where
  agree : AgreeOutside dir store store'
  lists : store.ListsGenerated dir → store'.ListsGenerated dir

namespace Keeps

variable {dir : Path} {store store' store'' : MemoryStore}

theorem refl (dir : Path) (store : MemoryStore) : Keeps dir store store := ⟨fun _ _ => Iff.rfl, id⟩

theorem of_files_eq (h : store'.files = store.files) : Keeps dir store store' := by
  refine ⟨fun e _ => by rw [h], fun hlists file hfile hgen => ?_⟩
  have hlist : store'.list dir generatedPattern = store.list dir generatedPattern := by
    rw [list_generatedPattern, list_generatedPattern, h]
  rw [hlist]
  exact hlists file (h ▸ hfile) hgen

theorem trans (h : Keeps dir store store') (h' : Keeps dir store' store'') :
    Keeps dir store store'' where
  agree e he := (h.agree e he).trans (h'.agree e he)
  lists hl := h'.lists (h.lists hl)

theorem write {file : Path} (h : isGeneratedChild dir file = true) (text : String) :
    Keeps dir store (store.write file text) where
  agree e he := by
    refine (SortedMap.mem_insert_of_ne fun heq => ?_).symm
    have hgen := isGeneratedIn_of_isGeneratedChild h
    rw [isGeneratedIn_congr heq, he] at hgen
    cases hgen
  lists hlists f hf hgen := by
    refine List.mem_filter.2 ⟨hf, ?_⟩
    obtain ⟨v, hmem⟩ := SortedMap.mem_keys.1 hf
    rcases SortedMap.key_mem_insert hmem with hkey | ⟨d, hd, hkey⟩
    · obtain rfl : f = file := hkey
      exact h
    · obtain rfl : d.1 = f := hkey
      have hold := hlists d.1 (SortedMap.mem_keys.2 ⟨d.2, hd⟩) hgen
      exact (List.mem_filter.1 hold).2

theorem delete {file : Path} (h : isGeneratedChild dir file = true) :
    Keeps dir store (store.delete file) where
  agree e he := by
    rw [MemoryStore.delete, SortedMap.mem_erase]
    refine ⟨fun hmem => ⟨hmem, fun heq => ?_⟩, And.left⟩
    have hgen := isGeneratedIn_of_isGeneratedChild h
    rw [isGeneratedIn_congr heq, he] at hgen
    cases hgen
  lists hlists f hf hgen := by
    refine List.mem_filter.2 ⟨hf, ?_⟩
    obtain ⟨v, hmem⟩ := SortedMap.mem_keys.1 hf
    have hold := hlists f (SortedMap.mem_keys.2 ⟨v, (SortedMap.mem_erase.1 hmem).1⟩) hgen
    exact (List.mem_filter.1 hold).2

end Keeps

/-- Whatever a run may call for keeps the store, whether it fails or not. -/
theorem keeps_answer {set : Settings} (dry : Bool) (faults : Faults)
    (compiler : CompileRequest → Except CompileError Artifact) {c : Call} (h : set.Allows c)
    (store : MemoryStore) :
    Keeps set.modelsDir store ((host dry faults compiler).answer c store).2 := by
  cases hrefuse : refuse faults c with
  | some answer =>
    simp only [host, hrefuse]
    exact .refl _ _
  | none =>
    simp only [host, hrefuse]
    cases c with
    | write file text =>
      rw [perform]
      split
      · exact .refl _ _
      · exact .write h.1 text
    | delete file =>
      rw [perform]
      split
      · exact .refl _ _
      · exact .delete h.1
    | lock dir =>
      rw [perform, MemoryStore.lock]
      split
      · exact .refl _ _
      · exact .of_files_eq rfl
    | release guard => exact .of_files_eq rfl
    | createDir | list | read | removeLockFile | compile => exact .refl _ _

end MemoryStore

namespace Settings

open MemoryStore

variable {set : Settings} {schema : Schema} {store store' : MemoryStore}
  {compiler : CompileRequest → Except CompileError Artifact}

/-! ## What runs keep, as a whole -/

/-- A run on any host on which its calls keep a store keeps the store as a whole. -/
theorem keeps_execute (set : Settings) {σ : Type} {host : Host σ} (view : σ → MemoryStore)
    (proper : ∀ c state, Exchange.IsProper ⟨c, (host.answer c state).1⟩)
    (step : ∀ c state, set.Allows c →
      Keeps set.modelsDir (view state) (view (host.answer c state).2))
    (input : Except SchemaFailure Schema) (dry : Bool) (state : σ) :
    Keeps set.modelsDir (view state) (view ((set.generate input dry).execute host state).state) := by
  refine execute_induct (R := fun s t => Keeps set.modelsDir (view s) (view t))
    (fun s => .refl _ _) (fun _ _ _ h h' => h.trans h') _ state fun c hc s => step c s ?_
  rw [← map_call_transcript] at hc
  obtain ⟨x, hx, rfl⟩ := List.mem_map.1 hc
  exact (orderly_of_yields (yields_execute proper _ state)).allows x hx

/-- A run leaves its directory free if it was. -/
theorem contains_held_execute {dry : Bool} {input : Except SchemaFailure Schema}
    {faults : List Call → Faults}
    {compiler : List Call → CompileRequest → Except CompileError Artifact}
    {state : MemoryStore × List Call} (h : state.1.held.contains set.modelsDir = false) :
    ((set.generate input dry).execute (unreliable dry faults compiler) state).state.1.held.contains
      set.modelsDir = false := by
  generalize hhost : unreliable dry faults compiler = host
  -- The directory is free when it is asked for, so the answer is a guard for it.
  have hcreate : (host.answer (.createDir set.modelsDir) state).2.1.held = state.1.held := by
    subst hhost
    simp only [unreliable, MemoryStore.host]
    split <;> rfl
  have hlock : (host.answer (.lock set.modelsDir)
      (host.answer (.createDir set.modelsDir) state).2).1 = .ok ⟨set.modelsDir, none⟩ := by
    rw [← hcreate] at h
    subst hhost
    simp only [unreliable, MemoryStore.host, refuse, perform, lock] at h ⊢
    rw [if_neg (by simp [h])]
  rcases state_of_runs_generate (runs_execute host (set.generate input dry) state) with
    ht | ht | ⟨e, herror⟩ | ⟨schema, guard, s₂, s₃, hguard, -, ht⟩
  · rw [ht, h]
  · rw [ht, hcreate, h]
  · rw [herror] at hlock
    cases hlock
  · rw [hguard] at hlock
    obtain rfl := Except.ok.inj hlock
    rw [ht]
    subst hhost
    exact SortedMap.contains_erase_self ..

/-! ## What a run comes to -/

/-- The texts that a run generates next to hand-authored files. -/
def generatedBeside (set : Settings) (schema : Schema) (hand : SortedMap Path String) :
    SortedMap Path String :=
  set.generatedFrom schema (scanned set.modelsDir hand)

/-- A run whose calls do not fail succeeds. Its report, but for the deleted files, and the files
that it leaves are given by the hand-authored ones. -/
theorem exists_runs_generate (schema : Schema)
    (compiler : CompileRequest → Except CompileError Artifact) (mode : set.mode = .sourceOnly)
    (lists : store.ListsGenerated set.modelsDir)
    (free : store.held.contains set.modelsDir = false) :
    let hand := handAuthored set.modelsDir store.files
    let generated := set.generatedBeside schema hand
    ∃ deleted held, (set.generate (.ok schema) false).Runs (reliable compiler) store
      (.ok (set.report schema deleted (scanned set.modelsDir hand)
        (generated.entries.map fun e => .file e.1 e.2.utf8ByteSize) none))
      ⟨generated.entries.foldl (fun files e => files.insert e.1 e.2) hand, held⟩ ∧
      held.contains set.modelsDir = false := by
  intro hand generated
  let locked : MemoryStore := { store with held := SortedSet.add store.held set.modelsDir }
  let cleaned := (locked.list set.modelsDir generatedPattern).foldl delete locked
  let written := generated.entries.foldl (fun s e => s.write e.1 e.2) cleaned
  obtain ⟨gone, hdelete⟩ := runs_deleteAll compiler locked (locked.list set.modelsDir generatedPattern)
  have hlists : locked.ListsGenerated set.modelsDir := lists
  have hcleaned : cleaned.files = hand := files_foldl_delete_list hlists
  have hwritten : written.files =
      generated.entries.foldl (fun files e => files.insert e.1 e.2) hand := by
    rw [← hcleaned]
    exact files_foldl_write generated.entries
  refine ⟨gone, (written.release ⟨set.modelsDir, none⟩).held, ?_, ?_⟩
  · refine runs_generate_ok_iff.2 ⟨by simp [mode, Mode.isEnabled], schema, rfl,
      ⟨set.modelsDir, none⟩, store, locked, written, rfl, ?_, ?_, ?_⟩
    · rw [answer_reliable, perform, lock, if_neg (by simp [free])]
    · refine runs_generateLocked_ok_iff.2 ⟨gone, scanned set.modelsDir hand, _, none, cleaned,
        cleaned, written, ?_, ?_, ?_, ?_, rfl⟩
      · exact runs_bind_iff.2 ⟨_, _, runs_ask_iff.2 (answer_reliable _), hdelete⟩
      · exact hcleaned ▸ runs_scan set.modelsDir
      · exact runs_writeAll _
      · rw [Settings.compile, if_neg (by simp [mode, Mode.needsArtifact])]
        exact runs_pure_iff.2 ⟨rfl, rfl⟩
    · rw [← hwritten]
      rfl
  · exact SortedMap.contains_erase_self ..

/-! ## Independence -/

/-- A run of files in memory whose calls do not fail. -/
def regenerate (set : Settings) (schema : Schema)
    (compiler : CompileRequest → Except CompileError Artifact) (store : MemoryStore) :
    Execution MemoryStore (Except RunError Report) :=
  (set.generate (.ok schema) false).execute (reliable compiler) store

/-- Two runs succeed, report the same of what they generated, and leave the same files. -/
def SameOutcome (run run' : Execution MemoryStore (Except RunError Report)) : Prop :=
  ∃ r r', run.result = .ok r ∧ run'.result = .ok r' ∧ r.generated = r'.generated ∧
    r.plans = r'.plans ∧ r.skippedTypes = r'.skippedTypes ∧ r.diagnostics = r'.diagnostics ∧
    run.state.files = run'.state.files

/-- A store from which a run of some settings can start: the directory of the models is free, and
its generated files are found when they are listed. -/
structure Ready (set : Settings) (store : MemoryStore) : Prop where
  lists : store.ListsGenerated set.modelsDir
  free : store.held.contains set.modelsDir = false

theorem sameOutcome_of_agree (mode : set.mode = .sourceOnly) (ready : set.Ready store)
    (ready' : set.Ready store') (agree : AgreeOutside set.modelsDir store store') :
    SameOutcome (set.regenerate schema compiler store) (set.regenerate schema compiler store') := by
  have hhand : handAuthored set.modelsDir store.files = handAuthored set.modelsDir store'.files := by
    refine SortedMap.ext_entries fun e => ?_
    rw [mem_handAuthored, mem_handAuthored, and_congr_left_iff]
    exact agree e
  obtain ⟨gone, held, ⟨hresult, hstate⟩, -⟩ :=
    exists_runs_generate schema compiler mode ready.lists ready.free
  obtain ⟨gone', held', ⟨hresult', hstate'⟩, -⟩ :=
    exists_runs_generate schema compiler mode ready'.lists ready'.free
  refine ⟨_, _, hresult, hresult', ?_, ?_, ?_, ?_, ?_⟩
  · rw [hhand]; rfl
  · rw [hhand]; rfl
  · rw [hhand]; rfl
  · rw [hhand]; rfl
  · rw [regenerate, regenerate, hstate, hstate', hhand]

/-- The result of a run does not depend on what earlier runs left: from two stores that agree but
for generated files it comes to the same. So it comes to the same when it is repeated, and after any
other run of the directory, whatever failed in that one. -/
theorem sameOutcome_of_agreeOutside (set : Settings) (schema : Schema)
    (compiler : CompileRequest → Except CompileError Artifact) (store store' : MemoryStore)
    (mode : set.mode = .sourceOnly) (ready : set.Ready store) (ready' : set.Ready store')
    (agree : AgreeOutside set.modelsDir store store') :
    let run := set.regenerate schema compiler
    SameOutcome (run store) (run store') ∧ SameOutcome (run store) (run (run store).state) ∧
      ∀ (earlier : Settings) (input : Except SchemaFailure Schema) (dry : Bool)
        (faults : List Call → Faults)
        (compiler' : List Call → CompileRequest → Except CompileError Artifact)
        (before : List Call), earlier.modelsDir = set.modelsDir →
        SameOutcome (run store) (run ((earlier.generate input dry).execute
          (unreliable dry faults compiler') (store, before)).state.1) := by
  intro run
  refine ⟨sameOutcome_of_agree mode ready ready' agree, ?_, ?_⟩
  · have hkeeps : Keeps set.modelsDir store (run store).state :=
      set.keeps_execute id (isProper_host false {} compiler)
        (fun c state hc => keeps_answer false {} compiler hc state) _ _ _
    obtain ⟨gone, held, ⟨-, hstate⟩, hfree⟩ :=
      exists_runs_generate schema compiler mode ready.lists ready.free
    refine sameOutcome_of_agree mode ready ⟨hkeeps.lists ready.lists, ?_⟩ hkeeps.agree
    have hfinal : (run store).state = _ := hstate
    rw [hfinal]
    exact hfree
  · intro earlier input dry faults compiler' before hdir
    have hkeeps : Keeps earlier.modelsDir store ((earlier.generate input dry).execute
        (unreliable dry faults compiler') (store, before)).state.1 :=
      earlier.keeps_execute Prod.fst
        (fun c state => isProper_host dry (faults state.2) (compiler' state.2) c state.1)
        (fun c state hc => keeps_answer dry (faults state.2) (compiler' state.2) hc state.1)
        input dry (store, before)
    rw [hdir] at hkeeps
    refine sameOutcome_of_agree mode ready ⟨hkeeps.lists ready.lists, ?_⟩ hkeeps.agree
    rw [← hdir]
    exact contains_held_execute (hdir ▸ ready.free)

/-- Files in memory with a hand-authored file, and with a generated one that nobody asks for. -/
def staleStore : MemoryStore where
  files := .ofList [(⟨"models/help.rs"⟩, "fn help() {}"), (⟨"models/old.generated.rs"⟩, "old")]

/-- The same without the generated file. -/
def cleanStore : MemoryStore where
  files := .ofList [(⟨"models/help.rs"⟩, "fn help() {}")]

theorem sameOutcome_staleStore :
    let set : Settings := ⟨⟨"models"⟩, "site", .sourceOnly, none⟩
    let run := set.regenerate ⟨[{ handle := "page" }]⟩ fun request => .ok ⟨request.output, []⟩
    SameOutcome (run staleStore) (run cleanStore) := by
  have hstale : isGeneratedIn ⟨"models"⟩ ⟨"models/old.generated.rs"⟩ = true := by decide
  have hentries : staleStore.files.entries =
      cleanStore.files.entries ++ [(⟨"models/old.generated.rs"⟩, "old")] := by decide
  refine (sameOutcome_of_agreeOutside _ _ _ staleStore cleanStore rfl ⟨?_, rfl⟩ ⟨?_, rfl⟩ ?_).1
  · unfold ListsGenerated
    decide
  · unfold ListsGenerated
    decide
  · rintro e he
    rw [hentries, List.mem_append, List.mem_singleton]
    refine ⟨fun h => h.resolve_right ?_, .inl⟩
    rintro rfl
    exact absurd hstale (by simp [he])

end Settings

end ContentModels
