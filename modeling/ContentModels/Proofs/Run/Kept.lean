import ContentModels.Proofs.FileTree.Spelling
import ContentModels.Proofs.Naming.FileNames
import ContentModels.Proofs.Run.Preview

/-!
# Generated files keep their texts

A run writes the text of every plan to a file of its own, and the index to another one, so that no
text is written over. A model can take the file of the index, though, as nothing keeps it from doing
so. Then there is one file less, and the text of that model is lost.

## Main definitions

* `Settings.HoldsPlans` — the texts of plans are in their files, and the index is in its own.
* `indexTaken` — whether a model takes the file of the index.
* `Call.changes` — the files that a call writes or deletes.

## Main statements

* `Settings.length_generatedFiles`, `Settings.holdsPlans_generatedFiles` — the texts of a run.
* `Disk.frame_changes` — a call changes no other files.
* `Disk.read_of_runs_generate`, `MemoryStore.get?_of_runs_generate` — what is in the files after it.
* `Settings.generated_apart` — all of it, for every run that succeeds.
-/

namespace ContentModels

open Program

/-- Whether one of some models takes the file of the index. -/
def indexTaken (plans : List Plan) : Bool :=
  plans.any fun p => Naming.indexLike.contains p.className

namespace Settings

variable {set : Settings} {plans : List Plan} {hand : List Path}

/-- The texts of plans are in their files, and the index is in its own. A model that takes the file
of the index has lost its text to it. -/
structure HoldsPlans (set : Settings) (plans : List Plan) (text? : Path → Option String) : Prop where
  models : ∀ p ∈ plans, p.className ∉ Naming.indexLike →
    text? (set.modelPath p.className) = some (p.render set.space)
  index : ∃ hand, text? set.indexPath = some (renderIndex set.space plans hand)
  lost : ∀ p ∈ plans, p.className ∈ Naming.indexLike → set.modelPath p.className = set.indexPath

/-! ## The texts of a run -/

theorem modelPath_className (set : Settings) (p : Plan) :
    set.modelPath p.className = set.modelsDir.file p.file := rfl

theorem indexPath_eq (set : Settings) :
    set.indexPath = set.modelsDir.file Rendering.indexFileName := rfl

/-- A model that takes the file of the index is known by its name. -/
theorem compare_modelPath_iff (set : Settings) {p : Plan} (h : p.IsFiled) :
    compare (set.modelPath p.className) set.indexPath = .eq ↔ p.className ∈ Naming.indexLike := by
  rw [modelPath_className, indexPath_eq,
    Path.compare_file_iff h.isName isGeneratedName_indexFileName.toIsName, h.eq_index_iff]

section Texts

variable (distinct : (plans.map Plan.file).Nodup) (filed : ∀ p ∈ plans, p.IsFiled)

include distinct filed

/-- The texts of plans are as many as the plans. -/
theorem perm_modelTexts (set : Settings) :
    (SortedMap.ofList (plans.map fun p => (set.modelPath p.className, p.render set.space))).entries.Perm
      (plans.map fun p => (set.modelPath p.className, p.render set.space)) := by
  apply SortedMap.perm_ofList
  rw [List.pairwise_map]
  apply (List.pairwise_map.1 distinct).imp_of_mem
  intro p q hp hq hne heq
  dsimp only at heq
  rw [modelPath_className, modelPath_className] at heq
  exact hne ((Path.compare_file_iff (filed p hp).isName (filed q hq).isName).1 heq)

theorem mem_modelTexts (set : Settings) {p : Plan} (hp : p ∈ plans) :
    (set.modelPath p.className, p.render set.space) ∈ (SortedMap.ofList (plans.map fun p =>
      (set.modelPath p.className, p.render set.space))).entries :=
  (perm_modelTexts distinct filed set).mem_iff.2 (List.mem_map.2 ⟨p, hp, rfl⟩)

/-- There is one text for each plan, and one for the index unless a model takes its file. -/
theorem length_generatedFiles (set : Settings) (hand : List Path) :
    (set.generatedFiles plans hand).entries.length =
      plans.length + if indexTaken plans then 0 else 1 := by
  have hperm := perm_modelTexts distinct filed set
  have hlength := hperm.length_eq.trans (List.length_map _)
  rw [generatedFiles]
  cases hget : (SortedMap.ofList (plans.map fun p =>
      (set.modelPath p.className, p.render set.space))).get? set.indexPath with
  | some text =>
    obtain ⟨k, hmem, hk⟩ := SortedMap.get?_eq_some_iff.1 hget
    obtain ⟨p, hp, heq⟩ := List.mem_map.1 (hperm.subset hmem)
    obtain ⟨rfl, -⟩ := Prod.mk.inj heq
    have hlike := (compare_modelPath_iff set (filed p hp)).1 (Std.OrientedCmp.eq_symm hk)
    have htaken : indexTaken plans = true := List.any_eq_true.2 ⟨p, hp, by simpa using hlike⟩
    rw [SortedMap.length_insert_of_get? hget, hlength, if_pos htaken, Nat.add_zero]
  | none =>
    have hfree : indexTaken plans = false := by
      refine List.any_eq_false.2 fun p hp hlike => ?_
      have heq := (compare_modelPath_iff set (filed p hp)).2 (by simpa using hlike)
      have hne := SortedMap.get?_eq_none_iff.1 hget _ (mem_modelTexts distinct filed set hp)
      dsimp only at hne
      exact hne (Std.OrientedCmp.eq_symm heq)
    rw [(SortedMap.perm_insert_of_new hget _).length_eq, List.length_cons, hlength, hfree,
      if_neg Bool.false_ne_true]

/-- The texts of a run hold those of its plans. -/
theorem holdsPlans_generatedFiles (set : Settings) (hand : List Path) :
    set.HoldsPlans plans (set.generatedFiles plans hand).get? := by
  constructor
  case models =>
    intro p hp hlike
    have hne := mt (compare_modelPath_iff set (filed p hp)).1 hlike
    have hmem := mem_modelTexts distinct filed set hp
    rw [generatedFiles, SortedMap.get?_insert, if_neg hne]
    exact SortedMap.get?_eq_some_iff.2 ⟨_, hmem, Std.ReflCmp.compare_self⟩
  case index =>
    refine ⟨hand, ?_⟩
    rw [generatedFiles, SortedMap.get?_insert, if_pos Std.ReflCmp.compare_self]
  case lost =>
    intro p hp hlike
    rw [modelPath_className, (filed p hp).eq_index_iff.2 hlike, indexPath_eq]

end Texts

/-- Where all texts of a map are in their files, those of plans are that the map holds. -/
theorem HoldsPlans.of_entries {generated : SortedMap Path String} {text? : Path → Option String}
    (h : set.HoldsPlans plans generated.get?) (filed : ∀ p ∈ plans, p.IsFiled)
    (hnames : ∀ e ∈ generated.entries, ∃ x, IsGeneratedName x ∧ e.1 = set.modelsDir.file x)
    (htexts : ∀ e ∈ generated.entries, text? e.1 = some e.2) : set.HoldsPlans plans text? := by
  have hfound {x text : String} (hx : Path.IsName x)
      (hget : generated.get? (set.modelsDir.file x) = some text) :
      text? (set.modelsDir.file x) = some text := by
    obtain ⟨k, hmem, hk⟩ := SortedMap.get?_eq_some_iff.1 hget
    obtain ⟨y, hy, hkey⟩ := hnames _ hmem
    obtain rfl : k = set.modelsDir.file y := hkey
    obtain rfl := (Path.compare_file_iff hx hy.toIsName).1 hk
    exact htexts _ hmem
  obtain ⟨hand, hindex⟩ := h.index
  exact ⟨fun p hp hlike => hfound (filed p hp).isName (h.models p hp hlike),
    ⟨hand, hfound isGeneratedName_indexFileName.toIsName hindex⟩, h.lost⟩

/-! ## Runs on any host -/

/-- There is one answer for each text that is written. -/
theorem length_of_runs_writeAll {σ : Type} {host : Host σ} {s t : σ}
    {entries : List (Path × String)}
    {written : List Written} (h : (writeAll entries).Runs host s (.ok written) t) :
    written.length = entries.length := by
  induction entries generalizing s written with
  | nil =>
    obtain ⟨hdone, -⟩ := runs_pure_iff.1 h
    rw [Except.ok.inj hdone]
    rfl
  | cons e rest ih =>
    obtain ⟨done, m, more, -, hrest, rfl⟩ := runs_writeAll_cons_ok_iff.1 h
    rw [List.length_cons, ih hrest, List.length_cons]

/-- What is known of a report: how many texts there are, and that they hold those of the plans. -/
structure IsApart (set : Settings) (r : Report) : Prop where
  filed : ∀ p ∈ r.plans, p.IsFiled
  written : r.written.length = r.generated.entries.length
  generated : r.generated.entries.length = r.plans.length + if indexTaken r.plans then 0 else 1
  named : ∀ e ∈ r.generated.entries, ∃ x, IsGeneratedName x ∧ e.1 = set.modelsDir.file x
  holds : set.HoldsPlans r.plans r.generated.get?

theorem isApart_report {schema : Schema} {deleted : List Path} {sources : List SourceFile}
    {written : List Written} {artifact : Option Artifact}
    (h : written.length = (set.generatedFrom schema sources).entries.length) :
    set.IsApart (set.report schema deleted sources written artifact) := by
  obtain ⟨distinct, filed⟩ := schema.files_plan (HandCode.ofFiles sources).1
  exact {
    filed := filed
    written := h
    generated := length_generatedFiles distinct filed set _
    named := fun e he => set.exists_name_of_mem_generatedFiles schema _ _ he
    holds := holdsPlans_generatedFiles distinct filed set _ }

theorem isApart_of_runs_generate {σ : Type} {host : Host σ} {s t : σ} {dry : Bool}
    {input : Except SchemaFailure Schema} {r : Report}
    (h : (set.generate input dry).Runs host s (.ok r) t) : set.IsApart r := by
  obtain ⟨-, schema, -, guard, s₁, s₂, s₃, -, -, hrun, -⟩ := runs_generate_ok_iff.1 h
  obtain ⟨deleted, sources, written, artifact, t₁, t₂, t₃, -, -, hwrite, -, rfl⟩ :=
    runs_generateLocked_ok_iff.1 hrun
  exact isApart_report (length_of_runs_writeAll hwrite)

end Settings

/-! ## What is in the files -/

/-- The files that a call writes or deletes. -/
def Call.changes : Call → List Path
  | .write file _ | .delete file => [file]
  | .lock dir => [dir.file Disk.lockFileName]
  | .removeLockFile guard => guard.file.toList
  | .compile request => [request.output]
  | .createDir _ | .list .. | .read _ | .release _ => []

namespace Disk

variable {set : Settings} {input : Except SchemaFailure Schema} {tools : Toolchain} {d d' : Disk}
  {l : Location} {dir : Path} {r : Report}

theorem frame_createDir (d : Disk) (dir : Path) (touched : Location → Prop) :
    FileTree.Frame touched d.tree (d.createDir dir).2.tree :=
  (FileTree.createDirs_frame d.tree dir).mono fun _ hm => hm.elim

theorem frame_createParent (d : Disk) (file : Path) (touched : Location → Prop) :
    FileTree.Frame touched d.tree (d.createParent file).2.tree := by
  unfold createParent
  split
  · split
    · exact .refl _ _
    · exact frame_createDir d _ touched
  · exact .refl _ _

theorem frame_write (d : Disk) (file : Path) (text : String) :
    FileTree.Frame (file.place d.tree.here = ·) d.tree (d.write file text).2.tree := by
  have hparent := frame_createParent d file (file.place d.tree.here = ·)
  unfold write
  generalize d.createParent file = created at hparent
  obtain ⟨_ | _, d₁⟩ := created
  · exact hparent
  · dsimp only
    split
    · next t hwrite =>
      have hwritten := (FileTree.write_grown hwrite []).toFrame
      refine hparent.trans (hwritten.mono fun m hm => ?_)
      rw [← hparent.here]
      exact hwritten.place_of_find hm
    · exact hparent

theorem frame_delete (d : Disk) (file : Path) :
    FileTree.Frame (file.place d.tree.here = ·) d.tree (d.delete file).2.tree := by
  unfold delete
  split
  · next t hdelete =>
    refine (FileTree.delete_frame hdelete).mono ?_
    rintro m ⟨content, hfind⟩
    exact FileTree.place_of_find hfind
  · exact .refl _ _
  · exact .refl _ _

theorem frame_lock (d : Disk) (dir : Path) :
    FileTree.Frame ((dir.file lockFileName).place d.tree.here = ·) d.tree (d.lock dir).2.tree := by
  simp only [lock]
  split
  · exact .refl _ _
  split
  · split
    · next t hcreate =>
      have hcreated := FileTree.createNew_frame hcreate
      exact hcreated.mono fun m hm => hcreated.place_of_find hm
    · exact .refl _ _
    · exact .refl _ _
  · exact .refl _ _

theorem frame_removeLockFile (d : Disk) (guard : Guard) : FileTree.Frame
    (fun m => ∃ file ∈ guard.file.toList, file.place d.tree.here = m) d.tree
      (d.removeLockFile guard).tree := by
  unfold removeLockFile
  split
  · exact .refl _ _
  next file hfile =>
  split
  · next t hdelete =>
    refine (FileTree.delete_frame hdelete).mono ?_
    rintro m ⟨content, hfind⟩
    exact ⟨file, by simp [hfile], FileTree.place_of_find hfind⟩
  · exact .refl _ _

/-- A call changes no other files, wherever their paths lead. -/
theorem frame_changes (dry : Bool) (tools : Toolchain) (c : Call) (d : Disk) :
    FileTree.Frame (fun m => ∃ file ∈ c.changes, file.place d.tree.here = m) d.tree
      ((host dry tools).answer c d).2.tree := by
  cases c with
  | list | read | release => exact .refl _ _
  | createDir dir =>
    cases dry with
    | true => exact .refl _ _
    | false => exact frame_createDir d dir _
  | write file text =>
    cases dry with
    | true => exact .refl _ _
    | false =>
      rw [answer_write]
      exact (frame_write d file text).mono fun m hm => ⟨file, List.mem_singleton_self _, hm⟩
  | delete file =>
    cases dry with
    | true => exact .refl _ _
    | false => exact (frame_delete d file).mono fun m hm => ⟨file, List.mem_singleton_self _, hm⟩
  | lock dir => exact (frame_lock d dir).mono fun m hm => ⟨_, List.mem_singleton_self _, hm⟩
  | removeLockFile guard => exact frame_removeLockFile d guard
  | compile request =>
    rw [state_compile]
    have hframe := frame_compile d tools request
    refine hframe.mono ?_
    rintro m ⟨content, hfind⟩
    exact ⟨request.output, List.mem_singleton_self _, hframe.place_of_find hfind⟩

/-- A run changes no directories. -/
theorem frame_of_runs {α : Type} {p : Program α} {a : α} (h : p.Runs (host false tools) d a d') :
    FileTree.Frame (fun _ => True) d.tree d'.tree := by
  rw [← h.2]
  exact execute_induct (R := fun d d' : Disk => FileTree.Frame (fun _ => True) d.tree d'.tree)
    (fun _ => .refl _ _) (fun _ _ _ => .trans) p d
    fun c _ d => (frame_changes false tools c d).mono fun _ _ => trivial

/-- The files of a directory that was created lie somewhere. -/
theorem exists_addresses_of_createDir (h : d.createDir dir = (.ok (), d')) :
    ∃ l, d'.tree.Addresses dir l := by
  by_cases hdir : dir.chars = []
  · exact ⟨_, .inr ⟨hdir, rfl⟩⟩
  · obtain ⟨-, l, hfind⟩ := createDir_spec hdir h
    exact ⟨l, .of_find hfind⟩

/-- Giving a directory back changes no file but the one that tells other processes. -/
theorem removeLockFile_frame {guard : Guard} (hdir : d.tree.Addresses dir l)
    (hguard : ∀ file, guard.file = some file → file = dir.file lockFileName) :
    FileTree.Frame (· = l.child lockFileName) d.tree (d.removeLockFile guard).tree := by
  unfold removeLockFile
  split
  · exact .refl _ _
  next file hfile =>
  rw [hguard file hfile, FileTree.delete_entry (hdir.find_file isName_lockFileName)]
  cases hget : d.tree.get? (l.child lockFileName) with
  | none => exact .refl _ _
  | some n =>
    cases n with
    | dir => exact .refl _ _
    | file content => exact .erase (by simp [hget])

theorem file_of_lock {guard : Guard} (h : d.lock dir = (.ok guard, d')) (file : Path)
    (hfile : guard.file = some file) : file = dir.file lockFileName := by
  simp only [lock] at h
  split at h
  · cases (Prod.ext_iff.1 h).1
  split at h
  · split at h
    · obtain rfl := Except.ok.inj (Prod.ext_iff.1 h).1
      exact (Option.some.inj hfile).symm
    · cases (Prod.ext_iff.1 h).1
    · cases (Prod.ext_iff.1 h).1
  · obtain rfl := Except.ok.inj (Prod.ext_iff.1 h).1
    cases hfile

/-- After a run that succeeds every text that it generated is in its file. -/
theorem read_of_runs_generate (h : (set.generate input false).Runs (host false tools) d (.ok r) d')
    {e : Path × String} (he : e ∈ r.generated.entries) : d'.tree.read e.1 = .ok e.2 := by
  obtain ⟨-, schema, -, guard, d₁, d₂, d₃, hcreate, hlock, hrun, rfl⟩ :=
    Settings.runs_generate_ok_iff.1 h
  obtain ⟨l, hdir₁⟩ := exists_addresses_of_createDir hcreate
  have hdir₂ := hdir₁.of_frame (lock_frame hdir₁ hlock)
  obtain ⟨deleted, sources, written, artifact, t₁, t₂, t₃, hclean, hscan, hwrite, hcompile, rfl⟩ :=
    Settings.runs_generateLocked_ok_iff.1 hrun
  have hdir : t₂.tree.Addresses set.modelsDir l := by
    exact (hdir₂.of_frame (frame_of_runs hclean)).of_frame (frame_of_runs hscan)
  have hnames : ∀ e ∈ (set.generatedFrom schema sources).entries, ∃ x, IsGeneratedName x ∧
      e.1 = set.modelsDir.file x := fun e he =>
    set.exists_name_of_mem_generatedFiles schema _ _ he
  obtain ⟨hframe, htexts⟩ := writeAll_spec hdir hnames (SortedMap.inOrder _) hwrite
  have hcompiled := compile_step hcompile
  have hdir₃ := (hdir.of_frame hframe).of_frame hcompiled
  have hunlocked := removeLockFile_frame hdir₃ (file_of_lock hlock)
  -- Neither the artifact nor the file that tells other processes is one that was generated.
  obtain ⟨x, hx, hpath⟩ := hnames e he
  have hsource := rs_suffix_of_endsGenerated hx.ending
  have hfile : (d₃.removeLockFile guard).tree.file? (l.child x) = some (.text e.2) := by
    rw [hunlocked.files _ fun heq => ne_lockFileName hsource (Location.child_inj.1 heq).2,
      hcompiled.files _ fun ⟨m, heq⟩ => ne_artifactFileName hsource (Location.child_inj.1 heq).2,
      htexts e he x hx.toIsName hpath]
  change (d₃.removeLockFile guard).tree.read e.1 = .ok e.2
  rw [hpath, FileTree.read_entry ((hdir₃.of_frame hunlocked).find_file hx.toIsName),
    FileTree.file?_eq_some_iff.1 hfile]

end Disk

namespace MemoryStore

variable {set : Settings} {input : Except SchemaFailure Schema} {faults : Faults}
  {compiler : CompileRequest → Except CompileError Artifact} {store store' : MemoryStore} {r : Report}

theorem files_of_runs_writeAll {entries : List (Path × String)} {written : List Written}
    (h : (writeAll entries).Runs (host false faults compiler) store (.ok written) store') :
    store'.files = entries.foldl (fun files e => files.insert e.1 e.2) store.files := by
  induction entries generalizing store written with
  | nil => rw [(runs_pure_iff.1 h).2, List.foldl_nil]
  | cons e rest ih =>
    obtain ⟨done, m, more, hwrite, hrest, -⟩ := runs_writeAll_cons_ok_iff.1 h
    rw [ih hrest, List.foldl_cons]
    simp only [host] at hwrite
    split at hwrite
    · next hrefuse =>
      obtain ⟨reason, -, hanswer⟩ := Option.map_eq_some_iff.1 hrefuse
      rw [← hanswer] at hwrite
      cases (Prod.ext_iff.1 hwrite).1
    · obtain rfl := (Prod.ext_iff.1 hwrite).2
      rfl

/-- After a run that succeeds every text that it generated is in its file, whatever can be made to
fail. -/
theorem get?_of_runs_generate
    (h : (set.generate input false).Runs (host false faults compiler) store (.ok r) store')
    {e : Path × String} (he : e ∈ r.generated.entries) : store'.files.get? e.1 = some e.2 := by
  obtain ⟨-, schema, -, guard, s₁, s₂, s₃, -, -, hrun, rfl⟩ := Settings.runs_generate_ok_iff.1 h
  obtain ⟨deleted, sources, written, artifact, t₁, t₂, t₃, -, -, hwrite, hcompile, rfl⟩ :=
    Settings.runs_generateLocked_ok_iff.1 hrun
  obtain rfl := eq_of_runs_compile hcompile
  have hfiles := files_of_runs_writeAll hwrite
  change s₃.files.get? e.1 = some e.2
  have hget := SortedMap.get?_of_mem he
  rw [hfiles, SortedMap.get?_foldl_insert (SortedMap.inOrder _)]
  exact Option.or_eq_some_iff.2 (.inl hget)

end MemoryStore

/-- No generated file is written over by another one, except that the index takes the place of a
model with one of three names. The files of the plans of a schema are distinct and well-formed; a
run that succeeds has one text for each plan and one for the index, and writes as many, or one less
if a model takes the file of the index; and after it the file of every other plan holds the text of
the plan. -/
theorem Settings.generated_apart (set : Settings) (input : Except SchemaFailure Schema)
    (r : Report) :
    (∀ (schema : Schema) (code : HandCode), ((schema.plan code).plans.map Plan.file).Nodup ∧
      ∀ p ∈ (schema.plan code).plans, p.IsFiled) ∧
    (∀ (σ : Type) (host : Host σ) (dry : Bool) (s : σ),
      ((set.generate input dry).execute host s).result = .ok r →
      r.written.length = r.generated.entries.length ∧
      r.generated.entries.length = r.plans.length + (if indexTaken r.plans then 0 else 1) ∧
      set.HoldsPlans r.plans r.generated.get?) ∧
    (∀ (tools : Toolchain) (d : Disk),
      let run := (set.generate input false).execute (Disk.host false tools) d
      run.result = .ok r →
      set.HoldsPlans r.plans fun file => (run.state.tree.read file).toOption) ∧
    ∀ (faults : Faults) (compiler : CompileRequest → Except CompileError Artifact)
      (store : MemoryStore),
      let run := (set.generate input false).execute (MemoryStore.host false faults compiler) store
      run.result = .ok r → set.HoldsPlans r.plans run.state.files.get? := by
  refine ⟨Schema.files_plan, ?_, ?_, ?_⟩
  · intro σ host dry s h
    have hapart := isApart_of_runs_generate ⟨h, rfl⟩
    exact ⟨hapart.written, hapart.generated, hapart.holds⟩
  · intro tools d run h
    have hruns : (set.generate input false).Runs (Disk.host false tools) d (.ok r) run.state := ⟨h, rfl⟩
    have hapart := isApart_of_runs_generate hruns
    refine hapart.holds.of_entries hapart.filed hapart.named fun e he => ?_
    rw [Disk.read_of_runs_generate hruns he]
    rfl
  · intro faults compiler store run h
    have hruns : (set.generate input false).Runs (MemoryStore.host false faults compiler) store (.ok r)
        run.state := ⟨h, rfl⟩
    have hapart := isApart_of_runs_generate hruns
    exact hapart.holds.of_entries hapart.filed hapart.named fun e he =>
      MemoryStore.get?_of_runs_generate hruns he

/-- A type whose model takes the file of the index. -/
def taking : Schema where
  types := [{ handle := "page", name := some "_models" }]

/-- The plan of that type. -/
def takingPlan : Plan where
  handle := "page"
  className := "_models"

theorem plans_taking : (taking.plan {}).plans = [takingPlan] := by
  have hcompose : taking.compose ⟨taking.types[0], by simp [taking]⟩ [] = .ok {} :=
    Schema.compose_of_alone rfl rfl rfl
  change (Planning.add {} taking {} ⟨taking.types[0], _⟩).result.plans = _
  simp only [Planning.add, Planning.addNamed, Schema.planType, hcompose]
  decide

/-- A run of files in memory for that type has one text, that of the index. On a disk it succeeds as
well, and leaves the same. -/
theorem Settings.generated_apart_taking :
    (let run := ((forDir "models").generate (.ok taking) false).execute
        (MemoryStore.host false {} anyCompiler) {}
      ∃ r, run.result = .ok r ∧ r.plans = [takingPlan] ∧ r.written.length = 1 ∧
        r.generated.entries.length = 1 ∧ (forDir "models").HoldsPlans r.plans run.state.files.get?) ∧
    (let run := ((forDir "models").generate (.ok taking) false).execute
        (Disk.host false noCompiler) {}
      ∃ r, run.result = .ok r ∧ (forDir "models").HoldsPlans r.plans fun file =>
        (run.state.tree.read file).toOption) := by
  constructor
  · have lists : ({} : MemoryStore).ListsGenerated ⟨"models"⟩ := by
      unfold MemoryStore.ListsGenerated
      decide
    obtain ⟨deleted, held, ⟨hresult, -⟩, -⟩ :=
      @exists_runs_generate (forDir "models") {} taking anyCompiler rfl lists (by decide)
    generalize hreport : (forDir "models").report _ _ _ _ _ = r at hresult
    have hplans : r.plans = [takingPlan] := hreport ▸ plans_taking
    obtain ⟨-, hcounts, -, hmemory⟩ := generated_apart (forDir "models") (.ok taking) r
    obtain ⟨hwritten, hgenerated, -⟩ :=
      hcounts MemoryStore (MemoryStore.host false {} anyCompiler) false {} hresult
    have hlength : r.generated.entries.length = 1 := by
      rw [hgenerated, hplans]
      decide
    exact ⟨r, hresult, hplans, hwritten.trans hlength, hlength, hmemory {} anyCompiler {} hresult⟩
  · obtain ⟨r, hr⟩ : ∃ r, (((forDir "models").generate (.ok taking) false).execute
        (Disk.host false noCompiler) {}).result = .ok r :=
      Disk.exists_runs_generate (t := modelsTree) (l := ⟨["models"]⟩) rfl (by decide) (by decide)
        isNamed_modelsTree (by decide) (by decide)
    exact ⟨r, hr, (generated_apart (forDir "models") (.ok taking) r).2.2.1 noCompiler {} hr⟩

end ContentModels
