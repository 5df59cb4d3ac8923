import ContentModels.Proofs.Disk.Steps

/-!
# What a run leaves on a disk

After a run that succeeds the generated files are there with their texts, no other ones are left
that a listing finds, and the hand-authored files are those that were read. The directory is free
again.

## Main definitions

* `Disk.Settled` — what a run that succeeds leaves.
* `Disk.Completed` — and what it leaves alone and reports.

## Main statements

* `Disk.exists_completed`, `Disk.exists_settled` — what a run that succeeds comes to.
-/

namespace ContentModels

open Program

/-! ## Names that differ -/

variable {x : String}

theorem rs_suffix_of_endsGenerated (h : EndsGenerated x) : ".rs".toList <:+ x.toList :=
  List.IsSuffix.trans (by decide) h

theorem ne_lockFileName (h : ".rs".toList <:+ x.toList) : x ≠ Disk.lockFileName := by
  rintro rfl
  revert h
  decide

theorem ne_artifactFileName {space : String} (h : ".rs".toList <:+ x.toList) :
    x ≠ Naming.artifactFileName space := by
  rintro rfl
  rcases List.suffix_or_suffix_of_suffix h (Naming.artifactSuffix_suffix space) with h | h
  · revert h
    decide
  · revert h
    decide

theorem lockFileName_ne_artifactFileName (space : String) :
    Disk.lockFileName ≠ Naming.artifactFileName space := by
  intro heq
  have h := Naming.artifactSuffix_suffix space
  rw [← heq] at h
  revert h
  decide

namespace Disk

variable {set : Settings} {schema : Schema} {sources : List SourceFile} {l : Location}
  {tools : Toolchain} {d d' : Disk}

/-- What a run has generated on a disk, and from what. -/
structure Generated (set : Settings) (schema : Schema) (sources : List SourceFile) (l : Location)
    (d : Disk) : Prop where
  find : d.tree.find set.modelsDir = .ok (.node l .dir)
  named : d.tree.IsNamed
  /-- The generated files are there. -/
  texts : ∀ e ∈ (set.generatedFrom schema sources).entries, ∃ x, IsGeneratedName x ∧
    e.1 = set.modelsDir.file x ∧ d.tree.file? (l.child x) = some (.text e.2)
  /-- No others are, unless a search for them gets stuck. -/
  only : Glob.isStuck set.modelsDir = false → ∀ x, EndsGenerated x →
    (d.tree.file? (l.child x)).isSome = true →
    ∃ e ∈ (set.generatedFrom schema sources).entries, e.1 = set.modelsDir.file x
  /-- The hand-authored files are those that were read. -/
  scans : ∀ dry tools, (scan set.modelsDir).Runs (host dry tools) d (.ok sources) d

/-- What a run that succeeds leaves on a disk. -/
structure Settled (set : Settings) (schema : Schema) (sources : List SourceFile) (l : Location)
    (d : Disk) : Prop extends Generated set schema sources l d where
  free : d.held.contains l.path = false
  unlocked : d.tree.get? (l.child lockFileName) = none

/-- Changes of other files than source files make no difference to what was generated. -/
theorem Generated.of_frame {touched : Location → Prop} (h : Generated set schema sources l d)
    (hframe : FileTree.Frame touched d.tree d'.tree)
    (hother : ∀ x, ".rs".toList <:+ x.toList → ¬touched (l.child x)) :
    Generated set schema sources l d' where
  find := hframe.find h.find
  named := hframe.named h.named
  texts e he := by
    obtain ⟨x, hx, hpath, htext⟩ := h.texts e he
    refine ⟨x, hx, hpath, ?_⟩
    rw [hframe.files _ (hother x (rs_suffix_of_endsGenerated hx.ending)), htext]
  only hstuck x hx hsome := by
    rw [hframe.files _ (hother x (rs_suffix_of_endsGenerated hx))] at hsome
    exact h.only hstuck x hx hsome
  scans dry tools := by
    refine (runs_scan_congr h.named (hframe.named h.named) (.of_find h.find)
      (.of_find (hframe.find h.find)) ?_ (h.scans dry tools)).1
    exact fun x hx _ => hframe.files _ (hother x hx)

/-- Compiling changes nothing but the artifact, if there is any. -/
theorem compile_step {generated : SortedMap Path String} {artifact : Option Artifact}
    (h : (set.compile false (set.compileRequest sources generated)).run.Runs (host false tools) d
      (.ok artifact) d') :
    FileTree.Frame (fun m => ∃ l : Location, m = l.child (Naming.artifactFileName set.space))
      d.tree d'.tree := by
  rw [Settings.compile] at h
  split at h
  · obtain ⟨made, d₁, hask, h⟩ := runs_bind_ok_iff.1 h
    obtain ⟨-, rfl⟩ := runs_pure_iff.1 h
    have hanswer : d.compile tools (set.compileRequest sources generated) = (.ok made, d') :=
      runs_ask_iff.1 (runs_attempt_ok_iff.1 hask)
    have houtput : (set.compileRequest sources generated).output =
        (set.artifactDir.getD (set.modelsDir.file Settings.artifactDirName)).file
          (Naming.artifactFileName set.space) := by
      rw [Settings.compileRequest, Settings.artifactPath]
    have hframe := compile_frame (d := d) tools (Naming.isName_artifactFileName set.space) houtput
    rwa [hanswer] at hframe
  · obtain ⟨-, rfl⟩ := runs_pure_iff.1 h
    exact .refl _ _

/-- Writing completes what was cleaned and read. -/
theorem Generated.of_written (named : d.tree.IsNamed)
    (hfind : d.tree.find set.modelsDir = .ok (.node l .dir))
    (hcleaned : Glob.isStuck set.modelsDir = false → ∀ x, EndsGenerated x →
      d.tree.file? (l.child x) = none)
    (hscan : (scan set.modelsDir).Runs (host false tools) d (.ok sources) d)
    (hframe : FileTree.Frame (fun m => ∃ e ∈ (set.generatedFrom schema sources).entries, ∃ x,
      EndsGenerated x ∧ e.1 = set.modelsDir.file x ∧ m = l.child x) d.tree d'.tree)
    (htexts : ∀ e ∈ (set.generatedFrom schema sources).entries, ∃ x, IsGeneratedName x ∧
      e.1 = set.modelsDir.file x ∧ d'.tree.file? (l.child x) = some (.text e.2)) :
    Generated set schema sources l d' where
  find := hframe.find hfind
  named := hframe.named named
  texts := htexts
  only hstuck x hx hsome := by
    by_contra hnone
    rw [hframe.files _ ?_, hcleaned hstuck x hx] at hsome
    · cases hsome
    · rintro ⟨e, he, y, -, hpath, heq⟩
      obtain ⟨-, rfl⟩ := Location.child_inj.1 heq
      exact hnone ⟨e, he, hpath⟩
  scans dry tools' := by
    have hsame : ∀ x, ".rs".toList <:+ x.toList → ¬EndsGenerated x →
        d'.tree.file? (l.child x) = d.tree.file? (l.child x) := by
      intro x _ hx
      refine hframe.files _ ?_
      rintro ⟨e, he, y, hy, -, heq⟩
      obtain ⟨-, rfl⟩ := Location.child_inj.1 heq
      exact hx hy
    exact (runs_scan_congr named (hframe.named named) (.of_find hfind) (.of_find (hframe.find hfind))
      hsame hscan).1

/-- Where a run that has its directory changes files: generated files that it finds, those that it
writes, and the artifact. -/
def MayWrite (set : Settings) (generated : SortedMap Path String) (l m : Location) : Prop :=
  (Glob.isStuck set.modelsDir = false ∧ ∃ x, EndsGenerated x ∧ m = l.child x) ∨
    (∃ e ∈ generated.entries, ∃ x, EndsGenerated x ∧ e.1 = set.modelsDir.file x ∧ m = l.child x) ∨
    ∃ k : Location, m = k.child (Naming.artifactFileName set.space)

/-- In the directory itself these are generated files and the artifact. -/
theorem MayWrite.of_child {generated : SortedMap Path String}
    (h : MayWrite set generated l (l.child x)) :
    (EndsGenerated x ∧ (Glob.isStuck set.modelsDir = false ∨
      ∃ e ∈ generated.entries, e.1 = set.modelsDir.file x)) ∨
      x = Naming.artifactFileName set.space := by
  rcases h with ⟨hstuck, y, hy, heq⟩ | ⟨e, he, y, hy, hpath, heq⟩ | ⟨k, heq⟩
  · obtain ⟨-, rfl⟩ := Location.child_inj.1 heq
    exact .inl ⟨hy, .inl hstuck⟩
  · obtain ⟨-, rfl⟩ := Location.child_inj.1 heq
    exact .inl ⟨hy, .inr ⟨e, he, hpath⟩⟩
  · exact .inr (Location.child_inj.1 heq).2

theorem not_mayWrite_lockFile {generated : SortedMap Path String} :
    ¬MayWrite set generated l (l.child lockFileName) := by
  intro h
  rcases h.of_child with ⟨hgen, -⟩ | heq
  · exact ne_lockFileName (rs_suffix_of_endsGenerated hgen) rfl
  · exact lockFileName_ne_artifactFileName _ heq

/-- The part of a run during which it has the directory generates the files. -/
theorem exists_generated {r : Report} (named : d.tree.IsNamed)
    (hfind : d.tree.find set.modelsDir = .ok (.node l .dir))
    (h : (set.generateLocked schema false).run.Runs (host false tools) d (.ok r) d') :
    ∃ sources, Generated set schema sources l d' ∧
      FileTree.Frame (MayWrite set (set.generatedFrom schema sources) l) d.tree d'.tree ∧
      ∃ deleted written artifact, r = set.report schema deleted sources written artifact := by
  obtain ⟨deleted, sources, written, artifact, d₁, d₂, d₃, hclean, hscan, hwrite, hcompile, hreport⟩ :=
    Settings.runs_generateLocked_ok_iff.1 h
  obtain ⟨hframe₁, hcleaned⟩ := clean_spec named hfind hclean
  have named₁ := hframe₁.named named
  have hfind₁ := hframe₁.find hfind
  have hscanned : (scan set.modelsDir).Runs (host false tools) d₁ (.ok sources) d₁ ∧ d₂ = d₁ :=
    runs_scan_congr named₁ named₁ (.of_find hfind₁) (.of_find hfind₁) (fun _ _ _ => rfl) hscan
  obtain ⟨hscan, rfl⟩ := hscanned
  have hnames : ∀ e ∈ (set.generatedFrom schema sources).entries, ∃ x, IsGeneratedName x ∧
      e.1 = set.modelsDir.file x := fun e he =>
    set.exists_name_of_mem_generatedFiles schema _ _ he
  obtain ⟨hframe₂, htexts⟩ := writeAll_spec (.of_find hfind₁) hnames (SortedMap.inOrder _) hwrite
  have hframe₃ := compile_step hcompile
  refine ⟨sources, ?_, ?_, deleted, written, artifact, hreport⟩
  · refine (Generated.of_written named₁ hfind₁ hcleaned hscan hframe₂ ?_).of_frame hframe₃ ?_
    · intro e he
      obtain ⟨x, hx, hpath⟩ := hnames e he
      exact ⟨x, hx, hpath, htexts e he x hx.toIsName hpath⟩
    · rintro x hx ⟨m, heq⟩
      exact ne_artifactFileName hx (Location.child_inj.1 heq).2
  · refine (hframe₁.mono fun _ => .inl).trans ((hframe₂.mono fun _ hm => .inr (.inl hm)).trans ?_)
    exact hframe₃.mono fun _ hm => .inr (.inr hm)

/-- What a run that succeeds comes to: what it leaves, what it leaves alone, and what it reports. -/
structure Completed (set : Settings) (schema : Schema) (sources : List SourceFile) (l : Location)
    (d : Disk) (r : Report) (d' : Disk) : Prop extends Settled set schema sources l d' where
  frame : FileTree.Frame (fun m => m = l.child lockFileName ∨
    MayWrite set (set.generatedFrom schema sources) l m) d.tree d'.tree
  reports : ∃ deleted written artifact, r = set.report schema deleted sources written artifact

/-- Of the source files in the directory, a run that succeeds changes generated ones only. -/
theorem Completed.file?_eq_or {r : Report} (h : Completed set schema sources l d r d')
    (hsource : ".rs".toList <:+ x.toList) :
    d'.tree.file? (l.child x) = d.tree.file? (l.child x) ∨
      EndsGenerated x ∧ (Glob.isStuck set.modelsDir = false ∨
        ∃ e ∈ (set.generatedFrom schema sources).entries, e.1 = set.modelsDir.file x) := by
  refine or_iff_not_imp_right.2 fun hother => h.frame.files _ ?_
  rintro (heq | hwrite)
  · exact ne_lockFileName hsource (Location.child_inj.1 heq).2
  · exact hwrite.of_child.elim hother (ne_artifactFileName hsource)

theorem exists_completed {r : Report} (hdir : set.modelsDir.chars ≠ []) (named : d.tree.IsNamed)
    (h : (set.generate (.ok schema) false).Runs (host false tools) d (.ok r) d') :
    ∃ sources l, Completed set schema sources l d r d' := by
  obtain ⟨-, schema', hschema, guard, d₁, d₂, d₃, hcreate, hlock, hrun, rfl⟩ :=
    Settings.runs_generate_ok_iff.1 h
  cases hschema
  obtain ⟨hcreated, l, hfind₁⟩ := createDir_spec hdir hcreate
  have hlock : d₁.lock set.modelsDir = (.ok guard, d₂) := hlock
  rw [lock_eq hfind₁] at hlock
  split at hlock
  · cases (Prod.ext_iff.1 hlock).1
  split at hlock
  · next hunlocked =>
    obtain ⟨hguard, rfl⟩ := Prod.ext_iff.1 hlock
    obtain rfl := Except.ok.inj hguard
    have htaken := taken_frame hunlocked
    obtain ⟨sources, hgenerated, hwritten, hreports⟩ :=
      exists_generated (htaken.named (hcreated.named named)) (htaken.find hfind₁) hrun
    have hfile := hwritten.files _ not_mayWrite_lockFile
    rw [FileTree.file?_eq_some_iff.2 (get?_taken hunlocked)] at hfile
    have hget := FileTree.file?_eq_some_iff.1 hfile
    have hne : d₃.tree.get? (l.child lockFileName) ≠ some .dir := by simp [hget]
    refine ⟨sources, l, ?_⟩
    change Completed set schema sources l d r
      ((d₃.removeLockFile (guardOf l set.modelsDir)).release (guardOf l set.modelsDir))
    rw [removeLockFile_eq hgenerated.find hget]
    have hframe := FileTree.Frame.erase hne
    refine { hgenerated.of_frame hframe fun x hx heq => ?_ with
      free := ?_, unlocked := ?_, frame := ?_, reports := hreports }
    · exact ne_lockFileName hx (Location.child_inj.1 heq).2
    · exact SortedMap.contains_erase_self ..
    · rw [release, FileTree.get?_erase hne, if_pos rfl]
    · refine (hcreated.mono fun _ hm => hm.elim).trans ((htaken.mono fun _ => .inl).trans ?_)
      exact (hwritten.mono fun _ => .inr).trans (hframe.mono fun _ => .inl)
  · cases (Prod.ext_iff.1 hlock).1

/-- A run that succeeds leaves the disk settled. -/
theorem exists_settled {r : Report} (hdir : set.modelsDir.chars ≠ []) (named : d.tree.IsNamed)
    (h : (set.generate (.ok schema) false).Runs (host false tools) d (.ok r) d') :
    ∃ sources l, Settled set schema sources l d' := by
  obtain ⟨sources, l, hcompleted⟩ := exists_completed hdir named h
  exact ⟨sources, l, hcompleted.toSettled⟩

/-! ## Empty directories -/

/-- Generated files can be written where no directories are in their place. -/
theorem exists_runs_writeAll (tools : Toolchain) {dir : Path} (entries : List (Path × String))
    (hfind : d.tree.find dir = .ok (.node l .dir))
    (hnames : ∀ e ∈ entries, ∃ x, IsGeneratedName x ∧ e.1 = dir.file x ∧
      d.tree.get? (l.child x) ≠ some .dir) :
    ∃ written d', (writeAll entries).Runs (host false tools) d (.ok written) d' := by
  induction entries generalizing d with
  | nil => exact ⟨[], d, runs_pure_iff.2 ⟨rfl, rfl⟩⟩
  | cons e entries ih =>
    obtain ⟨x, hx, hpath, hget⟩ := hnames e List.mem_cons_self
    have hframe := FileTree.Frame.put hget (fun m y heq => by
      obtain ⟨-, rfl⟩ := Location.child_inj.1 heq
      exact hx.toIsName) (.file (.text e.2))
    let d₁ : Disk := { d with tree := d.tree.put (l.child x) (.file (.text e.2)) }
    have hwrite : (host false tools).answer (.write e.1 e.2) d =
        (.ok (.file e.1 e.2.utf8ByteSize), d₁) := by
      change d.write e.1 e.2 = _
      rw [hpath, write_file (.of_find hfind) hx.toIsName, if_neg hget]
    obtain ⟨written, d', hrest⟩ := ih (d := d₁) (hframe.find hfind) fun f hf => by
      obtain ⟨y, hy, hpath', hget'⟩ := hnames f (List.mem_cons_of_mem _ hf)
      refine ⟨y, hy, hpath', ?_⟩
      rw [FileTree.get?_put hget]
      split
      · simp
      · exact hget'
    exact ⟨_, d', runs_writeAll_cons_ok_iff.2 ⟨_, d₁, written, hwrite, hrest, rfl⟩⟩

/-- There is nothing to list in an empty directory that was taken. -/
theorem list_taken {dir : Path} {pattern ending : String} (named : d.tree.IsNamed)
    (hfind : d.tree.find dir = .ok (.node l .dir)) (hvacant : ∀ x, d.tree.get? (l.child x) = none)
    (hends : Glob.EndsLike pattern ending) (hending : ".rs".toList <:+ ending.toList) :
    Glob.list (d.taken l).tree dir pattern = .ok [] := by
  have hframe := taken_frame (hvacant lockFileName)
  have hnone : Glob.namesEnding (d.taken l).tree l ending = [] := by
    rw [Glob.namesEnding, List.filter_eq_nil_iff]
    intro x _ hx
    rw [Bool.and_eq_true, List.isSuffixOf_iff_suffix] at hx
    have hother : x ≠ lockFileName := ne_lockFileName (hending.trans hx.1)
    rw [hframe.files _ fun heq => hother (Location.child_inj.1 heq).2, FileTree.file?, hvacant] at hx
    cases hx.2
  rw [Glob.list_eq (hframe.named named) (.of_find (hframe.find hfind)) hends, hnone]
  cases Glob.isStuck dir <;> rfl

theorem exists_runs_generateLocked (schema : Schema) (tools : Toolchain)
    (hmode : set.mode = .sourceOnly) (named : d.tree.IsNamed)
    (hfind : d.tree.find set.modelsDir = .ok (.node l .dir))
    (hvacant : ∀ x, d.tree.get? (l.child x) = none) : ∃ r d',
    (set.generateLocked schema false).run.Runs (host false tools) (d.taken l) (.ok r) d' := by
  have hclean : set.clean.Runs (host false tools) (d.taken l) (.ok []) (d.taken l) := by
    refine runs_bind_iff.2 ⟨_, _, runs_ask_iff.2 rfl, ?_⟩
    rw [list_taken named hfind hvacant endsLike_generatedPattern (by decide)]
    exact runs_pure_iff.2 ⟨rfl, rfl⟩
  have hscan : (scan set.modelsDir).Runs (host false tools) (d.taken l) (.ok []) (d.taken l) := by
    refine runs_bind_iff.2 ⟨_, _, runs_ask_iff.2 rfl, ?_⟩
    rw [list_taken named hfind hvacant endsLike_sourcePattern (by decide)]
    exact runs_pure_iff.2 ⟨rfl, rfl⟩
  obtain ⟨written, d', hwrite⟩ : ∃ written d', (writeAll (set.generatedFrom schema []).entries).Runs
      (host false tools) (d.taken l) (.ok written) d' := by
    refine exists_runs_writeAll tools _ ((taken_frame (hvacant _)).find hfind) fun e he => ?_
    obtain ⟨x, hx, hpath⟩ := set.exists_name_of_mem_generatedFiles schema _ _ he
    have hne := ne_lockFileName (rs_suffix_of_endsGenerated hx.ending)
    refine ⟨x, hx, hpath, ?_⟩
    rw [taken, hold, FileTree.get?_put (by simp [hvacant]), if_neg, hvacant]
    · simp
    · exact fun heq => hne (Location.child_inj.1 heq).2
  have hcompile : (set.compile false (set.compileRequest [] (set.generatedFrom schema []))).run.Runs
      (host false tools) d' (.ok none) d' := by
    rw [Settings.compile, hmode]
    exact runs_pure_iff.2 ⟨rfl, rfl⟩
  exact ⟨_, d', Settings.runs_generateLocked_ok_iff.2 ⟨[], [], written, none, _, _, _, hclean, hscan,
    hwrite, hcompile, rfl⟩⟩

/-- A run in an empty directory succeeds. -/
theorem exists_runs_generate {t : FileTree} (hmode : set.mode = .sourceOnly)
    (hcreate : d.tree.createDirs set.modelsDir = (.ok (), t))
    (hfind : t.find set.modelsDir = .ok (.node l .dir)) (named : t.IsNamed)
    (hempty : t.names l = []) (hfree : d.held.contains l.path = false) :
    ∃ r, ((set.generate (.ok schema) false).execute (host false tools) d).result = .ok r := by
  let d₁ : Disk := { d with tree := t }
  have hvacant (x : String) : t.get? (l.child x) = none := by
    cases hget : t.get? (l.child x) with
    | none => rfl
    | some n => simpa [hempty] using FileTree.mem_names_of_get? hget
  have hcreated : d.createDir set.modelsDir = (.ok (), d₁) := by
    rw [createDir, hcreate]
    rfl
  have hlock : d₁.lock set.modelsDir = (.ok (guardOf l set.modelsDir), d₁.taken l) := by
    rw [lock_eq hfind, show d₁.held.contains l.path = false from hfree, hvacant,
      if_neg Bool.false_ne_true]
  obtain ⟨r, d₂, hruns⟩ := exists_runs_generateLocked (d := d₁) schema tools hmode named hfind hvacant
  exact ⟨r, (Settings.runs_generate_ok_iff.2 ⟨by rw [hmode]; rfl, schema, rfl,
    guardOf l set.modelsDir, d₁, d₁.taken l, d₂, hcreated, hlock, hruns, rfl⟩).1⟩

end Disk

end ContentModels
