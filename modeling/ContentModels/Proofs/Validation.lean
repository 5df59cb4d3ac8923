import ContentModels.Proofs.Disk.Dry
import ContentModels.Proofs.Disk.Settled

/-!
# Whether generated files validate

After a run that succeeds, a run that writes nothing reads the same sources and so generates the
same texts, and every generated file has its text. What may still be found are files that are listed
under other paths than the generated ones. That is so exactly if the directory starts with a dot
that a search drops.

## Main statements

* `Settings.runs_validate_ok_iff` — the steps of a validation that succeeds.
* `Disk.Settled.exists_runs_dry` — a run that writes nothing, after one that succeeded.
* `Settings.drift_eq_nil_iff` — whether a validation finds anything then.
-/

namespace ContentModels

open Program

variable {set : Settings} {schema : Schema} {sources : List SourceFile} {l : Location}
  {tools : Toolchain} {d : Disk}

namespace Disk

/-! ## Runs that write nothing -/

/-- A run that writes nothing generates again what was generated, and leaves the disk alone. -/
theorem Settled.exists_runs_dry (h : Settled set schema sources l d)
    (hmode : set.mode.isEnabled = true) (hartifact : set.mode.needsArtifact = false)
    (tools : Toolchain) :
    ∃ r, (set.generate (.ok schema) true).Runs (host true tools) d (.ok r) d ∧
      r.generated = set.generatedFrom schema sources := by
  have hgenerated : Generated set schema sources l (d.taken l) :=
    h.toGenerated.of_frame (taken_frame h.unlocked) fun x hx heq =>
      ne_lockFileName hx (Location.child_inj.1 heq).2
  have hlock : d.lock set.modelsDir = (.ok (guardOf l set.modelsDir), d.taken l) := by
    rw [lock_eq h.find, h.free, h.unlocked, if_neg Bool.false_ne_true]
  have hclean : set.clean.Runs (host true tools) (d.taken l) (.ok []) (d.taken l) := by
    refine runs_bind_iff.2 ⟨_, _, runs_ask_iff.2 rfl, ?_⟩
    rw [Glob.list_eq hgenerated.named (.of_find hgenerated.find) endsLike_generatedPattern]
    exact runs_deleteAll_dry tools _ _
  have hcompile : (set.compile true (set.compileRequest sources
      (set.generatedFrom schema sources))).run.Runs (host true tools) (d.taken l) (.ok none)
      (d.taken l) := by
    rw [Settings.compile, hartifact]
    exact runs_pure_iff.2 ⟨rfl, rfl⟩
  have hruns : ∃ r d', (set.generate (.ok schema) true).Runs (host true tools) d (.ok r) d' ∧
      r.generated = set.generatedFrom schema sources :=
    ⟨_, _, Settings.runs_generate_ok_iff.2 ⟨hmode, schema, rfl, guardOf l set.modelsDir, d,
      d.taken l, d.taken l, rfl, hlock, Settings.runs_generateLocked_ok_iff.2 ⟨[], sources, _, none,
        d.taken l, d.taken l, d.taken l, hclean, hgenerated.scans true tools,
        runs_writeAll_dry tools _ _, hcompile, rfl⟩, rfl⟩, rfl⟩
  obtain ⟨r, d', hdry, htexts⟩ := hruns
  obtain rfl : d = d' := (state_generate_dry _ _ tools d).symm.trans hdry.2
  exact ⟨r, hdry, htexts⟩

end Disk

/-! ## Comparing -/

theorem not_runs_finding {host : Host Disk} {d d' : Disk} {rest : List (Path × String)}
    {x : Drift} :
    ¬((·.map (x :: ·)) <$> compareFiles rest).Runs host d (.ok []) d' := by
  intro h
  obtain ⟨found, d₁, -, h⟩ := runs_bind_iff.1 h
  cases found <;> cases (runs_pure_iff.1 h).1

/-- A comparison finds nothing exactly if every file has its text. -/
theorem runs_compareFiles_nil_iff {dry : Bool} {files : List (Path × String)} {d' : Disk} :
    (compareFiles files).Runs (Disk.host dry tools) d (.ok []) d' ↔
      (∀ e ∈ files, d.tree.read e.1 = .ok e.2) ∧ d' = d := by
  induction files with
  | nil => simp [compareFiles, runs_pure_iff]
  | cons e rest ih =>
    rw [List.forall_mem_cons]
    constructor
    · intro h
      obtain ⟨answer, d₁, hread, h⟩ := runs_bind_iff.1 h
      have hanswer : ((d.tree.read e.1).mapError (StoreError.read e.1), d) = (answer, d₁) :=
        runs_ask_iff.1 hread
      obtain ⟨rfl, rfl⟩ := Prod.ext_iff.1 hanswer
      cases hfile : d.tree.read e.1 with
      | ok actual =>
        rw [hfile] at h
        change (if actual = e.2 then compareFiles rest else
          (·.map (⟨e.1, .changed⟩ :: ·)) <$> compareFiles rest).Runs _ d _ d' at h
        split at h
        · next heq => exact ⟨⟨by rw [heq], (ih.1 h).1⟩, (ih.1 h).2⟩
        · exact absurd h not_runs_finding
      | error fault =>
        rw [hfile] at h
        change (if fault = IoFault.notFound then
          (·.map (⟨e.1, .missing⟩ :: ·)) <$> compareFiles rest
          else pure (.error (.io fault))).Runs _ d _ d' at h
        split at h
        · exact absurd h not_runs_finding
        · cases (runs_pure_iff.1 h).1
    · rintro ⟨⟨hfile, hrest⟩, rfl⟩
      have hread : (ask (.read e.1)).Runs (Disk.host dry tools) d' (.ok e.2) d' := by
        refine runs_ask_iff.2 ?_
        change ((d'.tree.read e.1).mapError (StoreError.read e.1), d') = _
        rw [hfile]
        rfl
      refine runs_bind_iff.2 ⟨_, _, hread, ?_⟩
      change (if e.2 = e.2 then compareFiles rest else _).Runs _ _ _ _
      rw [if_pos rfl]
      exact ih.2 ⟨hrest, rfl⟩

/-- The steps of a validation that succeeds. -/
theorem Settings.runs_validate_ok_iff {σ : Type} {host : Host σ} {s t : σ}
    {input : Except SchemaFailure Schema} {v : Validation} :
    (set.validate input).Runs host s (.ok v) t ↔ ∃ r drift files s₁ s₂,
      ({ set with mode := .sourceOnly }.generate input true).Runs host s (.ok r) s₁ ∧
      (compareFiles r.generated.entries).Runs host s₁ (.ok drift) s₂ ∧
      host.answer (.list set.modelsDir generatedPattern) s₂ = (.ok files, t) ∧
      v = { checked := r.generated.entries.length
            drift := drift ++
              (files.filter fun file => !r.generated.contains file).map fun file => ⟨file, .stale⟩
            diagnostics := r.diagnostics } := by
  constructor
  · intro h
    obtain ⟨_ | r, s₁, hdry, h⟩ := runs_bind_iff.1 h
    · cases (runs_pure_iff.1 h).1
    obtain ⟨_ | drift, s₂, hcompare, h⟩ := runs_bind_iff.1 h
    · cases (runs_pure_iff.1 h).1
    obtain ⟨_ | files, s₃, hlist, h⟩ := runs_bind_iff.1 h
    · cases (runs_pure_iff.1 h).1
    obtain ⟨hresult, rfl⟩ := runs_pure_iff.1 h
    exact ⟨r, drift, files, s₁, s₂, hdry, hcompare, runs_ask_iff.1 hlist, Except.ok.inj hresult⟩
  · rintro ⟨r, drift, files, s₁, s₂, hdry, hcompare, hlist, rfl⟩
    exact runs_bind_iff.2 ⟨.ok r, s₁, hdry, runs_bind_iff.2 ⟨.ok drift, s₂, hcompare,
      runs_bind_iff.2 ⟨.ok files, t, runs_ask_iff.2 hlist, runs_pure_iff.2 ⟨rfl, rfl⟩⟩⟩⟩

namespace Disk

/-! ## What a validation finds -/

/-- A generated file that is listed counts as one that was generated, unless the listing drops the
dot that the directory starts with. -/
theorem Settled.contains_iff (h : Settled set schema sources l d)
    (hstuck : Glob.isStuck set.modelsDir = false) {x : String}
    (hx : x ∈ Glob.namesEnding d.tree l Naming.generatedSuffix) :
    (set.generatedFrom schema sources).contains (Glob.below (Glob.reach set.modelsDir) x) = true ↔
      Glob.dropsDot set.modelsDir = false := by
  have hreach := (Glob.reaches h.find).2 hstuck
  rw [hreach.contains_below_iff (Glob.isName_of_mem_namesEnding h.named hx) fun e he => ?_]
  · obtain ⟨hending, hfile⟩ := mem_namesEnding.1 hx
    exact and_iff_left (h.only hstuck x hending hfile)
  · obtain ⟨y, hy, hpath, -⟩ := h.texts e he
    exact ⟨y, hy.toIsName, hpath⟩

/-- A run that succeeded has generated the index, at least. -/
theorem Settled.exists_mem_namesEnding (h : Settled set schema sources l d) :
    ∃ x, x ∈ Glob.namesEnding d.tree l Naming.generatedSuffix := by
  obtain ⟨e, he⟩ := set.exists_mem_generatedFrom schema sources
  obtain ⟨x, hx, -, htext⟩ := h.texts e he
  exact ⟨x, mem_namesEnding.2 ⟨hx.ending, by simp [htext]⟩⟩

theorem Settled.exists_runs_validate (h : Settled set schema sources l d) (tools : Toolchain) :
    ∃ v, (set.validate (.ok schema)).Runs (host true tools) d (.ok v) d ∧
      (v.drift = [] ↔ Glob.dropsDot set.modelsDir = false) := by
  have hplain : Settled { set with mode := .sourceOnly } schema sources l d :=
    { find := h.find, named := h.named, texts := h.texts, only := h.only, scans := h.scans,
      free := h.free, unlocked := h.unlocked }
  obtain ⟨r, hdry, hgenerated⟩ := hplain.exists_runs_dry rfl rfl tools
  -- The mode makes no difference to what is generated.
  have hgenerated : r.generated = set.generatedFrom schema sources := hgenerated
  have hcompare : (compareFiles r.generated.entries).Runs (host true tools) d (.ok []) d := by
    refine runs_compareFiles_nil_iff.2 ⟨fun e he => ?_, rfl⟩
    rw [hgenerated] at he
    obtain ⟨x, hx, hpath, htext⟩ := h.texts e he
    have hentry := FileTree.find_file h.find hx.toIsName
    rw [hpath, FileTree.read_entry hentry, FileTree.file?_eq_some_iff.1 htext]
  have hlist := answer_list true tools h.named (.of_find h.find)
  refine ⟨_, Settings.runs_validate_ok_iff.2
    ⟨r, [], _, d, d, hdry, hcompare, hlist, rfl⟩, ?_⟩
  rw [List.nil_append, List.map_eq_nil_iff, List.filter_eq_nil_iff, hgenerated, listed]
  cases hstuck : Glob.isStuck set.modelsDir with
  | true => simp [Glob.dropsDot, hstuck]
  | false =>
    rw [if_neg Bool.false_ne_true, List.forall_mem_map]
    constructor
    · intro hall
      obtain ⟨x, hx⟩ := h.exists_mem_namesEnding
      have hcontains := hall x hx
      rw [Bool.not_eq_true', Bool.not_eq_false] at hcontains
      exact (h.contains_iff hstuck hx).1 hcontains
    · intro hdrops x hx
      rw [(h.contains_iff hstuck hx).2 hdrops]
      exact Bool.false_ne_true

end Disk

/-- After a run that succeeds, validation succeeds, and it finds nothing exactly if a search for the
directory of the models does not drop a dot at its start. All that is asked of the disk is that the
names in its directories are names of files. -/
theorem Settings.drift_eq_nil_iff (set : Settings) (input : Except SchemaFailure Schema)
    (tools tools' : Toolchain) (d : Disk) (r : Report) (hdir : set.modelsDir.text ≠ "")
    (named : d.tree.IsNamed)
    (succeeds : ((set.generate input false).execute (Disk.host false tools) d).result = .ok r) :
    let after := ((set.generate input false).execute (Disk.host false tools) d).state
    ∃ v, ((set.validate input).execute (Disk.host true tools') after).result = .ok v ∧
      (v.drift = [] ↔ Glob.dropsDot set.modelsDir = false) := by
  intro after
  have hruns : (set.generate input false).Runs (Disk.host false tools) d (.ok r) after :=
    ⟨succeeds, rfl⟩
  obtain ⟨-, schema, rfl, -⟩ := runs_generate_ok_iff.1 hruns
  have hchars : set.modelsDir.chars ≠ [] := fun h => hdir (String.toList_eq_nil_iff.1 h)
  obtain ⟨sources, l, hsettled⟩ := Disk.exists_settled hchars named hruns
  obtain ⟨v, ⟨hresult, -⟩, hdrift⟩ := hsettled.exists_runs_validate tools'
  exact ⟨v, hresult, hdrift⟩

namespace Settings

/-- Settings for a directory of models. -/
def forDir (dir : String) : Settings where
  modelsDir := ⟨dir⟩
  space := "site"

/-- A compiler that is not there. -/
def noCompiler : Toolchain where
  call _ := .error .notFound

/-- What a validation finds after a run on a disk without any files. -/
def foundAfterRun (set : Settings) : Except CommandError Validation :=
  let run := (set.generate (.ok ⟨[]⟩) false).execute (Disk.host false noCompiler) {}
  ((set.validate (.ok ⟨[]⟩)).execute (Disk.host true noCompiler) run.state).result

/-- A tree with nothing but a directory of models. -/
def modelsTree : FileTree where
  nodes := .ofList [(⟨["models"]⟩, .dir)]

theorem isNamed_empty : ({} : FileTree).IsNamed := by
  intro dir x h
  cases h

theorem isNamed_modelsTree : modelsTree.IsNamed := by
  intro dir x h
  have hkeys : modelsTree.nodes.keys = [⟨["models"]⟩] := by decide
  rw [hkeys, List.mem_singleton] at h
  have hlast := congrArg (fun l => l.names.getLast?) h
  obtain rfl : x = "models" := by simpa [Location.child] using hlast
  decide

theorem exists_result_forDir (dir : String)
    (hcreate : FileTree.createDirs {} ⟨dir⟩ = (.ok (), modelsTree))
    (hfind : modelsTree.find ⟨dir⟩ = .ok (.node ⟨["models"]⟩ .dir)) :
    ∃ r, (((forDir dir).generate (.ok ⟨[]⟩) false).execute (Disk.host false noCompiler)
      {}).result = .ok r :=
  Disk.exists_runs_generate rfl hcreate hfind isNamed_modelsTree (by decide) (by decide)

/-- One and the same directory validates or not, depending on whether it is written with a dot. -/
theorem found_forDir :
    (∃ v, (forDir "models").foundAfterRun = .ok v ∧ v.drift = []) ∧
      ∃ v, (forDir "./models").foundAfterRun = .ok v ∧ v.drift ≠ [] := by
  constructor
  · obtain ⟨r, hr⟩ := exists_result_forDir "models" (by decide) (by decide)
    obtain ⟨v, hv, hdrift⟩ := drift_eq_nil_iff (forDir "models") (.ok ⟨[]⟩) noCompiler noCompiler {} r
      (by decide) isNamed_empty hr
    exact ⟨v, hv, hdrift.2 (by decide)⟩
  · obtain ⟨r, hr⟩ := exists_result_forDir "./models" (by decide) (by decide)
    obtain ⟨v, hv, hdrift⟩ := drift_eq_nil_iff (forDir "./models") (.ok ⟨[]⟩) noCompiler noCompiler {}
      r (by decide) isNamed_empty hr
    refine ⟨v, hv, fun hnil => ?_⟩
    have hdrops := hdrift.1 hnil
    revert hdrops
    decide

end Settings

end ContentModels
