import ContentModels.Proofs.Disk.UpToDate
import ContentModels.Proofs.Validation

/-!
# What the verdict of a validation is worth

A validation that finds nothing has seen that every generated file has the text that a run would
write, and that a search finds no others. So a run after it succeeds, and leaves the disk as it is.
On the way it deletes the very files that it writes, unless the search for them gets stuck: then it
deletes none.

## Main statements

* `Disk.exists_upToDate` — what a validation has seen that finds nothing.
* `Settings.exists_rewriting` — what a run does after it.
-/

namespace ContentModels

open Program

namespace Disk

variable {set : Settings} {input : Except SchemaFailure Schema} {schema : Schema}
  {sources : List SourceFile} {l : Location} {tools : Toolchain} {d d' : Disk} {v : Validation}

/-- Files that have their texts lie in one directory. -/
theorem exists_addresses (hread : ∀ e ∈ (set.generatedFrom schema sources).entries,
    d.tree.read e.1 = .ok e.2) : ∃ l, d.tree.Addresses set.modelsDir l := by
  obtain ⟨e, he⟩ := set.exists_mem_generatedFrom schema sources
  obtain ⟨x, hx, hpath⟩ := set.exists_name_of_mem_generatedFiles schema _ _ he
  obtain ⟨f, hfind⟩ := FileTree.exists_find_of_read (hread e he)
  rw [hpath] at hfind
  obtain ⟨l, hdir, -⟩ := FileTree.exists_entry_of_find_file hx.toIsName hfind
  exact ⟨l, hdir⟩

/-- Files are up to date if they have their texts and a listing finds no others. Taking their
directory changes nothing about that. -/
theorem upToDate_of_listed {guard : Guard} (named : d.tree.IsNamed)
    (hdir : d.tree.Addresses set.modelsDir l) (hlock : d.lock set.modelsDir = (.ok guard, d'))
    (hscan : (scan set.modelsDir).Runs (host true tools) d' (.ok sources) d')
    (hread : ∀ e ∈ (set.generatedFrom schema sources).entries, d.tree.read e.1 = .ok e.2)
    (hlisted : ∀ p ∈ listed set d.tree l,
      (set.generatedFrom schema sources).contains p = true) :
    UpToDate set schema sources l d' := by
  have hframe := lock_frame hdir hlock
  have named' := hframe.named named
  have hdir' := hdir.of_frame hframe
  have hsame (x : String) (hx : EndsGenerated x) :
      d'.tree.file? (l.child x) = d.tree.file? (l.child x) :=
    hframe.files _ fun heq =>
      ne_lockFileName (rs_suffix_of_endsGenerated hx) (Location.child_inj.1 heq).2
  have htexts : ∀ e ∈ (set.generatedFrom schema sources).entries, ∃ x, IsGeneratedName x ∧
      e.1 = set.modelsDir.file x ∧ d.tree.file? (l.child x) = some (.text e.2) := by
    intro e he
    obtain ⟨x, hx, hpath⟩ := set.exists_name_of_mem_generatedFiles schema _ _ he
    exact ⟨x, hx, hpath, FileTree.file?_of_read (hdir.find_file hx.toIsName) (hpath ▸ hread e he)⟩
  refine ⟨hdir', named', fun e he => ?_, fun hstuck => ?_, fun dry tools => ?_⟩
  · obtain ⟨x, hx, hpath, htext⟩ := htexts e he
    exact ⟨x, hx, hpath, (hsame x hx.ending).trans htext⟩
  · have hreach := (Glob.reaches (Glob.find_of_addresses hdir hstuck)).2 hstuck
    have hfound {x : String} (hx : EndsGenerated x)
        (hfile : (d.tree.file? (l.child x)).isSome = true) : Glob.dropsDot set.modelsDir = false ∧
          ∃ e ∈ (set.generatedFrom schema sources).entries, e.1 = set.modelsDir.file x := by
      have hmem := mem_namesEnding.2 ⟨hx, hfile⟩
      refine (hreach.contains_below_iff (Glob.isName_of_mem_namesEnding named hmem) ?_).1
        (hlisted _ ?_)
      · intro e he
        obtain ⟨y, hy, hpath, -⟩ := htexts e he
        exact ⟨y, hy.toIsName, hpath⟩
      · rw [listed, hstuck, if_neg Bool.false_ne_true]
        exact List.mem_map_of_mem hmem
    obtain ⟨e, he⟩ := set.exists_mem_generatedFrom schema sources
    obtain ⟨x, hx, -, htext⟩ := htexts e he
    refine ⟨(hfound hx.ending (by simp [htext])).1, fun y hy hfile => ?_⟩
    exact (hfound hy (hsame y hy ▸ hfile)).2
  · exact (runs_scan_congr named' named' hdir' hdir' (fun _ _ _ => rfl) hscan).1

/-- A validation that finds nothing has seen that the files are up to date, in a directory that
could be taken. -/
theorem exists_upToDate (hmode : set.mode = .sourceOnly) (named : d.tree.IsNamed)
    (h : (set.validate input).Runs (host true tools) d (.ok v) d') (hdrift : v.drift = []) :
    ∃ schema sources l guard d₁, input = .ok schema ∧ d.tree.Addresses set.modelsDir l ∧
      d.lock set.modelsDir = (.ok guard, d₁) ∧ UpToDate set schema sources l d₁ := by
  obtain ⟨r, drift, files, d₂, d₃, hdry, hcompare, hlist, rfl⟩ := Settings.runs_validate_ok_iff.1 h
  have hset : { set with mode := .sourceOnly } = set := by rw [← hmode]
  rw [hset] at hdry
  obtain rfl : d₂ = d := hdry.2.symm.trans (state_generate_dry set input tools d)
  obtain ⟨schema, sources, guard, d₁, rfl, hlock, hscan, deleted, written, artifact, rfl⟩ :=
    Settings.exists_scan_of_runs_dry (fun _ _ hc => answer_dry hc) hdry
  obtain ⟨rfl, hstale⟩ := List.append_eq_nil_iff.1 hdrift
  obtain ⟨hread, rfl⟩ := runs_compareFiles_nil_iff.1 hcompare
  obtain ⟨l, hdir⟩ := exists_addresses hread
  rw [answer_list true tools named hdir] at hlist
  obtain rfl := Except.ok.inj (Prod.ext_iff.1 hlist).1
  rw [List.map_eq_nil_iff, List.filter_eq_nil_iff] at hstale
  refine ⟨schema, sources, l, guard, d₁, rfl, hdir, hlock,
    upToDate_of_listed named hdir hlock hscan hread fun p hp => ?_⟩
  have hknown := hstale p hp
  rwa [Bool.not_eq_true', Bool.not_eq_false] at hknown

end Disk

namespace Settings

/-- A run after a validation that finds nothing succeeds, and leaves the disk as it is: every file
has the content that it had. The files that it deletes are those that it writes, unless a search for
the generated files of the directory gets stuck. All that is asked of the disk is that the names in
its directories are names of files. -/
theorem exists_rewriting (set : Settings) (input : Except SchemaFailure Schema)
    (tools tools' : Toolchain) (d : Disk) (v : Validation) (mode : set.mode = .sourceOnly)
    (named : d.tree.IsNamed)
    (succeeds : ((set.validate input).execute (Disk.host true tools) d).result = .ok v)
    (upToDate : v.drift = []) :
    let checked := ((set.validate input).execute (Disk.host true tools) d).state
    let run := (set.generate input false).execute (Disk.host false tools') checked
    ∃ r, run.result = .ok r ∧ run.state = d ∧
      (SameFiles r.deleted (r.written.map Written.path) ↔
        Glob.isStuck set.modelsDir = false) := by
  intro checked
  have hchecked : checked = d := Disk.state_validate_dry set input tools d
  rw [hchecked]
  obtain ⟨schema, sources, l, guard, d₁, rfl, hdir, hlock, hfiles⟩ :=
    Disk.exists_upToDate mode named ⟨succeeds, rfl⟩ upToDate
  have hunlock : d₁.unlock guard = d := by
    rcases Disk.lock_spec hlock with ⟨e, hanswer, -⟩ | ⟨guard', hanswer, hunlock⟩
    · cases hanswer
    · obtain rfl := Except.ok.inj hanswer
      exact hunlock
  obtain ⟨hresult, hstate⟩ := runs_generate_ok_iff.2 ⟨by rw [mode]; rfl, schema, rfl, guard, d, d₁,
    d₁, Disk.createDir_of_addresses hdir, hlock, hfiles.runs_generateLocked mode tools', rfl⟩
  refine ⟨_, hresult, hstate.trans hunlock, ?_⟩
  rw [← hfiles.sameFiles_listed_iff, report, List.map_map]
  rfl

/-- The disk after a run on a disk without any files. -/
def firstRun (dir : String) : Disk :=
  (((forDir dir).generate (.ok ⟨[]⟩) false).execute (Disk.host false noCompiler) {}).state

/-- The validation after that run. -/
def firstCheck (dir : String) : Execution Disk (Except CommandError Validation) :=
  ((forDir dir).validate (.ok ⟨[]⟩)).execute (Disk.host true noCompiler) (firstRun dir)

/-- Another run after that validation. -/
def secondRun (dir : String) : Execution Disk (Except RunError Report) :=
  ((forDir dir).generate (.ok ⟨[]⟩) false).execute (Disk.host false noCompiler)
    (firstCheck dir).state

/-- A validation finds nothing after the first run, unless the directory starts with a dot that a
search drops. -/
theorem exists_firstCheck {dir : String} {r : Report} (hdir : dir ≠ "")
    (hdrops : Glob.dropsDot ⟨dir⟩ = false)
    (hrun : (((forDir dir).generate (.ok ⟨[]⟩) false).execute (Disk.host false noCompiler)
      {}).result = .ok r) :
    (firstRun dir).tree.IsNamed ∧ ∃ v, (firstCheck dir).result = .ok v ∧ v.drift = [] := by
  have hchars : (forDir dir).modelsDir.chars ≠ [] := fun h => hdir (String.toList_eq_nil_iff.1 h)
  have hruns : ((forDir dir).generate (.ok ⟨[]⟩) false).Runs (Disk.host false noCompiler) {} (.ok r)
      (firstRun dir) := ⟨hrun, rfl⟩
  obtain ⟨sources, l, hsettled⟩ := Disk.exists_settled hchars isNamed_empty hruns
  obtain ⟨v, ⟨hresult, -⟩, hdrift⟩ := hsettled.exists_runs_validate noCompiler
  exact ⟨hsettled.named, v, hresult, hdrift.2 hdrops⟩

/-- One and the same run deletes what it writes or deletes nothing, depending on how the directory
is written. -/
theorem rewritings_forDir :
    (∃ r, (secondRun "models").result = .ok r ∧ (secondRun "models").state = firstRun "models" ∧
      SameFiles r.deleted (r.written.map Written.path)) ∧
    ∃ r, (secondRun "./").result = .ok r ∧ (secondRun "./").state = firstRun "./" ∧
      ¬SameFiles r.deleted (r.written.map Written.path) := by
  constructor
  · obtain ⟨r, hr⟩ := exists_result_forDir "models" (by decide) (by decide)
    obtain ⟨named, v, hv, hdrift⟩ := exists_firstCheck (by decide) (by decide) hr
    obtain ⟨r', hr', hstate, hsame⟩ := exists_rewriting (forDir "models") (.ok ⟨[]⟩) noCompiler
      noCompiler (firstRun "models") v rfl named hv hdrift
    exact ⟨r', hr', hstate, hsame.2 (by decide)⟩
  · have hcreate : FileTree.createDirs {} ⟨"./"⟩ = (.ok (), {}) := by decide
    have hfind : FileTree.find {} ⟨"./"⟩ = .ok (.node .root .dir) := by decide
    obtain ⟨r, hr⟩ : ∃ r, (((forDir "./").generate (.ok ⟨[]⟩) false).execute
        (Disk.host false noCompiler) {}).result = .ok r :=
      Disk.exists_runs_generate rfl hcreate hfind isNamed_empty (by decide) (by decide)
    obtain ⟨named, v, hv, hdrift⟩ := exists_firstCheck (by decide) (by decide) hr
    obtain ⟨r', hr', hstate, hsame⟩ := exists_rewriting (forDir "./") (.ok ⟨[]⟩) noCompiler
      noCompiler (firstRun "./") v rfl named hv hdrift
    refine ⟨r', hr', hstate, fun hall => ?_⟩
    have hstuck := hsame.1 hall
    revert hstuck
    decide

end Settings

end ContentModels
