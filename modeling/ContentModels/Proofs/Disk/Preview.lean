import ContentModels.Proofs.Disk.Dry
import ContentModels.Proofs.Disk.Settled
import ContentModels.Proofs.FileTree.Walk

/-!
# What a run that writes nothing tells of one that writes

A run that writes nothing reads the files of the directory as they are, or nothing if the directory
is not there. One that writes creates the directory and cleans it first. Both read the same
hand-authored files, unless the directory is missing on a way that leads up again, which may end at
another one.

## Main definitions

* `Disk.HoldsGenerated` — the generated files of a directory are those of a map of texts.

## Main statements

* `Disk.Completed.file?_eq` — the generated files after a run that succeeds.
* `Disk.Completed.sources_eq` — what a run that writes nothing would have read before.
* `Disk.preview` — what a run that writes nothing tells of one that writes.
-/

namespace ContentModels.Disk

open Program

variable {set : Settings} {schema : Schema} {sources sources' : List SourceFile} {l : Location}
  {tools : Toolchain} {d d' : Disk} {r : Report} {x : String}

/-! ## Generated files -/

/-- The generated files of a directory are those of a map of texts. A search that gets stuck leaves
the old ones where no new one takes their place. -/
structure HoldsGenerated (before after : FileTree) (dir : Path) (l : Location)
    (generated : SortedMap Path String) : Prop where
  find : after.find dir = .ok (.node l .dir)
  named : ∀ e ∈ generated.entries, ∃ x, Path.IsName x ∧ EndsGenerated x ∧ e.1 = dir.file x
  file?_eq : ∀ x, Path.IsName x → EndsGenerated x → after.file? (l.child x) =
    ((generated.get? (dir.file x)).map .text).or
      (if Glob.isStuck dir then before.file? (l.child x) else none)

theorem Generated.file?_of_get? (h : Generated set schema sources l d') (hx : Path.IsName x)
    {text : String}
    (hget : (set.generatedFrom schema sources).get? (set.modelsDir.file x) = some text) :
    d'.tree.file? (l.child x) = some (.text text) := by
  obtain ⟨k, hmem, hcompare⟩ := SortedMap.get?_eq_some_iff.1 hget
  obtain ⟨y, hy, hpath, htext⟩ := h.texts _ hmem
  obtain rfl : k = set.modelsDir.file y := hpath
  obtain rfl := (Path.compare_file_iff hx hy.toIsName).1 hcompare
  exact htext

theorem Completed.holdsGenerated (h : Completed set schema sources l d r d') :
    HoldsGenerated d.tree d'.tree set.modelsDir l (set.generatedFrom schema sources) where
  find := h.find
  named e he := by
    obtain ⟨x, hx, hpath, -⟩ := h.texts e he
    exact ⟨x, hx.toIsName, hx.ending, hpath⟩
  file?_eq x hx hending := by
    cases hget : (set.generatedFrom schema sources).get? (set.modelsDir.file x) with
    | some text => exact h.file?_of_get? hx hget
    | none =>
      have hnew : ¬∃ e ∈ (set.generatedFrom schema sources).entries, e.1 = set.modelsDir.file x := by
        rintro ⟨e, he, hpath⟩
        rw [← hpath, SortedMap.get?_of_mem he] at hget
        cases hget
      cases hstuck : Glob.isStuck set.modelsDir with
      | false =>
        cases hfile : d'.tree.file? (l.child x) with
        | none => rfl
        | some content => exact absurd (h.only hstuck x hending (by simp [hfile])) hnew
      | true =>
        refine (h.file?_eq_or (rs_suffix_of_endsGenerated hending)).resolve_right ?_
        rintro ⟨-, hfound | he⟩
        · rw [hstuck] at hfound
          cases hfound
        · exact hnew he

/-! ## Hand-authored files -/

/-- A run that succeeds changes no hand-authored file of its directory. -/
theorem Completed.file?_source (h : Completed set schema sources l d r d')
    (hsource : ".rs".toList <:+ x.toList) (hx : ¬EndsGenerated x) :
    d'.tree.file? (l.child x) = d.tree.file? (l.child x) :=
  (h.file?_eq_or hsource).resolve_right fun hgen => hx hgen.1

/-- Nothing is read of a directory without hand-authored files. -/
theorem runs_scan_nil {dir : Path} (dry : Bool) (tools : Toolchain) (named : d.tree.IsNamed)
    (hfind : d.tree.find dir = .ok (.node l .dir))
    (hnone : ∀ x, ".rs".toList <:+ x.toList → ¬EndsGenerated x → d.tree.file? (l.child x) = none) :
    (scan dir).Runs (host dry tools) d (.ok []) d := by
  refine runs_bind_iff.2 ⟨_, _, runs_ask_iff.2 rfl, ?_⟩
  rw [Glob.list_eq named (.of_find hfind) endsLike_sourcePattern]
  cases hstuck : Glob.isStuck dir with
  | true => exact runs_pure_iff.2 ⟨rfl, rfl⟩
  | false =>
    have hnames : sourceNames d.tree l = [] := by
      refine List.eq_nil_iff_forall_not_mem.2 fun x hx => ?_
      obtain ⟨hsource, hgen, hsome⟩ := mem_sourceNames.1 hx
      rw [hnone x hsource hgen] at hsome
      cases hsome
    change (readSources _).Runs _ _ _ _
    rw [if_neg Bool.false_ne_true, readSources_below named ((Glob.reaches hfind).2 hstuck), hnames]
    exact runs_pure_iff.2 ⟨rfl, rfl⟩

/-- Nothing is read of a directory that is not there. -/
theorem eq_nil_of_runs_scan {dir : Path} {dry : Bool} (hdir : d.tree.isDir dir = false)
    (h : (scan dir).Runs (host dry tools) d (.ok sources) d') : sources = [] := by
  obtain ⟨answer, d₁, hlist, hread⟩ := runs_bind_iff.1 h
  have hanswer : (Glob.list d.tree dir sourcePattern, d) = (answer, d₁) := runs_ask_iff.1 hlist
  rw [Glob.list, hdir] at hanswer
  obtain ⟨rfl, rfl⟩ := Prod.ext_iff.1 hanswer
  exact Except.ok.inj (runs_pure_iff.1 hread).1

section Sources

variable {guard : Guard} {d₁ : Disk}

/-- In a directory that is there the same is read before it is cleaned and after. -/
theorem Completed.sources_eq_of_isDir (h : Completed set schema sources l d r d')
    (named : d.tree.IsNamed) (hdir : d.tree.isDir set.modelsDir = true)
    (hlock : d.lock set.modelsDir = (.ok guard, d₁))
    (hscan : (scan set.modelsDir).Runs (host true tools) d₁ (.ok sources') d₁) :
    sources' = sources := by
  obtain ⟨l₀, hfind⟩ := FileTree.isDir_iff.1 hdir
  obtain rfl : l₀ = l := by simpa [h.find, eq_comm] using h.frame.find hfind
  rw [lock_eq hfind] at hlock
  split at hlock
  · cases (Prod.ext_iff.1 hlock).1
  split at hlock
  · next hvacant =>
    obtain rfl := (Prod.ext_iff.1 hlock).2
    have htaken := taken_frame hvacant
    have hagain : (scan set.modelsDir).Runs (host true tools) d' (.ok sources') d' := by
      refine (runs_scan_congr (htaken.named named) h.named (.of_find (htaken.find hfind))
        (.of_find h.find) ?_
        hscan).1
      intro x hsource hx
      rw [h.file?_source hsource hx, htaken.files]
      exact fun heq => ne_lockFileName hsource (Location.child_inj.1 heq).2
    exact Except.ok.inj (hagain.unique (h.scans true tools)).1
  · cases (Prod.ext_iff.1 hlock).1

/-- In a directory that is missing nothing is read before it is created, nor after that if no way up
leads to it. -/
theorem Completed.sources_eq_of_missing (h : Completed set schema sources l d r d')
    (rooted : d.tree.IsRooted) (hdir : d.tree.isDir set.modelsDir = false)
    (hup : Component.up ∉ set.modelsDir.components)
    (hlock : d.lock set.modelsDir = (.ok guard, d₁))
    (hscan : (scan set.modelsDir).Runs (host true tools) d₁ (.ok sources') d₁) :
    sources' = sources := by
  have htree : d₁.tree = d.tree := by
    simp only [lock, hdir] at hlock
    split at hlock
    · cases (Prod.ext_iff.1 hlock).1
    · rw [if_neg Bool.false_ne_true] at hlock
      exact (congrArg (·.2.tree) hlock).symm
  have hnew : d.tree.get? l ≠ some .dir := by
    intro hget
    have hfind := rooted.find_of_frame h.frame hup h.find hget
    rw [FileTree.isDir_iff.2 ⟨l, hfind⟩] at hdir
    cases hdir
  obtain rfl : sources' = [] := eq_nil_of_runs_scan (htree ▸ hdir) hscan
  refine Except.ok.inj ((runs_scan_nil true tools h.named h.find ?_).unique (h.scans true tools)).1
  intro x hsource hx
  rw [h.file?_source hsource hx, rooted.file?_child hnew]

end Sources

/-! ## Runs that write nothing, and runs that write -/

/-- A run that writes nothing reports what a run that writes generates, if both succeed. -/
theorem preview {input : Except SchemaFailure Schema} {tools tools' : Toolchain} {r' : Report}
    {d₁ : Disk} (hdir : set.modelsDir.chars ≠ []) (named : d.tree.IsNamed)
    (rooted : d.tree.IsRooted)
    (there : d.tree.isDir set.modelsDir = true ∨ Component.up ∉ set.modelsDir.components)
    (hdry : (set.generate input true).Runs (host true tools) d (.ok r) d₁)
    (hreal : (set.generate input false).Runs (host false tools') d (.ok r') d') :
    r.Agrees r' ∧ ∃ l, HoldsGenerated d.tree d'.tree set.modelsDir l r.generated := by
  obtain ⟨schema, sources', guard, d₂, rfl, hlock, hscan, deleted, written, artifact, rfl⟩ :=
    Settings.exists_scan_of_runs_dry (fun _ _ hc => answer_dry hc) hdry
  obtain ⟨sources, l, hcompleted⟩ := exists_completed hdir named hreal
  obtain rfl : sources' = sources := by
    cases hmissing : d.tree.isDir set.modelsDir with
    | true => exact hcompleted.sources_eq_of_isDir named hmissing hlock hscan
    | false =>
      have hup := there.resolve_left (by simp [hmissing])
      exact hcompleted.sources_eq_of_missing rooted hmissing hup hlock hscan
  obtain ⟨deleted', written', artifact', rfl⟩ := hcompleted.reports
  exact ⟨Settings.report_agrees, l, hcompleted.holdsGenerated⟩

end ContentModels.Disk
