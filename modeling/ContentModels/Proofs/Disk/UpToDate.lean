import ContentModels.Proofs.Disk.Settled

/-!
# Runs on files that are up to date

Where the generated files are those that a run would write, cleaning deletes them and writing puts
them back. So the run leaves the disk as it was. Nothing but the generated files is deleted in
between, and the paths of those that a search finds count as those that are written.

## Main definitions

* `Disk.UpToDate` — the generated files are those that a run would write.
* `SameFiles` — two lists of paths are of the same files.

## Main statements

* `Disk.runs_deleteAll_files` — deleting files that are there.
* `Disk.runs_writeAll_back` — writing files back that were deleted.
* `Disk.UpToDate.runs_generateLocked` — a run that leaves the disk as it was.
-/

namespace ContentModels

open Program

/-- Two lists of paths are of the same files, no matter how often and in which order. -/
def SameFiles (ps qs : List Path) : Prop :=
  ∀ p : Path, (∃ q ∈ ps, p.same q = true) ↔ ∃ q ∈ qs, p.same q = true

namespace Disk

variable {set : Settings} {schema : Schema} {sources : List SourceFile} {l : Location}
  {tools : Toolchain} {d : Disk} {dir q : Path}

/-! ## Deleting and writing back -/

/-- Files that are there can be deleted, and nothing else is. -/
theorem runs_deleteAll_files (tools : Toolchain) {names : List String}
    (hreach : Glob.Reaches d.tree l dir q) (hnames : ∀ x ∈ names, Path.IsName x)
    (hnodup : names.Nodup) (hfiles : ∀ x ∈ names, (d.tree.file? (l.child x)).isSome = true) :
    ∃ t, (deleteAll (names.map (Glob.below q))).Runs (host false tools) d
        (.ok (names.map (Glob.below q))) { d with tree := t } ∧
      d.tree.Without (fun m => ∃ x ∈ names, m = l.child x) t := by
  induction names generalizing d with
  | nil => exact ⟨d.tree, runs_pure_iff.2 ⟨rfl, rfl⟩, .refl _ _⟩
  | cons x names ih =>
    obtain ⟨hx, hnames⟩ := List.forall_mem_cons.1 hnames
    obtain ⟨hnew, hnodup⟩ := List.nodup_cons.1 hnodup
    obtain ⟨hfile, hfiles⟩ := List.forall_mem_cons.1 hfiles
    obtain ⟨content, hcontent⟩ := Option.isSome_iff_exists.1 hfile
    have hget := FileTree.file?_eq_some_iff.1 hcontent
    have hframe : FileTree.Frame (· = l.child x) d.tree (d.tree.erase (l.child x)) :=
      .erase (by simp [hget])
    let d₁ : Disk := { d with tree := d.tree.erase (l.child x) }
    have hdelete : (host false tools).answer (.delete (Glob.below q x)) d = (.ok true, d₁) := by
      rw [answer_delete, delete, FileTree.delete_entry (hreach.below hx).1, hget]
    obtain ⟨t, hrest, hwithout⟩ := ih (d := d₁) (hreach.of_frame hframe) hnames hnodup fun y hy => by
      rw [hframe.files _ fun heq => hnew ((Location.child_inj.1 heq).2 ▸ hy)]
      exact hfiles y hy
    refine ⟨t, runs_deleteAll_cons_ok_iff.2 ⟨true, d₁, _, hdelete, hrest, rfl⟩, ?_⟩
    refine .trans ((FileTree.Without.erase d.tree _).mono fun m hm => ?_)
      (hwithout.mono fun m hm => ?_)
    · exact ⟨x, List.mem_cons_self, hm⟩
    · obtain ⟨y, hy, hm⟩ := hm
      exact ⟨y, List.mem_cons_of_mem _ hy, hm⟩

/-- Files that were deleted can be written back. -/
theorem runs_writeAll_back {entries : List (Path × String)} {t : FileTree}
    (hdir : d.tree.Addresses dir l)
    (htexts : ∀ e ∈ entries, ∃ x, Path.IsName x ∧ e.1 = dir.file x ∧
      t.file? (l.child x) = some (.text e.2))
    (hwithout : t.Without (fun m => ∃ e ∈ entries, ∃ x, Path.IsName x ∧ e.1 = dir.file x ∧
      m = l.child x) d.tree) :
    (writeAll entries).Runs (host false tools) d
      (.ok (entries.map fun e => .file e.1 e.2.utf8ByteSize)) { d with tree := t } := by
  induction entries generalizing d with
  | nil =>
    obtain rfl : d.tree = t := hwithout.eq fun m hm => by simp at hm
    exact runs_pure_iff.2 ⟨rfl, rfl⟩
  | cons e entries ih =>
    obtain ⟨⟨x, hx, hpath, htext⟩, htexts⟩ := List.forall_mem_cons.1 htexts
    have hget : t.nodes.get? (l.child x) = some (.file (.text e.2)) := by
      simpa [FileTree.get?, Location.names_child_ne_nil] using FileTree.file?_eq_some_iff.1 htext
    have hplain : d.tree.get? (l.child x) ≠ some .dir := by
      rw [FileTree.get?, if_neg (by simp [Location.names_child_ne_nil])]
      rcases hwithout.nodes (l.child x) with heq | ⟨-, hnone⟩
      · simp [heq, hget]
      · simp [hnone]
    let d₁ : Disk := { d with tree := d.tree.put (l.child x) (.file (.text e.2)) }
    have hwrite : (host false tools).answer (.write e.1 e.2) d =
        (.ok (.file e.1 e.2.utf8ByteSize), d₁) := by
      rw [answer_write, hpath, write_file hdir hx, if_neg hplain]
    have hframe : FileTree.Frame (· = l.child x) d.tree d₁.tree :=
      .put hplain (fun m y heq => (Location.child_inj.1 heq).2 ▸ hx) _
    refine runs_writeAll_cons_ok_iff.2 ⟨_, d₁, _, hwrite, ?_, rfl⟩
    refine ih (d := d₁) (hdir.of_frame hframe) htexts ((hwithout.put hget).mono fun m hm => ?_)
    obtain ⟨⟨f, hf, y, hy, hfile, rfl⟩, hne⟩ := hm
    rcases List.mem_cons.1 hf with rfl | hf
    · exact absurd (by rw [Path.file_inj hy hx (hfile.symm.trans hpath)]) hne
    · exact ⟨f, hf, y, hy, hfile, rfl⟩

/-! ## Runs -/

/-- The generated files of a directory are those that a run would write. -/
structure UpToDate (set : Settings) (schema : Schema) (sources : List SourceFile) (l : Location)
    (d : Disk) : Prop where
  addresses : d.tree.Addresses set.modelsDir l
  named : d.tree.IsNamed
  texts : ∀ e ∈ (set.generatedFrom schema sources).entries, ∃ x, IsGeneratedName x ∧
    e.1 = set.modelsDir.file x ∧ d.tree.file? (l.child x) = some (.text e.2)
  /-- A search that does not get stuck finds no others, and finds them as files of the directory. -/
  only : Glob.isStuck set.modelsDir = false → Glob.dropsDot set.modelsDir = false ∧
    ∀ x, EndsGenerated x → (d.tree.file? (l.child x)).isSome = true →
      ∃ e ∈ (set.generatedFrom schema sources).entries, e.1 = set.modelsDir.file x
  scans : ∀ dry tools, (scan set.modelsDir).Runs (host dry tools) d (.ok sources) d

namespace UpToDate

/-- Cleaning deletes generated files that can be written back. -/
theorem exists_runs_clean (h : UpToDate set schema sources l d) (tools : Toolchain) :
    ∃ t, set.clean.Runs (host false tools) d (.ok (listed set d.tree l)) { d with tree := t } ∧
      FileTree.Frame (fun m => ∃ x, EndsGenerated x ∧ m = l.child x) d.tree t ∧
      d.tree.Without (fun m => ∃ e ∈ (set.generatedFrom schema sources).entries, ∃ x,
        Path.IsName x ∧ e.1 = set.modelsDir.file x ∧ m = l.child x) t := by
  have hlist := answer_list false tools h.named h.addresses
  suffices hdelete : ∃ t, (deleteAll (listed set d.tree l)).Runs (host false tools) d
      (.ok (listed set d.tree l)) { d with tree := t } ∧ _ ∧ _ by
    obtain ⟨t, hruns, hrest⟩ := hdelete
    exact ⟨t, runs_bind_iff.2 ⟨_, d, runs_ask_iff.2 hlist, hruns⟩, hrest⟩
  cases hstuck : Glob.isStuck set.modelsDir with
  | true =>
    rw [listed, hstuck, if_pos rfl]
    exact ⟨d.tree, runs_pure_iff.2 ⟨rfl, rfl⟩, .refl _ _, .refl _ _⟩
  | false =>
    rw [listed, hstuck, if_neg Bool.false_ne_true]
    have hreach := (Glob.reaches (Glob.find_of_addresses h.addresses hstuck)).2 hstuck
    have hnames : ∀ x ∈ Glob.namesEnding d.tree l Naming.generatedSuffix, Path.IsName x :=
      fun x hx => Glob.isName_of_mem_namesEnding h.named hx
    obtain ⟨t, hruns, hwithout⟩ := runs_deleteAll_files tools hreach hnames
      ((d.tree.nodup_names l).filter _) fun x hx => (mem_namesEnding.1 hx).2
    refine ⟨t, hruns, (deleteAll_spec hreach hnames hruns).1.mono fun m hm => ?_,
      hwithout.mono fun m hm => ?_⟩
    · obtain ⟨x, hx, hm⟩ := hm
      exact ⟨x, (mem_namesEnding.1 hx).1, hm⟩
    · obtain ⟨x, hx, hm⟩ := hm
      obtain ⟨hending, hfile⟩ := mem_namesEnding.1 hx
      obtain ⟨e, he, hpath⟩ := (h.only hstuck).2 x hending hfile
      exact ⟨e, he, x, hnames x hx, hpath, hm⟩

/-- A run that has its directory leaves the disk as it was. -/
theorem runs_generateLocked (h : UpToDate set schema sources l d) (hmode : set.mode = .sourceOnly)
    (tools : Toolchain) :
    (set.generateLocked schema false).run.Runs (host false tools) d
      (.ok (set.report schema (listed set d.tree l) sources
        ((set.generatedFrom schema sources).entries.map fun e => .file e.1 e.2.utf8ByteSize) none))
      d := by
  obtain ⟨t, hclean, hframe, hwithout⟩ := h.exists_runs_clean tools
  let d₁ : Disk := { d with tree := t }
  have hdir : d₁.tree.Addresses set.modelsDir l := h.addresses.of_frame hframe
  have hscan : (scan set.modelsDir).Runs (host false tools) d₁ (.ok sources) d₁ := by
    refine (runs_scan_congr h.named (hframe.named h.named) h.addresses hdir ?_
      (h.scans false tools)).1
    rintro x - hx
    refine hframe.files _ ?_
    rintro ⟨y, hy, heq⟩
    exact hx ((Location.child_inj.1 heq).2 ▸ hy)
  have hwrite : (writeAll (set.generatedFrom schema sources).entries).Runs (host false tools) d₁
      (.ok ((set.generatedFrom schema sources).entries.map fun e =>
        .file e.1 e.2.utf8ByteSize)) d := by
    refine runs_writeAll_back (d := d₁) hdir (fun e he => ?_) hwithout
    obtain ⟨x, hx, hpath, htext⟩ := h.texts e he
    exact ⟨x, hx.toIsName, hpath, htext⟩
  have hcompile : (set.compile false (set.compileRequest sources
      (set.generatedFrom schema sources))).run.Runs (host false tools) d (.ok none) d := by
    rw [Settings.compile, hmode]
    exact runs_pure_iff.2 ⟨rfl, rfl⟩
  exact Settings.runs_generateLocked_ok_iff.2
    ⟨_, sources, _, none, d₁, d₁, d, hclean, hscan, hwrite, hcompile, rfl⟩

/-- The files that are deleted are those that are written, unless the search for them gets stuck.
Then none is deleted. -/
theorem sameFiles_listed_iff (h : UpToDate set schema sources l d) :
    SameFiles (listed set d.tree l) (set.generatedFrom schema sources).keys ↔
      Glob.isStuck set.modelsDir = false := by
  obtain ⟨e, he⟩ := set.exists_mem_generatedFrom schema sources
  cases hstuck : Glob.isStuck set.modelsDir with
  | true =>
    rw [listed, hstuck, if_pos rfl]
    refine iff_of_false (fun hsame => ?_) (by simp)
    obtain ⟨q, hq, -⟩ := (hsame e.1).2 ⟨e.1, SortedMap.mem_keys.2 ⟨e.2, he⟩, by simp [Path.same]⟩
    cases hq
  | false =>
    refine iff_of_true (fun p => ?_) rfl
    obtain ⟨hdrops, honly⟩ := h.only hstuck
    have hreach := (Glob.reaches (Glob.find_of_addresses h.addresses hstuck)).2 hstuck
    have hbelow {x : String} (hx : Path.IsName x) :
        (Glob.below (Glob.reach set.modelsDir) x).components = (set.modelsDir.file x).components := by
      rw [(hreach.below hx).2, Path.components_file _ hx, Glob.listedComponents, hdrops]
      rfl
    rw [listed, hstuck, if_neg Bool.false_ne_true]
    constructor
    · rintro ⟨q, hq, hsame⟩
      obtain ⟨x, hx, rfl⟩ := List.mem_map.1 hq
      obtain ⟨hending, hfile⟩ := mem_namesEnding.1 hx
      obtain ⟨e, he, hpath⟩ := honly x hending hfile
      refine ⟨e.1, SortedMap.mem_keys.2 ⟨e.2, he⟩, ?_⟩
      rwa [hpath, Path.same, ← hbelow (Glob.isName_of_mem_namesEnding h.named hx)]
    · rintro ⟨q, hq, hsame⟩
      obtain ⟨text, he⟩ := SortedMap.mem_keys.1 hq
      obtain ⟨x, hx, hpath, htext⟩ := h.texts _ he
      obtain rfl : q = set.modelsDir.file x := hpath
      refine ⟨_, List.mem_map_of_mem (mem_namesEnding.2 ⟨hx.ending, by simp [htext]⟩), ?_⟩
      rwa [Path.same, hbelow hx.toIsName]

end UpToDate

end Disk

end ContentModels
