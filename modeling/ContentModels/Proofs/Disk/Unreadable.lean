import ContentModels.Proofs.Run.Unreadable

/-!
# Runs without a file that cannot be read

Runs on two disks can be followed side by side if one of them lacks a hand-authored file that is no
source text: all calls are answered alike but those that list and read the file, and the index gets
another text. So such a file is as good as absent, on a disk as well as in memory.

## Main definitions

* `Disk.Lacks` — a disk without a file that is read on another one.
* `Disk.SameSources` — two disks with the same source files but for that one and the index.

## Main statements

* `Disk.couples` — runs on two such disks.
* `Disk.exists_lacks` — deleting the file leads to such a disk.
* `Settings.tells_of_unreadable` — what runs come to next to the file and without it.
-/

namespace ContentModels

open Program

variable {b : SourceFile} {e : HandFileError} {before after : List SourceFile}

/-! ## Files on a disk -/

namespace Disk

variable {set : Settings} {dry : Bool} {tools : Toolchain} {l : Location} {x y : String}
  {d d' f f' : Disk}

/-- The same is at a place of both trees, or files with different contents are. -/
def AlikeAt (t t' : FileTree) (m : Location) : Prop :=
  t'.get? m = t.get? m ∨ ∃ c c', t.get? m = some (.file c) ∧ t'.get? m = some (.file c')

/-- The second disk lacks one of the files that are read on the first one, and the index may have
another text. -/
structure Lacks (set : Settings) (dry : Bool) (tools : Toolchain) (l : Location) (x : String)
    (before : List SourceFile) (b : SourceFile) (after : List SourceFile) (d d' : Disk) : Prop where
  held : d'.held = d.held
  find : d.tree.find set.modelsDir = .ok (.node l .dir)
  find' : d'.tree.find set.modelsDir = .ok (.node l .dir)
  named : d.tree.IsNamed
  named' : d'.tree.IsNamed
  source : ".rs".toList <:+ x.toList ∧ ¬EndsGenerated x
  same : ∀ y, y ≠ x → y ≠ Rendering.indexFileName → d'.tree.get? (l.child y) = d.tree.get? (l.child y)
  index : AlikeAt d.tree d'.tree (l.child Rendering.indexFileName)
  scans : (scan set.modelsDir).Runs (host dry tools) d (.ok (before ++ b :: after)) d
  scans' : (scan set.modelsDir).Runs (host dry tools) d' (.ok (before ++ after)) d'

/-- The source files of a directory, but for one and the index, are the same on two disks. -/
def SameSources (l : Location) (x : String) (d d' : Disk) : Prop :=
  ∀ y, ".rs".toList <:+ y.toList → y ≠ x → y ≠ Rendering.indexFileName →
    d'.tree.file? (l.child y) = d.tree.file? (l.child y)

theorem SameSources.of_frame {touched touched' : Location → Prop} (h : SameSources l x d d')
    (hframe : FileTree.Frame touched d.tree f.tree)
    (hframe' : FileTree.Frame touched' d'.tree f'.tree)
    (hother : ∀ y, ".rs".toList <:+ y.toList → ¬touched (l.child y) ∧ ¬touched' (l.child y)) :
    SameSources l x f f' := by
  intro y hy hx hindex
  rw [hframe.files _ (hother y hy).1, hframe'.files _ (hother y hy).2, h y hy hx hindex]

namespace Lacks

variable (h : Lacks set dry tools l x before b after d d')

include h

theorem sameSources : SameSources l x d d' := fun y _ hx hindex => by
  rw [FileTree.file?, FileTree.file?, h.same y hx hindex]

theorem alikeAt (hx : y ≠ x) : AlikeAt d.tree d'.tree (l.child y) := by
  by_cases hindex : y = Rendering.indexFileName
  · exact hindex ▸ h.index
  · exact .inl (h.same y hx hindex)

theorem ne_of_generated (hy : ".rs".toList <:+ y.toList → EndsGenerated y) : y ≠ x := by
  rintro rfl
  exact h.source.2 (hy h.source.1)

theorem get?_eq_dir_iff (hx : y ≠ x) :
    d'.tree.get? (l.child y) = some .dir ↔ d.tree.get? (l.child y) = some .dir := by
  rcases h.alikeAt hx with heq | ⟨c, c', hget, hget'⟩
  · rw [heq]
  · simp [hget, hget']

/-- One file that is not hand-authored is changed alike on both disks, or gets different contents if
it is the index. -/
theorem of_change (hy : ".rs".toList <:+ y.toList → EndsGenerated y) {n n' : Option Node}
    (hframe : FileTree.Frame (· = l.child y) d.tree f.tree)
    (hframe' : FileTree.Frame (· = l.child y) d'.tree f'.tree)
    (hget : ∀ m, f.tree.get? m = if m = l.child y then n else d.tree.get? m)
    (hget' : ∀ m, f'.tree.get? m = if m = l.child y then n' else d'.tree.get? m)
    (held : f'.held = f.held)
    (hsame : n' = n ∨ y = Rendering.indexFileName ∧
      ∃ c c', n = some (.file c) ∧ n' = some (.file c')) :
    Lacks set dry tools l x before b after f f' := by
  have hhand (z : String) (hz : ".rs".toList <:+ z.toList) (hgen : ¬EndsGenerated z) :
      l.child z ≠ l.child y := by
    intro heq
    obtain ⟨-, rfl⟩ := Location.child_inj.1 heq
    exact hgen (hy hz)
  refine ⟨held, hframe.find h.find, hframe'.find h.find', hframe.named h.named,
    hframe'.named h.named', h.source, ?_, ?_, ?_, ?_⟩
  · intro z hz hindex
    rw [hget, hget', h.same z hz hindex]
    by_cases hzy : z = y
    · rw [hsame.resolve_right fun hother => hindex (hzy.trans hother.1)]
    · simp [hzy]
  · rw [AlikeAt, hget, hget']
    by_cases hindex : Rendering.indexFileName = y
    · simpa [hindex] using hsame.imp_right And.right
    · simpa [hindex, AlikeAt] using h.index
  · exact (runs_scan_congr h.named (hframe.named h.named) (.of_find h.find)
      (.of_find (hframe.find h.find)) (fun z hz hgen => hframe.files _ (hhand z hz hgen)) h.scans).1
  · exact (runs_scan_congr h.named' (hframe'.named h.named') (.of_find h.find')
      (.of_find (hframe'.find h.find')) (fun z hz hgen => hframe'.files _ (hhand z hz hgen))
      h.scans').1

/-- The same generated file is written on both disks, or different texts of the index are. -/
theorem of_put (hname : Path.IsName y) (hy : ".rs".toList <:+ y.toList → EndsGenerated y)
    (hdir : d.tree.get? (l.child y) ≠ some .dir) {c c' : Content}
    (htree : f.tree = d.tree.put (l.child y) (.file c))
    (htree' : f'.tree = d'.tree.put (l.child y) (.file c'))
    (held : f'.held = f.held) (hsame : y ≠ Rendering.indexFileName → c = c') :
    Lacks set dry tools l x before b after f f' := by
  have hdir' := mt (h.get?_eq_dir_iff (h.ne_of_generated hy)).1 hdir
  have hnames (m : Location) (z : String) (heq : l.child y = m.child z) : Path.IsName z := by
    obtain ⟨-, rfl⟩ := Location.child_inj.1 heq
    exact hname
  have hget (m : Location) := FileTree.get?_put hdir (.file c) m
  have hget' (m : Location) := FileTree.get?_put hdir' (.file c') m
  have hframe := FileTree.Frame.put hdir hnames (.file c)
  have hframe' := FileTree.Frame.put hdir' hnames (.file c')
  rw [← htree] at hget hframe
  rw [← htree'] at hget' hframe'
  refine h.of_change hy hframe hframe' hget hget' held ?_
  by_cases hindex : y = Rendering.indexFileName
  · exact .inr ⟨hindex, c, c', rfl, rfl⟩
  · exact .inl (by rw [hsame hindex])

/-- The same file is deleted on both disks. -/
theorem of_erase (hy : ".rs".toList <:+ y.toList → EndsGenerated y)
    (hdir : d.tree.get? (l.child y) ≠ some .dir)
    (htree : f.tree = d.tree.erase (l.child y)) (htree' : f'.tree = d'.tree.erase (l.child y))
    (held : f'.held = f.held) : Lacks set dry tools l x before b after f f' := by
  have hdir' := mt (h.get?_eq_dir_iff (h.ne_of_generated hy)).1 hdir
  have hget (m : Location) := FileTree.get?_erase hdir m
  have hget' (m : Location) := FileTree.get?_erase hdir' m
  have hframe := FileTree.Frame.erase hdir
  have hframe' := FileTree.Frame.erase hdir'
  rw [← htree] at hget hframe
  rw [← htree'] at hget' hframe'
  exact h.of_change hy hframe hframe' hget hget' held (.inl rfl)

end Lacks

/-! ### The calls of a run -/

/-- A file is deleted alike on both disks. -/
theorem coupled_delete {p : Path} (hy : ".rs".toList <:+ y.toList → EndsGenerated y)
    (hentry : ∀ d : Disk, d.tree.find set.modelsDir = .ok (.node l .dir) →
      d.tree.find p = .ok (d.tree.entry l y)) :
    Coupled (host dry tools) (Lacks set dry tools l x before b after) (Matches Eq)
      (ask (.delete p)) (ask (.delete p)) := by
  refine coupled_ask_iff.2 fun d d' h => ?_
  cases dry with
  | true => exact ⟨.ok rfl, h⟩
  | false =>
    rw [answer_delete, answer_delete, delete, delete, FileTree.delete_entry (hentry d h.find),
      FileTree.delete_entry (hentry d' h.find')]
    rcases h.alikeAt (h.ne_of_generated hy) with heq | ⟨c, c', hget, hget'⟩
    · rw [heq]
      rcases hget : d.tree.get? (l.child y) with _ | _ | c
      · exact ⟨.ok rfl, h⟩
      · exact ⟨.failed _, h⟩
      · exact ⟨.ok rfl, h.of_erase hy (by simp [hget]) rfl rfl h.held⟩
    · rw [hget, hget']
      exact ⟨.ok rfl, h.of_erase hy (by simp [hget]) rfl rfl h.held⟩

theorem coupled_clean : Coupled (host dry tools) (Lacks set dry tools l x before b after)
    (Matches Eq) set.clean set.clean := by
  have hlist : Coupled (host dry tools) (Lacks set dry tools l x before b after)
      (fun a a' => a = a' ∧ ∃ t : FileTree, t.IsNamed ∧
        t.find set.modelsDir = .ok (.node l .dir) ∧ a = .ok (listed set t l))
      (ask (.list set.modelsDir generatedPattern)) (ask (.list set.modelsDir generatedPattern)) := by
    refine coupled_ask_iff.2 fun d d' h => ?_
    have hnames : Glob.namesEnding d'.tree l Naming.generatedSuffix =
        Glob.namesEnding d.tree l Naming.generatedSuffix := by
      refine FileTree.filter_names_congr fun y => ?_
      have hmem (t : FileTree) := mem_namesEnding (l := l) (t := t) (x := y)
      simp only [Glob.namesEnding, List.mem_filter] at hmem
      rw [hmem, hmem, and_congr_right_iff]
      intro hy
      rcases h.alikeAt (h.ne_of_generated fun _ => hy) with heq | ⟨c, c', hget, hget'⟩
      · rw [FileTree.file?, FileTree.file?, heq]
      · rw [FileTree.file?, FileTree.file?, hget, hget']
        exact .rfl
    rw [answer_list dry tools h.named (.of_find h.find),
      answer_list dry tools h.named' (.of_find h.find'), listed, listed, hnames]
    exact ⟨⟨rfl, d.tree, h.named, h.find, rfl⟩, h⟩
  refine hlist.bind fun a a' ha => ?_
  obtain ⟨rfl, t, named, hfind, rfl⟩ := ha
  refine coupled_deleteAll fun p hp => ?_
  rw [listed] at hp
  split at hp
  · cases hp
  next hstuck =>
  obtain ⟨y, hy, rfl⟩ := List.mem_map.1 hp
  refine coupled_delete (y := y) (fun _ => (mem_namesEnding.1 hy).1) fun d hd => ?_
  exact (((Glob.reaches hd).2 (by simpa using hstuck)).below
    (Glob.isName_of_mem_namesEnding named hy)).1

theorem coupled_write (hy : IsGeneratedName y) {text text' : String}
    (hsame : y ≠ Rendering.indexFileName → text = text') :
    Coupled (host dry tools) (Lacks set dry tools l x before b after)
      (Matches fun w w' => w.path = w'.path) (ask (.write (set.modelsDir.file y) text))
      (ask (.write (set.modelsDir.file y) text')) := by
  refine coupled_ask_iff.2 fun d d' h => ?_
  cases dry with
  | true => exact ⟨.ok rfl, h⟩
  | false =>
    rw [answer_write, answer_write, write_file (.of_find h.find) hy.toIsName,
      write_file (.of_find h.find') hy.toIsName]
    have hgen : ".rs".toList <:+ y.toList → EndsGenerated y := fun _ => hy.ending
    by_cases hdir : d.tree.get? (l.child y) = some .dir
    · rw [if_pos hdir, if_pos ((h.get?_eq_dir_iff (h.ne_of_generated hgen)).2 hdir)]
      exact ⟨.failed _, h⟩
    · rw [if_neg hdir, if_neg (mt (h.get?_eq_dir_iff (h.ne_of_generated hgen)).1 hdir)]
      refine ⟨.ok rfl, h.of_put hy.toIsName hgen hdir rfl rfl h.held fun hindex => ?_⟩
      rw [hsame hindex]

theorem giveBack_eq (guard : Guard) (d : Disk) :
    giveBack (host dry tools) guard d = d.unlock guard := rfl

theorem givesBack (set : Settings) (dry : Bool) (tools : Toolchain) (l : Location) (x : String)
    (before : List SourceFile) (b : SourceFile) (after : List SourceFile) :
    set.GivesBack (host dry tools) (Lacks set dry tools l x before b after) (SameSources l x)
      (guardOf l set.modelsDir) := by
  have hback {d d' : Disk} (hsame : SameSources l x d d')
      (hdir : d.tree.Addresses set.modelsDir l) (hdir' : d'.tree.Addresses set.modelsDir l) :
      SameSources l x (d.unlock (guardOf l set.modelsDir)) (d'.unlock (guardOf l set.modelsDir)) := by
    have hother (y : String) (hy : ".rs".toList <:+ y.toList) :
        l.child y ≠ l.child lockFileName := fun heq =>
      ne_lockFileName hy (Location.child_inj.1 heq).2
    have hguard (file : Path) (hfile : (guardOf l set.modelsDir).file = some file) :
        file = set.modelsDir.file lockFileName := (Option.some.inj hfile).symm
    have hframe := removeLockFile_frame hdir hguard
    have hframe' := removeLockFile_frame hdir' hguard
    exact hsame.of_frame hframe hframe' fun y hy => ⟨hother y hy, hother y hy⟩
  intro d d' h
  simp only [giveBack_eq, state_compile]
  refine ⟨hback h.sameSources (.of_find h.find) (.of_find h.find'), fun schema l₁ l₂ => ?_⟩
  have houtput (l : List SourceFile) : (set.requestFrom schema l).output =
      (set.artifactDir.getD (set.modelsDir.file Settings.artifactDirName)).file
        (Naming.artifactFileName set.space) := by
    rw [Settings.requestFrom, Settings.compileRequest, Settings.artifactPath]
  have hframe := compile_frame (d := d) tools (Naming.isName_artifactFileName set.space) (houtput l₁)
  have hframe' := compile_frame (d := d') tools (Naming.isName_artifactFileName set.space) (houtput l₂)
  have hother (y : String) (hy : ".rs".toList <:+ y.toList) :
      ¬∃ m : Location, l.child y = m.child (Naming.artifactFileName set.space) := by
    rintro ⟨m, heq⟩
    exact ne_artifactFileName hy (Location.child_inj.1 heq).2
  refine hback (h.sameSources.of_frame hframe hframe' fun y hy => ⟨hother y hy, hother y hy⟩) ?_ ?_
  · exact .of_find (hframe.find h.find)
  · exact .of_find (hframe'.find h.find')

theorem coupled_lock : Coupled (host dry tools) (Lacks set dry tools l x before b after)
    (Matches fun g g' => g = g' ∧
      set.GivesBack (host dry tools) (Lacks set dry tools l x before b after) (SameSources l x) g)
    (ask (.lock set.modelsDir)) (ask (.lock set.modelsDir)) := by
  refine coupled_ask_iff.2 fun d d' h => ?_
  have hrs : ".rs".toList <:+ lockFileName.toList → EndsGenerated lockFileName :=
    fun hsource => absurd rfl (ne_lockFileName hsource)
  have hget := h.same lockFileName (h.ne_of_generated hrs) (by decide)
  rw [answer_lock, answer_lock, lock_eq h.find, lock_eq h.find', h.held, hget]
  split
  · exact ⟨.failed _, h⟩
  · cases hvacant : d.tree.get? (l.child lockFileName) with
    | some n => exact ⟨.failed _, h⟩
    | none =>
      refine ⟨.ok ⟨rfl, givesBack set dry tools l x before b after⟩,
        h.of_put isName_lockFileName hrs (by simp [hvacant]) rfl rfl ?_ fun _ => rfl⟩
      exact congrArg (SortedSet.add · l.path) h.held

/-- Runs on disks one of which lacks an unreadable file. -/
theorem couples (h : b.read = .error e) :
    set.Couples (host dry tools) (Lacks set dry tools l x before b after) (SameSources l x)
      (Settings.Misses before b after) where
  final _ _ hd := hd.sameSources
  createDir := by
    refine coupled_ask_iff.2 fun d d' hd => ?_
    cases dry with
    | true => exact ⟨.ok rfl, hd⟩
    | false =>
      rw [answer_createDir, answer_createDir, createDir_of_addresses (.of_find hd.find),
        createDir_of_addresses (.of_find hd.find')]
      exact ⟨.ok rfl, hd⟩
  lock := coupled_lock
  clean := coupled_clean
  scan d d' hd := by
    rw [hd.scans.1, hd.scans'.1, hd.scans.2, hd.scans'.2]
    exact ⟨.ok ⟨rfl, rfl⟩, hd⟩
  generated _ _ hl schema := Settings.generatedFrom_unreadable h hl schema
  write y hy text text' hsame := by
    refine coupled_write hy fun hindex => hsame fun heq => hindex ?_
    exact (Path.compare_file_iff hy.toIsName isGeneratedName_indexFileName.toIsName).1 heq

/-! ### Without one file -/

theorem answer_read_ok_iff {file : Path} {text : String} :
    (host dry tools).answer (.read file) d = (.ok text, d') ↔
      d.tree.read file = .ok text ∧ d' = d := by
  change ((d.tree.read file).mapError (StoreError.read file), d) = (.ok text, d') ↔ _
  rw [Prod.mk.injEq, eq_comm (a := d)]
  cases d.tree.read file <;> simp [Except.mapError]

/-- What is read of some files, if they can be read. -/
theorem runs_readSources_ok_iff {files : List Path} {sources : List SourceFile} :
    (readSources files).Runs (host dry tools) d (.ok sources) d ↔
      sources.map (·.path) = files.filter (fun file => !file.isGenerated) ∧
        ∀ f ∈ sources, d.tree.read f.path = .ok f.content := by
  induction files generalizing sources with
  | nil =>
    refine runs_pure_iff.trans ?_
    simp +contextual [and_iff_left]
  | cons file rest ih =>
    cases hgen : file.isGenerated with
    | true =>
      rw [readSources_cons_of_isGenerated hgen, ih, List.filter_cons_of_neg (by simp [hgen])]
    | false =>
      rw [runs_readSources_cons_ok_iff hgen, List.filter_cons_of_pos (by simp [hgen])]
      constructor
      · rintro ⟨text, m, more, hread, hrest, rfl⟩
        obtain ⟨htext, rfl⟩ := answer_read_ok_iff.1 hread
        obtain ⟨hpaths, hreads⟩ := ih.1 hrest
        exact ⟨by rw [List.map_cons, hpaths], List.forall_mem_cons.2 ⟨htext, hreads⟩⟩
      · rintro ⟨hpaths, hreads⟩
        obtain ⟨f, more, rfl, rfl, hmore⟩ := List.map_eq_cons_iff.1 hpaths
        obtain ⟨htext, hreads⟩ := List.forall_mem_cons.1 hreads
        exact ⟨f.content, d, more, answer_read_ok_iff.2 ⟨htext, rfl⟩, ih.2 ⟨hmore, hreads⟩, rfl⟩

/-- The files that are read of a directory, in the order of their paths. -/
theorem runs_scan_ok_iff {dir : Path} {sources : List SourceFile} (named : d.tree.IsNamed)
    (hfind : d.tree.find dir = .ok (.node l .dir)) (hstuck : Glob.isStuck dir = false) :
    (scan dir).Runs (host dry tools) d (.ok sources) d ↔
      sources.map (·.path) = (sourceNames d.tree l).map (Glob.below (Glob.reach dir)) ∧
        ∀ f ∈ sources, d.tree.read f.path = .ok f.content := by
  have hreach := (Glob.reaches hfind).2 hstuck
  have hlist : (host dry tools).answer (.list dir sourcePattern) d =
      (.ok ((Glob.namesEnding d.tree l ".rs").map (Glob.below (Glob.reach dir))), d) := by
    refine Prod.ext ((Glob.list_eq named (.of_find hfind) endsLike_sourcePattern).trans ?_) rfl
    rw [hstuck, if_neg Bool.false_ne_true]
  have hhand : ((sourceNames d.tree l).map (Glob.below (Glob.reach dir))).filter
      (fun file => !file.isGenerated) = (sourceNames d.tree l).map (Glob.below (Glob.reach dir)) := by
    refine List.filter_eq_self.2 fun p hp => ?_
    obtain ⟨x, hx, rfl⟩ := List.mem_map.1 hp
    rw [hreach.isGenerated_below (Glob.isName_of_mem_namesEnding named (List.mem_filter.1 hx).1)]
    exact (List.mem_filter.1 hx).2
  have hscan : (scan dir).Runs (host dry tools) d (.ok sources) d ↔
      (readSources ((Glob.namesEnding d.tree l ".rs").map (Glob.below (Glob.reach dir)))).Runs
        (host dry tools) d (.ok sources) d := by
    constructor
    · intro h
      obtain ⟨answer, m, hask, h⟩ := runs_bind_iff.1 h
      obtain ⟨rfl, rfl⟩ := Prod.mk.inj ((runs_ask_iff.1 hask).symm.trans hlist)
      exact h
    · exact fun h => runs_bind_iff.2 ⟨_, d, runs_ask_iff.2 hlist, h⟩
  rw [hscan, readSources_below named hreach, runs_readSources_ok_iff, hhand]

/-- A directory of which something is read is there, and a search for it does not get stuck. -/
theorem exists_find_of_runs_scan {dir : Path} {sources : List SourceFile} (named : d.tree.IsNamed)
    (h : (scan dir).Runs (host dry tools) d (.ok sources) d) (hne : sources ≠ []) :
    ∃ l, d.tree.find dir = .ok (.node l .dir) ∧ Glob.isStuck dir = false := by
  cases hdir : d.tree.isDir dir with
  | false => exact absurd (eq_nil_of_runs_scan hdir h) hne
  | true =>
    obtain ⟨l, hfind⟩ := FileTree.isDir_iff.1 hdir
    refine ⟨l, hfind, Bool.eq_false_iff.2 fun hstuck => hne ?_⟩
    obtain ⟨answer, m, hlist, hread⟩ := runs_bind_iff.1 h
    have hanswer : (Glob.list d.tree dir sourcePattern, d) = (answer, m) := runs_ask_iff.1 hlist
    rw [Glob.list_eq named (.of_find hfind) endsLike_sourcePattern, hstuck] at hanswer
    obtain ⟨rfl, rfl⟩ := Prod.mk.inj hanswer
    exact Except.ok.inj (runs_pure_iff.1 hread).1

/-- The files that are read come in the order of their paths. -/
theorem pairwise_of_runs_scan {dir : Path} {sources : List SourceFile} (named : d.tree.IsNamed)
    (h : (scan dir).Runs (host dry tools) d (.ok sources) d) :
    sources.Pairwise fun f g => compare f.path g.path = .lt := by
  by_cases hne : sources = []
  · exact hne ▸ .nil
  obtain ⟨l, hfind, hstuck⟩ := exists_find_of_runs_scan named h hne
  have hreach := (Glob.reaches hfind).2 hstuck
  have hpaths := ((runs_scan_ok_iff named hfind hstuck).1 h).1
  have hnames := ((d.tree.pairwise_names l).sublist List.filter_sublist).sublist
    (List.filter_sublist : (sourceNames d.tree l).Sublist (Glob.namesEnding d.tree l ".rs"))
  have hsorted : (sources.map (·.path)).Pairwise fun p q => compare p q = .lt := by
    rw [hpaths, List.pairwise_map]
    refine hnames.imp_of_mem fun {x y} hx hy hlt => ?_
    have hx' := Glob.isName_of_mem_namesEnding named (List.mem_filter.1 hx).1
    have hy' := Glob.isName_of_mem_namesEnding named (List.mem_filter.1 hy).1
    rw [Path.compare_of_components (hreach.below hx').2 (hreach.below hy').2, hlt]
  exact List.pairwise_map.1 hsorted

/-- Without one file, the names of the others are left. -/
theorem sourceNames_erase {t : FileTree} (hx : t.get? (l.child x) ≠ some .dir) :
    sourceNames (t.erase (l.child x)) l = (sourceNames t l).filter (· != x) := by
  rw [sourceNames, sourceNames, Glob.namesEnding, Glob.namesEnding, List.filter_filter,
    List.filter_filter, List.filter_filter]
  refine FileTree.filter_names_congr fun y => ?_
  have hmem (t : FileTree) := mem_sourceNames (l := l) (t := t) (x := y)
  simp only [sourceNames, Glob.namesEnding, List.filter_filter, List.mem_filter] at hmem
  have hfile : (t.erase (l.child x)).file? (l.child y) =
      if y = x then none else t.file? (l.child y) := by
    rw [FileTree.file?, FileTree.file?, FileTree.get?_erase hx]
    by_cases hyx : y = x <;> simp [hyx]
  rw [hmem, hfile, Bool.and_assoc, Bool.and_eq_true,
    and_left_comm (a := y ∈ t.names l), hmem, bne_iff_ne]
  by_cases hyx : y = x <;> simp [hyx]

/-- Without a file that is read, the others are read. -/
theorem exists_lacks (named : d.tree.IsNamed)
    (h : (scan set.modelsDir).Runs (host dry tools) d (.ok (before ++ b :: after)) d) :
    ∃ l x, b.path.fileName? = some x ∧
      Lacks set dry tools l x before b after d (d.delete b.path).2 := by
  obtain ⟨l, hfind, hstuck⟩ := exists_find_of_runs_scan named h (by simp)
  have hreach := (Glob.reaches hfind).2 hstuck
  obtain ⟨hpaths, hreads⟩ := (runs_scan_ok_iff named hfind hstuck).1 h
  obtain ⟨x, hx, hpath⟩ : ∃ x ∈ sourceNames d.tree l,
      Glob.below (Glob.reach set.modelsDir) x = b.path := by
    have hmem : b.path ∈ (before ++ b :: after).map (·.path) := List.mem_map_of_mem (by simp)
    rw [hpaths] at hmem
    exact List.mem_map.1 hmem
  have hname := Glob.isName_of_mem_namesEnding named (List.mem_filter.1 hx).1
  obtain ⟨hsource, hgen, hfile⟩ := mem_sourceNames.1 hx
  obtain ⟨content, hcontent⟩ := Option.isSome_iff_exists.1 hfile
  have hget := FileTree.file?_eq_some_iff.1 hcontent
  have hdelete : d.delete b.path = (.ok true, { d with tree := d.tree.erase (l.child x) }) := by
    rw [delete, ← hpath, FileTree.delete_entry (hreach.below hname).1, hget]
  have hframe := FileTree.Frame.erase (t := d.tree) (l := l.child x) (by simp [hget])
  rw [hdelete]
  refine ⟨l, x, by rw [← hpath, Path.fileName?, (hreach.below hname).2]; simp, ?_⟩
  refine ⟨rfl, hfind, hframe.find hfind, named, hframe.named named, ⟨hsource, hgen⟩, ?_, ?_, h, ?_⟩
  · intro y hy _
    rw [FileTree.get?_erase (by simp [hget])]
    simp [hy]
  · refine .inl ?_
    rw [FileTree.get?_erase (by simp [hget]), if_neg fun heq => ?_]
    exact hgen ((Location.child_inj.1 heq).2 ▸ isGeneratedName_indexFileName.ending)
  have hfilter := filter_path_ne (pairwise_of_runs_scan named h)
  have hleft : (before ++ after).map (·.path) = ((sourceNames d.tree l).filter (· != x)).map
      (Glob.below (Glob.reach set.modelsDir)) := by
    have hmapped := congrArg (List.filter fun p => compare b.path p != .eq) hpaths
    rw [List.filter_map, List.filter_map] at hmapped
    refine (congrArg (List.map _) hfilter.symm).trans (hmapped.trans (congrArg _ ?_))
    refine List.filter_congr fun y hy => ?_
    have hy' := Glob.isName_of_mem_namesEnding named (List.mem_filter.1 hy).1
    rw [Function.comp_apply, ← hpath, Bool.eq_iff_iff, bne_iff_ne, bne_iff_ne, ne_eq, ne_eq,
      Path.compare_eq_iff, (hreach.below hname).2, (hreach.below hy').2]
    simp [eq_comm]
  refine (runs_scan_ok_iff (hframe.named named) (hframe.find hfind) hstuck).2 ⟨?_, fun f hf => ?_⟩
  · rw [sourceNames_erase (by simp [hget]), hleft]
  · have hmem : f.path ∈ (before ++ after).map (·.path) := List.mem_map_of_mem hf
    rw [hleft] at hmem
    obtain ⟨y, hy, hpathy⟩ := List.mem_map.1 hmem
    obtain ⟨hyin, hyne⟩ := List.mem_filter.1 hy
    have hy' := Glob.isName_of_mem_namesEnding named (List.mem_filter.1 hyin).1
    have hf' : f ∈ before ++ b :: after :=
      List.mem_append.2 ((List.mem_append.1 hf).imp_right (List.mem_cons_of_mem b))
    rw [← hreads f hf', ← hpathy]
    refine read_congr (hreach.below hy').1 ((hreach.of_frame hframe).below hy').1 ?_
      (mem_sourceNames.1 hyin).2.2
    exact hframe.files _ fun heq => bne_iff_ne.1 hyne (Location.child_inj.1 heq).2

end Disk

namespace Settings

/-! ## Runs next to a file that cannot be read -/

/-- A hand-authored file that is no source text is as good as absent. A run next to it, and one of
the same files without it, fail alike, or plan and generate the same but for the index; if an
artifact is asked for, it is up to the compiler what becomes of that. What they report differs by
one diagnostic, which names the file, and stands behind those of the files before it in the order of
paths. -/
theorem tells_of_unreadable (set : Settings) (input : Except SchemaFailure Schema) (dry : Bool)
    (before after : List SourceFile) (b : SourceFile) (e : HandFileError)
    (unreadable : b.read = .error e) :
    let d := Diagnostic.ofHandFile e
    (d.severity = .error ∧ d.kind = .parseFailure ∧ d.subject = b.path.text) ∧
    (∀ (compiler : CompileRequest → Except CompileError Artifact) (store : MemoryStore),
      MemoryStore.scanned set.modelsDir store.files = before ++ b :: after →
      let run := (set.generate input dry).execute (MemoryStore.host dry {} compiler)
      let without := store.delete b.path
      (before ++ b :: after).Pairwise (fun f g => compare f.path g.path = .lt) ∧
      set.Outcomes dry (set.Tells before d after) (run store).result (run without).result ∧
      ((run store).state.files.erase b.path).AgreesBut set.indexPath (run without).state.files) ∧
    ∀ (tools : Toolchain) (disk : Disk), disk.tree.IsNamed →
      (scan set.modelsDir).Runs (Disk.host dry tools) disk (.ok (before ++ b :: after)) disk →
      let run := (set.generate input dry).execute (Disk.host dry tools)
      let without := (disk.delete b.path).2
      (before ++ b :: after).Pairwise (fun f g => compare f.path g.path = .lt) ∧
      set.Outcomes dry (set.Tells before d after) (run disk).result (run without).result ∧
      ∃ l x, disk.tree.find set.modelsDir = .ok (.node l .dir) ∧ b.path.fileName? = some x ∧
        Disk.SameSources l x (run disk).state (run without).state := by
  intro d
  refine ⟨?_, fun compiler store hscanned => ?_, fun tools disk named hscan => ?_⟩
  · obtain ⟨pos, reason, rfl⟩ := SourceFile.exists_of_read_error unreadable
    exact ⟨rfl, rfl, rfl⟩
  · obtain ⟨hresults, hfiles⟩ := (MemoryStore.couples unreadable).outcomes_generate input
      (MemoryStore.lacks_delete hscanned)
    refine ⟨hscanned ▸ MemoryStore.pairwise_scanned _ _, hresults.mono ?_, hfiles⟩
    exact fun r r' hreports => tells_of_reports unreadable hreports.choose_spec.2
  · obtain ⟨l, x, hname, hlacks⟩ := Disk.exists_lacks named hscan
    obtain ⟨hresults, hfiles⟩ := (Disk.couples unreadable).outcomes_generate input hlacks
    refine ⟨Disk.pairwise_of_runs_scan named hscan, hresults.mono ?_, l, x, hlacks.find, hname, hfiles⟩
    exact fun r r' hreports => tells_of_reports unreadable hreports.choose_spec.2

/-- A file that is no source text. -/
def draft : SourceFile := ⟨⟨"models/draft.rs"⟩, "\x7d"⟩

/-- A file that is one. -/
def help : SourceFile := ⟨⟨"models/help.rs"⟩, "fn help() \x7b\x7d"⟩

theorem read_draft : draft.read =
    .error (.unreadable draft.path {} "cannot parse string into token stream") := by
  have htokens : Source.tokenize ['}'] = .error {} := by
    rw [Source.tokenize, List.length_singleton, Source.Lexer.run, Source.Lexer.skip_eq_self rfl rfl,
      Source.Lexer.docComment_eq_none rfl, Source.Lexer.moved_self]
    rfl
  have htext : Source.withoutByteOrderMark (Source.withoutInterpreter
      (Source.withoutByteOrderMark draft.content.toList)) = ['}'] := by decide
  rw [SourceFile.read, Source.items, htext, htokens]
  rfl

/-- Both files in memory. -/
def draftStore : MemoryStore where
  files := .ofList [(draft.path, draft.content), (help.path, help.content)]

/-- Both files on a disk. -/
def draftDisk : Disk where
  tree := ((FileTree.put {} ⟨["models"]⟩ .dir).put ⟨["models", "draft.rs"]⟩
    (.file (.text draft.content))).put ⟨["models", "help.rs"]⟩ (.file (.text help.content))

theorem isNamed_draftDisk : draftDisk.tree.IsNamed := by
  intro l x hmem
  have hall : ∀ m ∈ draftDisk.tree.nodes.keys,
      m.names.getLast?.all (fun y => decide (Path.IsName y)) = true := by decide
  simpa [Location.child] using hall _ hmem

theorem runs_scan_draftDisk : (scan ⟨"models"⟩).Runs (Disk.host false noCompiler) draftDisk
    (.ok [draft, help]) draftDisk :=
  (Disk.runs_scan_ok_iff isNamed_draftDisk (l := ⟨["models"]⟩) (by decide) (by decide)).2
    ⟨by decide, by decide⟩

/-- Both files in memory, where the runs with and without the draft succeed, and on a disk. -/
theorem tells_of_unreadable_draft :
    let set := forDir "models"
    let run := set.generate (.ok ⟨[{ handle := "page" }]⟩) false
    let d := Diagnostic.ofHandFile (.unreadable draft.path {} "cannot parse string into token stream")
    (∃ r r', (run.execute (MemoryStore.host false {} anyCompiler) draftStore).result = .ok r ∧
      (run.execute (MemoryStore.host false {} anyCompiler) (draftStore.delete draft.path)).result =
        .ok r' ∧ set.Tells [] d [help] r r') ∧
      let host := Disk.host false noCompiler
      set.Outcomes false (set.Tells [] d [help]) (run.execute host draftDisk).result
        (run.execute host (draftDisk.delete draft.path).2).result := by
  intro set run d
  obtain ⟨-, hmemory, hdisk⟩ := tells_of_unreadable set (.ok ⟨[{ handle := "page" }]⟩) false [] [help]
    draft _ read_draft
  refine ⟨?_, (hdisk noCompiler draftDisk isNamed_draftDisk runs_scan_draftDisk).2.1⟩
  have hscanned : MemoryStore.scanned set.modelsDir draftStore.files = [] ++ draft :: [help] := by
    decide
  have lists : draftStore.ListsGenerated set.modelsDir := by
    unfold MemoryStore.ListsGenerated
    decide
  have hmode : set.mode = .sourceOnly := rfl
  obtain ⟨_, _, ⟨hresult, -⟩, -⟩ := exists_runs_generate ⟨[{ handle := "page" }]⟩ anyCompiler hmode
    lists rfl
  have houtcomes := (hmemory anyCompiler draftStore hscanned).2.1
  change (run.execute (MemoryStore.host false {} anyCompiler) draftStore).result = _ at hresult
  generalize (run.execute (MemoryStore.host false {} anyCompiler) draftStore).result = result
    at hresult houtcomes ⊢
  generalize (run.execute (MemoryStore.host false {} anyCompiler)
    (draftStore.delete draft.path)).result = result' at houtcomes ⊢
  cases houtcomes with
  | failed e => cases hresult
  | reported h _ => exact ⟨_, _, rfl, rfl, h⟩
  | compiled _ hasked => cases hasked

end Settings

end ContentModels
