import ContentModels.Proofs.Disk.Unreadable
import ContentModels.Proofs.FileTree.Canonical
import ContentModels.Proofs.Run.Kept
import ContentModels.Proofs.Run.Tenure
import ContentModels.Watch

/-!
# What is watched is what is read

A change of a file matters if a scan of the models would read the file. The two are decided in
different ways: a scan follows the directory as it is written and matches names with a pattern, a
watcher compares paths without detours and asks for the extension of a name. They come to the same,
but for a name that is nothing but the ending of source files, which has no extension, and for a
directory that a search gets stuck on. What a run writes or deletes is never taken for a source.

## Main definitions

* `IsWatchedName` — the names of files whose changes matter.
* `Disk.ScanReads` — whether a scan of a directory reads what is at a place.
* `Call.SparesSources` — calls that change no files whose changes matter.

## Main statements

* `Watcher.components_locate_iff` — a watcher has the directory that its path leads to.
* `Watcher.classify_of_find` — what a change of a file that is there means.
* `Settings.only_sparesSources_generate` — a run changes no files whose changes matter.
* `Watcher.agrees_with_scan` — the files whose changes matter are those that a scan reads.
-/

namespace ContentModels

open Text Program

/-! ## Names -/

/-- The names of files whose changes matter. A dot at the start of a name opens no extension. -/
structure IsWatchedName (x : String) : Prop where
  ending : ".rs".toList <:+ x.toList
  stem : x ≠ ".rs"
  hand : ¬EndsGenerated x

namespace Path

/-- The ending of source files is the extension of all names that it does not make up. -/
theorem extension?_eq_iff {p : Path} : p.extension? = some "rs" ↔
    ∃ x, p.fileName? = some x ∧ ".rs".toList <:+ x.toList ∧ x ≠ ".rs" := by
  have hending : ".rs".toList = ['.', 'r', 's'] := rfl
  cases hname : p.fileName? with
  | none => simp [extension?, hname]
  | some x =>
    have hne : x ≠ ".rs" ↔ x.toList ≠ ['.', 'r', 's'] := by
      rw [← hending, ne_eq, ne_eq, String.toList_inj]
    have hsuffix : ".rs".toList <:+ x.toList ↔ ['s', 'r', '.'] <+: x.toList.reverse := by
      rw [hending, ← List.reverse_prefix]
      rfl
    have hreverse : x.toList ≠ ['.', 'r', 's'] ↔ x.toList.reverse ≠ ['s', 'r', '.'] := by
      rw [ne_eq, ne_eq, List.reverse_eq_iff]
      rfl
    have hlength : x.toList.length = x.toList.reverse.length := by simp
    have hrs (cs : List Char) : String.ofList cs.reverse = "rs" ↔ cs = ['s', 'r'] := by
      rw [← String.toList_inj, String.toList_ofList, List.reverse_eq_iff]
      rfl
    simp only [Option.some.injEq, exists_eq_left', hne, hsuffix, hreverse]
    simp only [extension?, hname, Option.bind_eq_bind, Option.bind_some, hlength]
    generalize x.toList.reverse = cs
    rw [Option.ite_none_right_eq_some, Option.some.injEq, hrs]
    constructor
    · rintro ⟨hlong, hafter⟩
      have hall := List.takeWhile_append_dropWhile (p := (· != '.')) (l := cs)
      have hhead := List.head?_dropWhile_not (· != '.') cs
      rw [hafter] at hall hlong
      cases hrest : cs.dropWhile (· != '.') with
      | nil =>
        rw [hrest, List.append_nil] at hall
        simp [← hall] at hlong
      | cons c rest =>
        obtain rfl : c = '.' := by simpa [hrest] using hhead
        rw [hrest] at hall
        refine ⟨⟨rest, hall⟩, ?_⟩
        rintro rfl
        simp at hlong
    · rintro ⟨⟨rest, rfl⟩, hne⟩
      have hrest : rest ≠ [] := by
        rintro rfl
        exact hne rfl
      have := List.length_pos_iff.2 hrest
      exact ⟨by simp; omega, by simp⟩

end Path

namespace Watcher

variable {w : Watcher} {t : FileTree} {dir p schema : Path} {l m : Location} {n : Node} {x : String}
  {content : Content}

theorem isSource_iff : w.isSource p = true ↔
    (∃ q, p.parent? = some q ∧ q.components = w.modelsDir.components) ∧
      ∃ x, p.fileName? = some x ∧ IsWatchedName x := by
  have hgenerated {x : String} (hx : p.fileName? = some x) :
      p.isGenerated = false ↔ ¬EndsGenerated x := by
    rw [Path.isGenerated, hx, Option.any_some, ← Bool.not_eq_true, List.isSuffixOf_iff_suffix,
      EndsGenerated]
  have hparent : (p.parent?.any fun dir => dir.same w.modelsDir) = true ↔
      ∃ q, p.parent? = some q ∧ q.components = w.modelsDir.components := by
    cases p.parent? <;> simp [Path.same]
  rw [isSource, Bool.and_eq_true, Bool.and_eq_true, hparent, beq_iff_eq, Path.extension?_eq_iff,
    Bool.not_eq_true', and_assoc]
  refine and_congr_right fun _ => ⟨?_, ?_⟩
  · rintro ⟨⟨x, hx, hending, hne⟩, hhand⟩
    exact ⟨x, hx, hending, hne, (hgenerated hx).1 hhand⟩
  · rintro ⟨x, hx, hwatched⟩
    exact ⟨⟨x, hx, hwatched.ending, hwatched.stem⟩, (hgenerated hx).2 hwatched.hand⟩

/-! ## Places -/

theorem canonical?_eq_some_iff {q : Path} :
    t.canonical? p = some q ↔ ∃ m n, t.find p = .ok (.node m n) ∧ m.path = q := by
  unfold FileTree.canonical?
  split <;> simp_all

theorem locate_of_find (h : t.find p = .ok (.node m n)) : locate t p = m.path := by
  rw [locate, canonical?_eq_some_iff.2 ⟨m, n, h, rfl⟩]
  rfl

/-- A path is followed, or looked for in its directory, or left as it is. -/
theorem locate_cases (t : FileTree) (p : Path) :
    (∃ m n, t.find p = .ok (.node m n)) ∨
    (∃ q k n x, p.parent? = some q ∧ p.fileName? = some x ∧
      t.find (if q.chars.isEmpty then ⟨"."⟩ else q) = .ok (.node k n) ∧
      locate t p = k.path.file x) ∨
    locate t p = t.here.path.join p := by
  cases hfound : t.canonical? p with
  | some found =>
    obtain ⟨m, n, hfind, -⟩ := canonical?_eq_some_iff.1 hfound
    exact .inl ⟨m, n, hfind⟩
  | none =>
    refine .inr ?_
    rw [locate, hfound, Option.none_or]
    cases hq : p.parent? with
    | none => exact .inr rfl
    | some q =>
      cases hx : p.fileName? with
      | none => exact .inr rfl
      | some x =>
        cases hk : t.canonical? (if q.chars.isEmpty then ⟨"."⟩ else q) with
        | none =>
          refine .inr ?_
          simp only [Option.bind_eq_bind, Option.bind_some, hk, Option.bind_none, Option.getD_none]
        | some above =>
          obtain ⟨k, n, hfind, rfl⟩ := canonical?_eq_some_iff.1 hk
          refine .inl ⟨q, k, n, x, rfl, rfl, hfind, ?_⟩
          simp only [Option.bind_eq_bind, Option.bind_some, hk]
          rfl

/-- The path that a path stands for ends in the same name. -/
theorem fileName?_locate (solid : t.IsSolid) (h : p.fileName? = some x) :
    (locate t p).fileName? = some x := by
  have hx := (Path.exists_of_fileName? h).1
  rcases locate_cases t p with ⟨m, n, hfind⟩ | ⟨q, k, n, y, -, hy, -, hlocate⟩ | hlocate
  · rw [locate_of_find hfind]
    obtain ⟨l, hplace⟩ := Path.exists_child_of_place t.here h
    rw [FileTree.place_of_find hfind] at hplace
    obtain rfl := hplace
    have hnamed := solid.isNamed_of_get? (solid.get?_of_find hfind)
    simp [Path.fileName?, Location.components_path_child hnamed]
  · obtain rfl : x = y := Option.some.inj (h.symm.trans hy)
    rw [hlocate, Path.fileName?_file _ hx]
  · rw [hlocate]
    cases habs : p.isAbsolute with
    | true => rwa [Path.join, habs, Bool.true_or, if_pos rfl]
    | false =>
      obtain ⟨-, ps, hps⟩ := Path.exists_of_fileName? h
      simp [Path.fileName?, Path.components_join t.here.isAbsolute_path habs, hps, hx.ofPiece]

/-- What lies in a directory under the name of a path is found by the path itself. -/
theorem find_of_parent (solid : t.IsSolid) {q : Path} {k : Location} (hq : p.parent? = some q)
    (hx : p.fileName? = some x)
    (hfind : t.find (if q.chars.isEmpty then ⟨"."⟩ else q) = .ok (.node k n))
    (hget : t.get? (k.child x) = some .dir) : t.find p = .ok (.node (k.child x) .dir) := by
  have hname := (Path.exists_of_fileName? hx).1
  obtain rfl := Option.some.inj ((solid.get?_of_find hfind).symm.trans (solid.rooted.get?_of_child hget))
  have haddresses : t.Addresses q k := by
    by_cases hempty : q.chars = []
    · rw [if_pos (by simpa using hempty)] at hfind
      cases hfind
      exact .inr ⟨hempty, rfl⟩
    · rw [if_neg (by simpa using hempty)] at hfind
      exact .of_find hfind
  have hfound := haddresses.find_file hname
  rw [FileTree.entry, hget] at hfound
  have hcomponents := Path.components_eq_of_parent? hq hx
  refine FileTree.find_of_components hfound ?_ ?_
  · intro hempty
    simp [Path.components_of_chars_nil hempty] at hcomponents
  · rw [hcomponents, Path.components_file _ hname]

theorem locate_of_empty (h : p.chars = []) : locate t p = t.here.path.join p := by
  rcases locate_cases t p with ⟨m, n, hfind⟩ | ⟨q, k, n, x, -, hx, -⟩ | hlocate
  · exact absurd h (FileTree.chars_ne_nil_of_find hfind)
  · simp [Path.fileName?, Path.components_of_chars_nil h] at hx
  · exact hlocate

/-- A path is located at a directory if it leads there. The empty path leads nowhere, and is located
where relative paths start. -/
theorem components_locate_iff (solid : t.IsSolid) (hget : t.get? l = some .dir) (dir : Path) :
    (locate t dir).components = l.path.components ↔ t.Addresses dir l := by
  have hl := solid.isNamed_of_get? hget
  have hhere := t.here.isAbsolute_path
  constructor
  · intro hsame
    rcases locate_cases t dir with ⟨m, n, hfind⟩ | ⟨q, k, n, x, hq, hx, hfind, hlocate⟩ | hlocate
    · have hm := solid.get?_of_find hfind
      rw [locate_of_find hfind] at hsame
      obtain rfl := Location.components_path_inj (solid.isNamed_of_get? hm) hl hsame
      obtain rfl := Option.some.inj (hm.symm.trans hget)
      exact .of_find hfind
    · have hname := (Path.exists_of_fileName? hx).1
      have hk := solid.isNamed_of_get? (solid.get?_of_find hfind)
      have hchild : (k.child x).IsNamed := Location.isNamed_child.2 ⟨hk, hname⟩
      rw [hlocate, Path.components_file _ hname, ← Location.components_path_child hchild] at hsame
      obtain rfl := Location.components_path_inj hchild hl hsame
      exact .of_find (find_of_parent solid hq hx hfind hget)
    · rw [hlocate] at hsame
      by_cases hempty : dir.chars = []
      · rw [Path.components_join_empty hhere hempty] at hsame
        exact .inr ⟨hempty, Location.components_path_inj (solid.isNamed_of_get? solid.here) hl hsame⟩
      · exact .of_find (solid.find_of_join hget hempty hsame)
  · rintro (hfind | ⟨hempty, rfl⟩)
    · rw [locate_of_find hfind]
    · rw [locate_of_empty hempty, Path.components_join_empty hhere hempty]

/-- A change of a file that is there is one of the schema, or of a source if the file lies in the
directory of the models and has such a name. -/
theorem classify_of_find (solid : t.IsSolid) (dir schema : Path)
    (hfind : t.find p = .ok (.node (l.child x) (.file content)))
    (hschema : (l.child x).path.same (locate t schema) = false) :
    ((ofPaths t dir schema).classify t p = some (.sourceChanged (l.child x).path) ↔
        t.Addresses dir l ∧ IsWatchedName x) ∧
      ((ofPaths t dir schema).classify t p = none ↔ ¬(t.Addresses dir l ∧ IsWatchedName x)) := by
  have hget := solid.get?_of_find hfind
  have hdir := solid.rooted.get?_of_child hget
  have hnamed := solid.isNamed_of_get? hget
  have hcomponents := Location.components_path_child hnamed
  obtain ⟨q, hq, hqcomponents⟩ := Path.exists_parent?_of_concat hcomponents
  have hx : (l.child x).path.fileName? = some x := by simp [Path.fileName?, hcomponents]
  have hsource : (ofPaths t dir schema).isSource (l.child x).path = true ↔
      t.Addresses dir l ∧ IsWatchedName x := by
    rw [isSource_iff, ← components_locate_iff solid hdir dir]
    simp only [hq, hx, Option.some.injEq, exists_eq_left', hqcomponents, ofPaths]
    exact and_congr_left fun _ => eq_comm
  have hthere : t.exists? (l.child x).path = true := by
    rw [FileTree.exists?, FileTree.node?, solid.find_path hget]
    rfl
  have hschema : (l.child x).path.same (ofPaths t dir schema).schema = false := hschema
  rw [← hsource, classify, locate_of_find hfind]
  simp only [hschema, hthere, Bool.false_eq_true, if_false, if_true]
  cases (ofPaths t dir schema).isSource (l.child x).path <;> simp

end Watcher

/-! ## Scans -/

section Scans

variable {σ : Type} {host : Host σ} {s s' : σ} {files : List Path} {file : Path}
  {sources : List SourceFile}

/-- Files are read only if they are not generated. -/
theorem mem_of_read_mem_calls (h : .read file ∈ ((readSources files).execute host s).calls) :
    file ∈ files ∧ file.isGenerated = false := by
  have honly : (readSources files).Only (fun _ => True) fun c =>
      ∃ f ∈ files, f.isGenerated = false ∧ c = .read f :=
    only_readSources fun f hf hgen => ⟨f, hf, hgen, rfl⟩
  obtain ⟨f, hf, hgen, heq⟩ := honly.of_mem_calls (fun _ _ => trivial) h
  cases heq
  exact ⟨hf, hgen⟩

/-- All such files are read if none of them cannot be. -/
theorem read_mem_calls_of_runs (h : (readSources files).Runs host s (.ok sources) s')
    (hfile : file ∈ files) (hgen : file.isGenerated = false) :
    .read file ∈ ((readSources files).execute host s).calls := by
  induction files generalizing s sources with
  | nil => cases hfile
  | cons f rest ih =>
    cases hf : f.isGenerated with
    | true =>
      rw [readSources_cons_of_isGenerated hf] at h ⊢
      refine ih h ((List.mem_cons.1 hfile).resolve_left ?_)
      rintro rfl
      simp [hf] at hgen
    | false =>
      obtain ⟨text, m, more, hread, hrest, -⟩ := (runs_readSources_cons_ok_iff hf).1 h
      have hcalls : ((readSources (f :: rest)).execute host s).calls =
          .read f :: ((readSources rest).execute host m).calls := by
        rw [readSources, hf, if_neg Bool.false_ne_true]
        simp only [execute_bind, ask, execute, hread]
        simp [execute, pure]
      rw [hcalls]
      rcases List.mem_cons.1 hfile with rfl | hmem
      · exact List.mem_cons_self
      · exact List.mem_cons_of_mem _ (ih hrest hmem)

end Scans

namespace Disk

variable {d : Disk} {dry : Bool} {tools : Toolchain} {dir : Path} {l m : Location} {x : String}
  {content : Content}

/-- Whether a scan of a directory reads what is at a place. -/
def ScanReads (d : Disk) (dry : Bool) (tools : Toolchain) (dir : Path) (m : Location) : Prop :=
  ∃ file n, .read file ∈ ((scan dir).execute (host dry tools) d).calls ∧
    d.tree.find file = .ok (.node m n)

/-- A scan reads the files that are listed. -/
theorem execute_scan {files : List Path} (h : Glob.list d.tree dir sourcePattern = .ok files) :
    (scan dir).execute (host dry tools) d =
      let e := (readSources files).execute (host dry tools) d
      { e with calls := .list dir sourcePattern :: e.calls } := by
  have hanswer : (host dry tools).answer (.list dir sourcePattern) d = (.ok files, d) :=
    Prod.ext h rfl
  rw [scan, execute_bind]
  simp only [ask, execute, hanswer, List.singleton_append]

/-- What is read is a source of a directory that a search finds. -/
theorem ScanReads.exists_source (named : d.tree.IsNamed) (h : d.ScanReads dry tools dir m) :
    ∃ l x, d.tree.find dir = .ok (.node l .dir) ∧ m = l.child x ∧ x ∈ sourceNames d.tree l := by
  obtain ⟨file, n, hcall, hfind⟩ := h
  cases hdir : d.tree.isDir dir with
  | false =>
    have hlist : Glob.list d.tree dir sourcePattern = .ok [] := by
      rw [Glob.list, hdir]
      rfl
    rw [execute_scan hlist] at hcall
    simp [readSources, execute, pure] at hcall
  | true =>
    obtain ⟨l, hl⟩ := FileTree.isDir_iff.1 hdir
    rw [execute_scan (Glob.list_eq_of_find named hl endsLike_sourcePattern)] at hcall
    obtain ⟨hmem, hgen⟩ := mem_of_read_mem_calls ((List.mem_cons.1 hcall).resolve_left Call.noConfusion)
    cases hstuck : Glob.isStuck dir with
    | true => simp [hstuck] at hmem
    | false =>
      rw [hstuck, if_neg Bool.false_ne_true] at hmem
      obtain ⟨x, hx, rfl⟩ := List.mem_map.1 hmem
      have hreach := (Glob.reaches hl).2 hstuck
      have hname := Glob.isName_of_mem_namesEnding named hx
      rw [hreach.isGenerated_below hname] at hgen
      rw [(hreach.below hname).1] at hfind
      exact ⟨l, x, hl, (FileTree.entry_eq_node_iff.1 (Except.ok.inj hfind)).1,
        List.mem_filter.2 ⟨hx, by simp [hgen]⟩⟩

/-- A scan that succeeds reads all of them, unless the search gets stuck. -/
theorem scanReads_of_source (named : d.tree.IsNamed) (hfind : d.tree.find dir = .ok (.node l .dir))
    (hstuck : Glob.isStuck dir = false) (hx : x ∈ sourceNames d.tree l)
    {sources : List SourceFile}
    (hok : ((scan dir).execute (host dry tools) d).result = .ok sources) :
    d.ScanReads dry tools dir (l.child x) := by
  obtain ⟨hlisted, hgen⟩ := List.mem_filter.1 hx
  have hreach := (Glob.reaches hfind).2 hstuck
  have hname := Glob.isName_of_mem_namesEnding named hlisted
  have hlist := Glob.list_eq_of_find named hfind endsLike_sourcePattern
  rw [hstuck, if_neg Bool.false_ne_true] at hlist
  rw [execute_scan hlist] at hok
  obtain ⟨content, hcontent⟩ := Option.isSome_iff_exists.1 (mem_sourceNames.1 hx).2.2
  refine ⟨Glob.below (Glob.reach dir) x, .file content, ?_, ?_⟩
  · rw [execute_scan hlist]
    refine List.mem_cons_of_mem _ (read_mem_calls_of_runs ⟨hok, rfl⟩ (List.mem_map_of_mem hlisted) ?_)
    rw [hreach.isGenerated_below hname]
    simpa using hgen
  · rw [(hreach.below hname).1, FileTree.entry, FileTree.file?_eq_some_iff.1 hcontent]

end Disk

/-! ## What a run changes -/

/-- Whether the files that a call changes have names of files whose changes do not matter. -/
def Call.SparesSources (c : Call) : Prop :=
  ∀ file ∈ c.changes, ∃ x, file.fileName? = some x ∧ ¬IsWatchedName x

/-- What answers on a disk are like: listings give files with the ending that is asked for, and it
is one file in a directory that tells other processes of it. -/
def Exchange.IsOnDisk : Exchange → Prop
  | ⟨.lock dir, answer⟩ => ∀ guard, answer = .ok guard → ∀ file, guard.file = some file →
      file = dir.file Disk.lockFileName
  | x => x.ListsEnding

theorem not_isWatchedName_of_endsGenerated {x : String} (h : EndsGenerated x) : ¬IsWatchedName x :=
  fun hwatched => hwatched.hand h

theorem Call.SparesSources.file {c : Call} {dir : Path} {x : String}
    (hc : ∀ file ∈ c.changes, file = dir.file x) (hname : Path.IsName x) (hx : ¬IsWatchedName x) :
    c.SparesSources :=
  fun file hfile => ⟨x, hc file hfile ▸ dir.fileName?_file hname, hx⟩

namespace Settings

variable {set : Settings}

/-- What a run does while it has its directory spares the sources. -/
theorem sparesSources_of_isWork {c : Call} (h : c.IsWork set) : c.SparesSources := by
  cases c with
  | list | read => exact nofun
  | delete file =>
    intro f hf
    obtain rfl := List.mem_singleton.1 hf
    obtain ⟨x, hx, hending⟩ := Path.exists_fileName_of_suffix h (by decide) (by decide)
    exact ⟨x, hx, not_isWatchedName_of_endsGenerated hending⟩
  | write file text =>
    obtain ⟨x, hx, rfl⟩ := h
    exact .file (fun _ => List.mem_singleton.1) hx.toIsName
      (not_isWatchedName_of_endsGenerated hx.ending)
  | compile request =>
    refine .file (fun file hfile => (List.mem_singleton.1 hfile).trans h)
      (Naming.isName_artifactFileName set.space) fun hwatched => ?_
    exact ne_artifactFileName hwatched.ending rfl
  | createDir | lock | removeLockFile | release => exact h.elim

/-- A run spares the sources. -/
theorem only_sparesSources_generate (set : Settings) (input : Except SchemaFailure Schema)
    (dry : Bool) :
    (set.generate input dry).Only Exchange.IsOnDisk Call.SparesSources := by
  have hlockFile : ¬IsWatchedName Disk.lockFileName := fun h => ne_lockFileName h.ending rfl
  refine only_generate nofun ?_ (fun guard kept => ⟨?_, nofun⟩) fun schema => ?_
  · exact .file (fun _ => List.mem_singleton.1) Disk.isName_lockFileName hlockFile
  · exact .file (fun file hfile => kept guard rfl file (Option.mem_toList.1 hfile))
      Disk.isName_lockFileName hlockFile
  · refine ((only_isWork_generateLocked schema dry).mono fun _ => sparesSources_of_isWork).of_stricter ?_
    rintro ⟨c, answer⟩ kept
    cases c with
    | lock => trivial
    | _ => exact kept

end Settings

theorem Disk.isOnDisk_answer (dry : Bool) (tools : Toolchain) (c : Call) (d : Disk) :
    Exchange.IsOnDisk ⟨c, ((host dry tools).answer c d).1⟩ := by
  cases c with
  | list dir pattern =>
    rintro rfl files hlist file hfile
    exact Glob.suffix_of_mem_list hlist hfile
  | lock dir => exact fun guard hguard => file_of_lock (Prod.ext hguard rfl)
  | _ => trivial

/-! ## What is watched -/

namespace Watcher

variable {t : FileTree} {p : Path} {x : String}

theorem classify_of_not_isWatchedName (w : Watcher) (solid : t.IsSolid) (hp : p.fileName? = some x)
    (hx : ¬IsWatchedName x) :
    w.classify t p = none ∨ ∃ q, w.classify t p = some (.schemaChanged q) := by
  have hsource : w.isSource (locate t p) = false := by
    refine Bool.eq_false_iff.2 fun hsource => ?_
    obtain ⟨-, y, hy, hwatched⟩ := isSource_iff.1 hsource
    obtain rfl := Option.some.inj ((fileName?_locate solid hp).symm.trans hy)
    exact hx hwatched
  rw [classify]
  simp only [hsource, Bool.not_false, if_true]
  split
  · exact .inr ⟨_, rfl⟩
  · exact .inl rfl

/-- A watcher and a scan take the same files of a directory for sources, with two exceptions. A
change of a file that the scan reads matters unless its name is nothing but the ending of source
files. A change that matters is one of a file that the scan reads, unless the search for the
directory gets stuck, or the scan fails before it comes to the file. The files that a run changes
are never taken for sources. -/
theorem agrees_with_scan (d : Disk) (dry : Bool) (tools : Toolchain) (dir schema : Path)
    (solid : d.tree.IsSolid) :
    (∀ p m content, d.tree.find p = .ok (.node m (.file content)) →
      m.path.same (locate d.tree schema) = false →
      let event := (ofPaths d.tree dir schema).classify d.tree p
      let changed := some (WatchEvent.sourceChanged m.path)
      (event = none ∨ event = changed) ∧
      (d.ScanReads dry tools dir m → (event = changed ↔ m.path.fileName? ≠ some ".rs")) ∧
      (event = changed → d.ScanReads dry tools dir m ∨ Glob.isStuck dir = true ∨
        ∃ e, ((scan dir).execute (Disk.host dry tools) d).result = .error e)) ∧
    ∀ (set : Settings) (input : Except SchemaFailure Schema) (c : Call),
      c ∈ ((set.generate input dry).execute (Disk.host dry tools) d).calls →
      (∀ s m, ((Disk.host dry tools).answer c s).2.tree.file? m ≠ s.tree.file? m →
        ∃ file ∈ c.changes, file.place s.tree.here = m) ∧
      ∀ file ∈ c.changes, ∀ (w : Watcher) (t : FileTree) (p : Path), t.IsSolid →
        p.fileName? = file.fileName? →
        w.classify t p = none ∨ ∃ q, w.classify t p = some (.schemaChanged q) := by
  constructor
  · intro p m content hfind hschema
    have hget := solid.get?_of_find hfind
    obtain ⟨l, x, rfl⟩ : ∃ l x, m = Location.child l x := by
      rcases solid.cases_of_get? hget with ⟨-, hdir⟩ | ⟨l, x, rfl, -⟩
      · cases hdir
      · exact ⟨l, x, rfl⟩
    have hname : (l.child x).path.fileName? = some x := by
      simp [Path.fileName?, Location.components_path_child (solid.isNamed_of_get? hget)]
    obtain ⟨hchanged, hnone⟩ := classify_of_find solid dir schema hfind hschema
    refine ⟨?_, fun hreads => ?_, fun hevent => ?_⟩
    · rw [hchanged, hnone]
      exact (em _).symm
    · obtain ⟨k, y, hk, heq, hy⟩ := hreads.exists_source solid.named
      obtain ⟨rfl, rfl⟩ := Location.child_inj.1 heq
      obtain ⟨hending, hhand, -⟩ := Disk.mem_sourceNames.1 hy
      rw [hchanged, hname, ne_eq, Option.some.injEq]
      exact ⟨fun h => h.2.stem, fun hstem => ⟨.of_find hk, hending, hstem, hhand⟩⟩
    · obtain ⟨haddresses, hwatched⟩ := hchanged.1 hevent
      cases hstuck : Glob.isStuck dir with
      | true => exact .inr (.inl rfl)
      | false =>
        cases hscan : ((scan dir).execute (Disk.host dry tools) d).result with
        | error e => exact .inr (.inr ⟨e, rfl⟩)
        | ok sources =>
          have hsource : x ∈ Disk.sourceNames d.tree l :=
            Disk.mem_sourceNames.2 ⟨hwatched.ending, hwatched.hand, by simp [FileTree.file?, hget]⟩
          exact .inl (Disk.scanReads_of_source solid.named (Glob.find_of_addresses haddresses hstuck)
            hstuck hsource hscan)
  · intro set input c hc
    refine ⟨fun s m hne => ?_, fun file hfile w t p ht hp => ?_⟩
    · exact not_imp_comm.1 ((Disk.frame_changes dry tools c s).files m) hne
    · have hspares := (set.only_sparesSources_generate input dry).of_mem_calls
        (Disk.isOnDisk_answer dry tools) hc
      obtain ⟨x, hx, hnot⟩ := hspares file hfile
      exact w.classify_of_not_isWatchedName ht (hp.trans hx) hnot

/-- A directory of models with two files that are read. The name of one of them is the ending of
source files. -/
def stemless : Disk where
  tree.nodes := .ofList [
    (⟨["models"]⟩, .dir),
    (⟨["models", ".rs"]⟩, .file (.text "")),
    (⟨["models", "page.rs"]⟩, .file (.text ""))]

theorem scanReads_stemless (x : String) (h : x ∈ [".rs", "page.rs"]) :
    stemless.ScanReads false Settings.noCompiler ⟨"models"⟩ ((Location.mk ["models"]).child x) := by
  have named : stemless.tree.IsNamed := FileTree.IsSolid.named (by decide)
  have hnames : Disk.sourceNames stemless.tree ⟨["models"]⟩ = [".rs", "page.rs"] := by decide
  have hscan : (scan ⟨"models"⟩).Runs (Disk.host false Settings.noCompiler) stemless
      (.ok [⟨⟨"models/.rs"⟩, ""⟩, ⟨⟨"models/page.rs"⟩, ""⟩]) stemless := by
    refine (Disk.runs_scan_ok_iff (l := ⟨["models"]⟩) named rfl (by decide)).2 ⟨?_, by decide⟩
    rw [hnames]
    decide
  exact Disk.scanReads_of_source named rfl (by decide) (hnames ▸ h) hscan.1

/-- Both are read, and a change matters of one of them only, however its path is spelled. -/
theorem agrees_with_scan_stemless :
    stemless.tree.IsSolid ∧
    stemless.ScanReads false Settings.noCompiler ⟨"models"⟩ ⟨["models", "page.rs"]⟩ ∧
    stemless.ScanReads false Settings.noCompiler ⟨"models"⟩ ⟨["models", ".rs"]⟩ ∧
    (ofPaths stemless.tree ⟨"models"⟩ ⟨"schema.json"⟩).classify stemless.tree ⟨"./models/page.rs"⟩ =
      some (.sourceChanged ⟨"/models/page.rs"⟩) ∧
    (ofPaths stemless.tree ⟨"models"⟩ ⟨"schema.json"⟩).classify stemless.tree ⟨"models/.rs"⟩ = none := by
  have solid : stemless.tree.IsSolid := by decide
  have hpage := scanReads_stemless "page.rs" (by decide)
  have hdot := scanReads_stemless ".rs" (by decide)
  obtain ⟨hfiles, -⟩ := agrees_with_scan stemless false Settings.noCompiler ⟨"models"⟩ ⟨"schema.json"⟩ solid
  obtain ⟨-, hchanged, -⟩ := hfiles ⟨"./models/page.rs"⟩ ⟨["models", "page.rs"]⟩ (.text "")
    (by decide) (by decide)
  obtain ⟨hnone, hunchanged, -⟩ := hfiles ⟨"models/.rs"⟩ ⟨["models", ".rs"]⟩ (.text "")
    (by decide) (by decide)
  refine ⟨solid, hpage, hdot, (hchanged hpage).2 (by decide), ?_⟩
  exact hnone.resolve_right fun h => (hunchanged hdot).1 h (by decide)

end Watcher

end ContentModels
