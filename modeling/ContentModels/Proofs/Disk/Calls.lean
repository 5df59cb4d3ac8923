import ContentModels.Disk.Basic
import ContentModels.Proofs.FileTree.Access
import ContentModels.Proofs.Glob.Listing
import ContentModels.Proofs.Naming.FileNames

/-!
# What calls do to a disk

Every call of a run changes files of one name only, and creates directories. So what is known of the
other files is known after the call.

## Main statements

* `Disk.lock_eq` — taking a directory that is there.
* `Disk.lock_spec`, `Disk.lock_frame` — what was taken can be given back, and what taking changes.
* `Disk.delete_spec`, `Disk.write_file`, `Disk.write_spec`, `Disk.compile_frame` — what the calls
  change.
-/

namespace ContentModels.Disk

variable {d d' : Disk} {l : Location} {dir p : Path} {x : String}

/-! ## Creating directories -/

theorem createDir_spec (hdir : dir.chars ≠ []) (h : d.createDir dir = (.ok (), d')) :
    FileTree.Frame (fun _ => False) d.tree d'.tree ∧ ∃ l, d'.tree.find dir = .ok (.node l .dir) := by
  have hframe := FileTree.createDirs_frame d.tree dir
  have hisDir := FileTree.isDir_of_createDirs (t := d.tree) hdir
  rw [createDir] at h
  generalize d.tree.createDirs dir = created at h hframe hisDir
  obtain ⟨result, t⟩ := created
  obtain ⟨hresult, rfl⟩ := Prod.ext_iff.1 h
  cases result with
  | error e => cases hresult
  | ok => exact ⟨hframe, FileTree.isDir_iff.1 (hisDir rfl)⟩

/-- Nothing is created where a directory is. -/
theorem createDir_of_addresses (h : d.tree.Addresses dir l) : d.createDir dir = (.ok (), d) := by
  rw [createDir, FileTree.createDirs_of_addresses h]
  rfl

/-! ## Taking directories -/

theorem isName_lockFileName : Path.IsName lockFileName := by decide

theorem lockKey_eq (h : d.tree.find dir = .ok (.node l .dir)) : d.lockKey dir = l.path := by
  rw [lockKey, FileTree.canonical?, h]
  rfl

/-- The directory is taken by its place, and by a file in it. -/
def guardOf (l : Location) (dir : Path) : Guard := ⟨l.path, some (dir.file lockFileName)⟩

/-- The disk after a directory was taken. -/
def taken (d : Disk) (l : Location) : Disk :=
  { d with tree := d.tree.put (l.child lockFileName) (.file (.text "")) }.hold l.path

theorem lock_eq (h : d.tree.find dir = .ok (.node l .dir)) : d.lock dir =
    if d.held.contains l.path then (.error (.inProgress dir), d)
    else match d.tree.get? (l.child lockFileName) with
      | none => (.ok (guardOf l dir), d.taken l)
      | some _ => (.error (.inProgress (dir.file lockFileName)), d) := by
  have hdir : d.tree.isDir dir = true := FileTree.isDir_iff.2 ⟨l, h⟩
  have hentry := FileTree.find_file h isName_lockFileName
  simp only [lock, lockKey_eq h, hdir, if_pos, FileTree.createNew_entry hentry]
  cases d.tree.get? (l.child lockFileName) <;> rfl

theorem removeLockFile_eq (h : d.tree.find dir = .ok (.node l .dir)) {content : Content}
    (hfile : d.tree.get? (l.child lockFileName) = some (.file content)) :
    d.removeLockFile (guardOf l dir) = { d with tree := d.tree.erase (l.child lockFileName) } := by
  have hentry := FileTree.find_file h isName_lockFileName
  simp only [removeLockFile, guardOf, FileTree.delete_entry hentry, hfile]

/-- Taking the directory changes nothing but the file that tells other processes. -/
theorem taken_frame (h : d.tree.get? (l.child lockFileName) = none) :
    FileTree.Frame (· = l.child lockFileName) d.tree (d.taken l).tree := by
  refine .put (by simp [h]) (fun m y heq => ?_) _
  obtain ⟨-, rfl⟩ := Location.child_inj.1 heq
  exact isName_lockFileName

theorem get?_taken (h : d.tree.get? (l.child lockFileName) = none) :
    (d.taken l).tree.get? (l.child lockFileName) = some (.file (.text "")) := by
  rw [taken, hold, FileTree.get?_put (by simp [h]), if_pos rfl]

theorem release_hold {key : Path} (h : d.held.contains key = false) {file : Option Path} :
    (d.hold key).release ⟨key, file⟩ = d := by
  have hheld : (SortedSet.add d.held key).erase key = d.held :=
    SortedMap.erase_insert_of_new (SortedMap.get?_eq_none_of_contains h) ()
  rw [release, hold, hheld]

/-- A directory that was taken can be given back. -/
theorem unlock_taken (h : d.tree.find dir = .ok (.node l .dir))
    (hfree : d.held.contains l.path = false) (hvacant : d.tree.get? (l.child lockFileName) = none) :
    (d.taken l).unlock (guardOf l dir) = d := by
  have hfind := (taken_frame hvacant).find h
  have htree := FileTree.erase_put (Location.names_child_ne_nil l lockFileName) hvacant
    (.file (.text ""))
  rw [unlock, removeLockFile_eq hfind (get?_taken hvacant)]
  change ({ d with tree := (d.tree.put _ _).erase _ }.hold l.path).release (guardOf l dir) = d
  rw [htree]
  exact release_hold hfree

/-- A directory that cannot be taken is left alone, and one that is taken can be given back. -/
theorem lock_spec {answer : Except RunError Guard} (h : d.lock dir = (answer, d')) :
    (∃ e, answer = .error e ∧ d' = d) ∨ ∃ guard, answer = .ok guard ∧ d'.unlock guard = d := by
  by_cases hdir : d.tree.isDir dir = true
  · obtain ⟨l, hfind⟩ := FileTree.isDir_iff.1 hdir
    rw [lock_eq hfind] at h
    split at h
    · obtain ⟨rfl, rfl⟩ := Prod.ext_iff.1 h
      exact .inl ⟨_, rfl, rfl⟩
    next hfree =>
    split at h
    · next hvacant =>
      obtain ⟨rfl, rfl⟩ := Prod.ext_iff.1 h
      exact .inr ⟨_, rfl, unlock_taken hfind (by simpa using hfree) hvacant⟩
    · obtain ⟨rfl, rfl⟩ := Prod.ext_iff.1 h
      exact .inl ⟨_, rfl, rfl⟩
  · simp only [lock, if_neg hdir] at h
    split at h
    · obtain ⟨rfl, rfl⟩ := Prod.ext_iff.1 h
      exact .inl ⟨_, rfl, rfl⟩
    · next hfree =>
      obtain ⟨rfl, rfl⟩ := Prod.ext_iff.1 h
      exact .inr ⟨_, rfl, release_hold (by simpa using hfree)⟩

/-- Taking a directory changes no file but the one that tells other processes. -/
theorem lock_frame {guard : Guard} (h : d.tree.Addresses dir l)
    (hlock : d.lock dir = (.ok guard, d')) :
    FileTree.Frame (· = l.child lockFileName) d.tree d'.tree := by
  rcases h with hfind | ⟨hempty, -⟩
  · rw [lock_eq hfind] at hlock
    split at hlock
    · cases (Prod.ext_iff.1 hlock).1
    split at hlock
    · next hvacant =>
      obtain rfl := (Prod.ext_iff.1 hlock).2
      exact taken_frame hvacant
    · cases (Prod.ext_iff.1 hlock).1
  · have hdir : d.tree.isDir dir = false := by
      simp [FileTree.isDir, FileTree.node?, FileTree.find, hempty]
    simp only [lock, hdir] at hlock
    split at hlock
    · cases (Prod.ext_iff.1 hlock).1
    · obtain rfl := (Prod.ext_iff.1 hlock).2
      exact .refl _ _

/-! ## Files -/

theorem delete_spec {gone : Bool} (hentry : d.tree.find p = .ok (d.tree.entry l x))
    (h : d.delete p = (.ok gone, d')) :
    FileTree.Frame (· = l.child x) d.tree d'.tree ∧ d'.tree.file? (l.child x) = none := by
  rw [delete, FileTree.delete_entry hentry] at h
  rcases hget : d.tree.get? (l.child x) with _ | _ | content
  · rw [hget] at h
    obtain rfl := (Prod.ext_iff.1 h).2
    exact ⟨.refl _ _, by rw [FileTree.file?, hget]⟩
  · rw [hget] at h
    cases (Prod.ext_iff.1 h).1
  · rw [hget] at h
    obtain rfl := (Prod.ext_iff.1 h).2
    have hne : d.tree.get? (l.child x) ≠ some .dir := by simp [hget]
    refine ⟨.erase hne, ?_⟩
    rw [FileTree.file?, FileTree.get?_erase hne, if_pos rfl]

/-- A file of a directory that is there lies in that directory, whatever it is called. -/
theorem createParent_file (h : d.tree.Addresses dir l) (hx : Path.IsName x) :
    d.createParent (dir.file x) = (.ok (), d) := by
  obtain ⟨parent, hparent, hcomponents⟩ := dir.exists_parent_file hx
  rw [createParent, hparent]
  refine if_pos ?_
  by_cases hne : parent.chars = []
  · simp [hne]
  rcases h with hfind | ⟨hempty, -⟩
  · have hfound := FileTree.find_of_components hfind hne hcomponents
    simp [FileTree.exists?, FileTree.node?, hfound]
  · rw [Path.components_of_chars_nil hempty] at hcomponents
    exact absurd (Path.chars_eq_nil_of_components hcomponents) hne

/-- A file is written to the directory that its path addresses, unless a directory is in its
place. -/
theorem write_file (h : d.tree.Addresses dir l) (hx : Path.IsName x) (text : String) :
    d.write (dir.file x) text =
      if d.tree.get? (l.child x) = some .dir then (.error (.write (dir.file x) .isDirectory), d)
      else (.ok (.file (dir.file x) text.utf8ByteSize),
        { d with tree := d.tree.put (l.child x) (.file (.text text)) }) := by
  rw [write, createParent_file h hx]
  simp only [FileTree.write_entry (h.find_file hx)]
  by_cases hdir : d.tree.get? (l.child x) = some .dir
  · rw [if_pos hdir, if_pos hdir]
  · rw [if_neg hdir, if_neg hdir]

theorem write_spec {written : Written} {text : String} (hdir : d.tree.Addresses dir l)
    (hx : Path.IsName x)
    (h : d.write (dir.file x) text = (.ok written, d')) :
    FileTree.Frame (· = l.child x) d.tree d'.tree ∧
      d'.tree.file? (l.child x) = some (.text text) := by
  rw [write_file hdir hx] at h
  by_cases hplain : d.tree.get? (l.child x) = some .dir
  · rw [if_pos hplain] at h
    cases (Prod.ext_iff.1 h).1
  · rw [if_neg hplain] at h
    obtain rfl := (Prod.ext_iff.1 h).2
    refine ⟨.put hplain (fun m y heq => ?_) _, ?_⟩
    · obtain ⟨-, rfl⟩ := Location.child_inj.1 heq
      exact hx
    · rw [FileTree.file?, FileTree.get?_put hplain, if_pos rfl]

/-! ## Compiling -/

variable {request : CompileRequest}

theorem conclude_frame (t : FileTree) (originals : List (String × Path)) (call : Invocation)
    (outcome : Outcome) {t' : FileTree}
    (h : (Toolchain.conclude t request originals call outcome).2 = t') :
    FileTree.Frame (fun m => ∃ content, t'.find request.output = .ok (.node m (.file content)))
      t t' := by
  subst h
  unfold Toolchain.conclude
  extract_lets findings unfinished
  split
  · split
    · next hmove => exact FileTree.moveTo_frame hmove
    · exact .refl _ t
  · exact .refl _ t

theorem toolchainCompile_frame (tools : Toolchain) (t : FileTree) {t' : FileTree}
    (h : (tools.compile t request).2.1 = t') :
    FileTree.Frame (fun m => ∃ content, t'.find request.output = .ok (.node m (.file content)))
      t t' := by
  have hdirs {result : Except IoFault Unit} {t₁ : FileTree} {touched : Location → Prop}
      (h : t.createDirs (Toolchain.outputDir request.output) = (result, t₁)) :
      FileTree.Frame touched t t₁ := by
    have hframe := FileTree.createDirs_frame t (Toolchain.outputDir request.output)
    rw [h] at hframe
    exact hframe.mono fun _ hm => hm.elim
  subst h
  unfold Toolchain.compile
  extract_lets dir
  split
  · next hcreate => exact hdirs hcreate
  · next t₁ hcreate =>
    split
    · exact hdirs hcreate
    · split
      · exact hdirs hcreate
      · extract_lets call
        split
        · exact hdirs hcreate
        · exact (hdirs hcreate).trans (conclude_frame t₁ _ call _ rfl)

/-- Compiling changes no file but the artifact, whatever comes of it. -/
theorem frame_compile (d : Disk) (tools : Toolchain) (request : CompileRequest) :
    FileTree.Frame (fun m => ∃ content, (d.compile tools request).2.tree.find request.output =
      .ok (.node m (.file content))) d.tree (d.compile tools request).2.tree := by
  have hframe : FileTree.Frame _ _ (tools.compile d.tree request).2.1 :=
    toolchainCompile_frame tools d.tree rfl
  rw [compile]
  generalize tools.compile d.tree request = compiled at hframe ⊢
  exact hframe

/-- So it changes files of one name only. -/
theorem compile_frame (tools : Toolchain) (hx : Path.IsName x)
    (houtput : request.output = p.file x) :
    FileTree.Frame (fun m => ∃ l : Location, m = l.child x) d.tree
      (d.compile tools request).2.tree := by
  refine (frame_compile d tools request).mono ?_
  rintro m ⟨content, hfind⟩
  rw [houtput] at hfind
  obtain ⟨l, -, hentry⟩ := FileTree.exists_entry_of_find_file hx hfind
  exact ⟨l, (FileTree.entry_eq_node_iff.1 hentry.symm).1⟩

/-! ## The directories that are taken -/

theorem held_createParent (d : Disk) (file : Path) : (d.createParent file).2.held = d.held := by
  unfold createParent
  split
  · split <;> rfl
  · rfl

theorem held_write (d : Disk) (file : Path) (text : String) :
    (d.write file text).2.held = d.held := by
  have hparent := held_createParent d file
  unfold write
  generalize d.createParent file = created at hparent
  obtain ⟨_ | _, d₁⟩ := created
  · exact hparent
  · dsimp only
    split <;> exact hparent

theorem held_delete (d : Disk) (file : Path) : (d.delete file).2.held = d.held := by
  unfold delete
  split <;> rfl

theorem held_removeLockFile (d : Disk) (guard : Guard) : (d.removeLockFile guard).held = d.held := by
  unfold removeLockFile
  split
  · rfl
  · split <;> rfl

theorem held_compile (d : Disk) (tools : Toolchain) (request : CompileRequest) :
    (d.compile tools request).2.held = d.held := by
  rw [compile]

theorem answer_write (tools : Toolchain) (d : Disk) (file : Path) (text : String) :
    (host false tools).answer (.write file text) d = d.write file text := by
  simp only [host, Bool.false_eq_true, if_false]

theorem state_write (tools : Toolchain) (d : Disk) (file : Path) (text : String) :
    ((host false tools).answer (.write file text) d).2 = (d.write file text).2 := by
  rw [answer_write]

theorem answer_delete (tools : Toolchain) (d : Disk) (file : Path) :
    (host false tools).answer (.delete file) d = d.delete file := rfl

theorem answer_createDir (tools : Toolchain) (d : Disk) (dir : Path) :
    (host false tools).answer (.createDir dir) d = d.createDir dir := rfl

theorem answer_lock {dry : Bool} (tools : Toolchain) (d : Disk) (dir : Path) :
    (host dry tools).answer (.lock dir) d = d.lock dir := rfl

theorem state_compile {dry : Bool} (tools : Toolchain) (d : Disk) (request : CompileRequest) :
    ((host dry tools).answer (.compile request) d).2 = (d.compile tools request).2 := rfl

end ContentModels.Disk
