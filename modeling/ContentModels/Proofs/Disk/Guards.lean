import ContentModels.Proofs.FileTree.Spelling
import ContentModels.Proofs.Run.Kept
import Mathlib.Data.List.Pairwise

/-!
# How long a guard excludes

While a process has guards of directories, it takes more of them, drops some, and creates
directories. A guard that was taken where its directory was there keeps every other guard of that
directory out, as long as it lives. A guard that was taken before the directory was there is known
by its path as it is written. When the directory appears, it is known by another path, so that guard
keeps nobody out.

## Main definitions

* `Tenancy` — a process with the guards that are alive in it.
* `Tenancy.Reaches` — what it comes to.
* `Tenancy.IsLoose` — whether a guard is known by a path that its directory is not known by.
* `Tenancy.Excludes` — who is kept out by the guards that are alive.

## Main statements

* `Tenancy.excludes_of_reaches` — guards that are alive exclude each other, but for loose ones.
-/

namespace ContentModels

theorem SortedMap.contains_congr {κ ν : Type} [Ord κ] [Std.TransOrd κ] {m : SortedMap κ ν}
    {k k' : κ}
    (h : compare k k' = .eq) : m.contains k = m.contains k' := by
  rw [contains_eq_isSome, contains_eq_isSome, get?_congr h]

theorem SortedMap.contains_erase_iff {κ ν : Type} [Ord κ] [Std.TransOrd κ] {m : SortedMap κ ν}
    {k k' : κ} :
    (m.erase k).contains k' = true ↔ m.contains k' = true ∧ compare k k' ≠ .eq := by
  simp only [contains_eq_true_iff, mem_keys, mem_erase]
  constructor
  · rintro ⟨a, ⟨v, hmem, hne⟩, heq⟩
    exact ⟨⟨a, ⟨v, hmem⟩, heq⟩, fun hk => hne (Std.TransCmp.eq_trans hk heq)⟩
  · rintro ⟨⟨a, ⟨v, hmem⟩, heq⟩, hne⟩
    exact ⟨a, ⟨v, hmem, fun hk => hne (Std.TransCmp.eq_trans hk (Std.OrientedCmp.eq_symm heq))⟩, heq⟩

/-- A guard that is alive, and the path that it was asked for. -/
structure Lease where
  path : Path
  guard : Guard
  deriving DecidableEq

/-- A process with the guards that are alive in it, the latest at the end. -/
structure Tenancy where
  disk : Disk
  live : List Lease := []

namespace Tenancy

variable {w w' : Tenancy} {path : Path} {l : Location} {g h : Lease}

/-- Takes a directory, unless that is refused. -/
def acquire (w : Tenancy) (path : Path) : Tenancy :=
  match w.disk.lock path with
  | (.ok guard, d) => ⟨d, w.live ++ [⟨path, guard⟩]⟩
  | (.error _, d) => ⟨d, w.live⟩

/-- Drops a guard. -/
def drop (w : Tenancy) (g : Lease) : Tenancy := ⟨w.disk.unlock g.guard, w.live.erase g⟩

/-- Creates a directory, as far as that succeeds. -/
def createDir (w : Tenancy) (path : Path) : Tenancy :=
  { w with disk := (w.disk.createDir path).2 }

/-- What a process comes to that takes directories, drops guards and creates directories, in any
order. -/
inductive Reaches (w : Tenancy) : Tenancy → Prop
  | start : Reaches w w
  | acquire {w' : Tenancy} (h : Reaches w w') (path : Path) : Reaches w (w'.acquire path)
  | drop {w' : Tenancy} (h : Reaches w w') {g : Lease} (hg : g ∈ w'.live) : Reaches w (w'.drop g)
  | createDir {w' : Tenancy} (h : Reaches w w') (path : Path) : Reaches w (w'.createDir path)

/-- The place that a guard was asked for. -/
def place (w : Tenancy) (g : Lease) : Location := g.path.place w.disk.tree.here

/-- Whether a guard is known by its path as it is written, which is not the one that its directory
is known by. It was taken while the directory was not there. -/
structure IsLoose (w : Tenancy) (g : Lease) : Prop where
  file : g.guard.file = none
  key : g.guard.key = g.path
  detour : compare g.path (w.place g).path ≠ .eq

/-- Who is kept out by the guards that are alive. -/
structure Excludes (w : Tenancy) : Prop where
  /-- Of two guards that are alive for one directory, one is loose. -/
  apart : w.live.Pairwise fun g h => w.place g = w.place h → w.IsLoose g ∨ w.IsLoose h
  /-- A guard that is not loose keeps everybody out whose path leads to the directory. -/
  rejects : ∀ g ∈ w.live, ¬w.IsLoose g → ∀ path,
    w.disk.tree.find path = .ok (.node (w.place g) .dir) →
    (w.disk.lock path).1 = .error (.inProgress path)
  /-- Nobody else is kept out, unless the directory has a file from elsewhere. -/
  accepts : ∀ path, (∀ g ∈ w.live, compare (w.disk.lockKey path) g.guard.key ≠ .eq) →
    (∀ l, w.disk.tree.find path = .ok (.node l .dir) →
      w.disk.tree.get? (l.child Disk.lockFileName) = none) →
    ∃ guard, (w.disk.lock path).1 = .ok guard

/-! ## What all steps keep -/

/-- What is known of the guards that are alive. -/
structure Sound (w : Tenancy) : Prop where
  held : ∀ k, w.disk.held.contains k = true ↔ ∃ g ∈ w.live, compare k g.guard.key = .eq
  distinct : w.live.Pairwise fun g h => compare g.guard.key h.guard.key ≠ .eq
  /-- A guard is known by the path of its directory, or by its own one if the directory was not
  there. -/
  key : ∀ g ∈ w.live, g.guard.key = (w.place g).path ∨ g.guard.file = none ∧ g.guard.key = g.path
  /-- The file of a guard lies in its directory. -/
  marked : ∀ g ∈ w.live, g.guard.file ≠ none →
    w.disk.tree.find g.path = .ok (.node (w.place g) .dir) ∧
    g.guard = Disk.guardOf (w.place g) g.path ∧
    (w.disk.tree.file? ((w.place g).child Disk.lockFileName)).isSome = true

namespace Sound

theorem start {d : Disk} (hfree : d.held = ∅) : Sound ⟨d, []⟩ where
  held k := by simp [hfree, SortedMap.contains]
  distinct := .nil
  key g hg := by cases hg
  marked g hg := by cases hg

/-- The files of the tree change, but for those of the guards. -/
theorem of_frame (hw : Sound w) {touched : Location → Prop} {d : Disk}
    (hframe : FileTree.Frame touched w.disk.tree d.tree) (hheld : d.held = w.disk.held)
    (untouched : ∀ g ∈ w.live, g.guard.file ≠ none →
      ¬touched ((w.place g).child Disk.lockFileName)) : Sound ⟨d, w.live⟩ := by
  have hplace (g : Lease) : (⟨d, w.live⟩ : Tenancy).place g = w.place g := by
    rw [place, hframe.here, place]
  constructor
  · rw [hheld]
    exact hw.held
  · exact hw.distinct
  · intro g hg
    rw [hplace]
    exact hw.key g hg
  · intro g hg hfile
    obtain ⟨hfind, hguard, hthere⟩ := hw.marked g hg hfile
    rw [hplace, hframe.files _ (untouched g hg hfile)]
    exact ⟨hframe.find hfind, hguard, hthere⟩

theorem createDir (hw : Sound w) (path : Path) : Sound (w.createDir path) :=
  hw.of_frame (FileTree.createDirs_frame w.disk.tree path) rfl fun _ _ _ => id

/-- Another guard is alive, which is known by a path that none is known by. -/
theorem hold (hw : Sound w) (guard : Guard)
    (hfree : w.disk.held.contains guard.key = false)
    (key : guard.key = (path.place w.disk.tree.here).path ∨ guard.file = none ∧ guard.key = path)
    (marked : guard.file ≠ none →
      w.disk.tree.find path = .ok (.node (path.place w.disk.tree.here) .dir) ∧
      guard = Disk.guardOf (path.place w.disk.tree.here) path ∧
      (w.disk.tree.file? ((path.place w.disk.tree.here).child Disk.lockFileName)).isSome = true) :
    Sound ⟨w.disk.hold guard.key, w.live ++ [⟨path, guard⟩]⟩ where
  held k := by
    rw [Disk.hold, SortedSet.contains_add, Bool.or_eq_true, hw.held k, beq_iff_eq]
    simp only [List.mem_append, List.mem_singleton]
    constructor
    · rintro (heq | ⟨g, hg, heq⟩)
      · exact ⟨_, .inr rfl, heq⟩
      · exact ⟨g, .inl hg, heq⟩
    · rintro ⟨g, hg | rfl, heq⟩
      · exact .inr ⟨g, hg, heq⟩
      · exact .inl heq
  distinct := by
    refine List.pairwise_append.2 ⟨hw.distinct, List.pairwise_singleton _ _, ?_⟩
    intro g hg h hh heq
    obtain rfl := List.mem_singleton.1 hh
    rw [(hw.held guard.key).2 ⟨g, hg, Std.OrientedCmp.eq_symm heq⟩] at hfree
    cases hfree
  key g hg := by
    rcases List.mem_append.1 hg with hg | hg
    · exact hw.key g hg
    · obtain rfl := List.mem_singleton.1 hg
      exact key
  marked g hg := by
    rcases List.mem_append.1 hg with hg | hg
    · exact hw.marked g hg
    · obtain rfl := List.mem_singleton.1 hg
      exact marked

/-- A directory is taken that is there. -/
theorem acquire_dir (hw : Sound w) (hfind : w.disk.tree.find path = .ok (.node l .dir)) :
    Sound (w.acquire path) := by
  have hplace : path.place w.disk.tree.here = l := FileTree.place_of_find hfind
  rw [acquire, Disk.lock_eq hfind]
  by_cases hheld : w.disk.held.contains l.path = true
  · rw [if_pos hheld]
    exact hw
  rw [if_neg hheld]
  cases hvacant : w.disk.tree.get? (l.child Disk.lockFileName) with
  | some n => exact hw
  | none =>
    have hframe := Disk.taken_frame hvacant
    have hthere := Disk.get?_taken hvacant
    -- The files of other guards are elsewhere, since there was no file here.
    have hmarked : Sound ⟨{ w.disk with tree := (w.disk.taken l).tree }, w.live⟩ := by
      refine hw.of_frame hframe rfl fun g hg hfile heq => ?_
      have hfile := (hw.marked g hg hfile).2.2
      rw [heq, FileTree.file?, hvacant] at hfile
      cases hfile
    refine hmarked.hold (Disk.guardOf l path) ?_ (.inl ?_) fun _ => ?_
    · exact Bool.eq_false_iff.2 hheld
    · rw [hframe.here, hplace]
      rfl
    · rw [hframe.here, hplace]
      refine ⟨hframe.find hfind, rfl, ?_⟩
      rw [FileTree.file?_eq_some_iff.2 hthere]
      rfl

/-- A directory is taken that is not there. -/
theorem acquire_missing (hw : Sound w) (hdir : w.disk.tree.isDir path = false) :
    Sound (w.acquire path) := by
  have hkey : w.disk.lockKey path = (path.place w.disk.tree.here).path ∨
      w.disk.lockKey path = path := by
    rw [Disk.lockKey, FileTree.canonical?]
    split
    · next m n hfind =>
      rw [FileTree.place_of_find hfind]
      exact .inl rfl
    · exact .inr rfl
  rw [acquire, Disk.lock]
  by_cases hheld : w.disk.held.contains (w.disk.lockKey path) = true
  · simp only [hheld, if_true]
    exact hw
  · simp only [hheld, hdir, Bool.false_eq_true, if_false]
    exact hw.hold ⟨w.disk.lockKey path, none⟩ (Bool.eq_false_iff.2 hheld)
      (hkey.imp_right fun heq => ⟨rfl, heq⟩) fun hfile => absurd rfl hfile

theorem acquire (hw : Sound w) (path : Path) : Sound (w.acquire path) := by
  cases hdir : w.disk.tree.isDir path with
  | false => exact hw.acquire_missing hdir
  | true =>
    obtain ⟨l, hfind⟩ := FileTree.isDir_iff.1 hdir
    exact hw.acquire_dir hfind

/-- Different guards that are alive are known by different paths. -/
theorem compare_ne (hw : Sound w) (hg : g ∈ w.live) (hh : h ∈ w.live) (hne : g ≠ h) :
    compare g.guard.key h.guard.key ≠ .eq := by
  have : Std.Symm fun g h : Lease => compare g.guard.key h.guard.key ≠ .eq :=
    ⟨fun _ _ hR heq => hR (Std.OrientedCmp.eq_symm heq)⟩
  exact hw.distinct.forall hg hh hne

theorem nodup (hw : Sound w) : w.live.Nodup := by
  refine hw.distinct.imp ?_
  rintro g _ hne rfl
  exact hne Std.ReflCmp.compare_self

/-- A guard that is dropped takes its file along, if it has one, and no other. -/
theorem drop_frame (hw : Sound w) (hg : g ∈ w.live) :
    FileTree.Frame (fun m => g.guard.file ≠ none ∧ m = (w.place g).child Disk.lockFileName)
      w.disk.tree (w.drop g).disk.tree := by
  change FileTree.Frame _ _ (w.disk.removeLockFile g.guard).tree
  by_cases hfile : g.guard.file = none
  · rw [Disk.removeLockFile, hfile]
    exact .refl _ _
  · obtain ⟨hfind, hguard, -⟩ := hw.marked g hg hfile
    refine (Disk.removeLockFile_frame (.of_find hfind) fun file hsome => ?_).mono fun m hm =>
      ⟨hfile, hm⟩
    rw [hguard] at hsome
    exact (Option.some.inj hsome).symm

theorem drop (hw : Sound w) (hg : g ∈ w.live) : Sound (w.drop g) := by
  have hframe := hw.drop_frame hg
  have hplace (h : Lease) : (w.drop g).place h = w.place h := by
    rw [place, hframe.here, place]
  have hmem (h : Lease) : h ∈ (w.drop g).live ↔ h ≠ g ∧ h ∈ w.live := hw.nodup.mem_erase_iff
  have hheld : (w.drop g).disk.held = w.disk.held.erase g.guard.key := by
    rw [← Disk.held_removeLockFile w.disk g.guard]
    rfl
  constructor
  · intro k
    rw [hheld, SortedMap.contains_erase_iff, hw.held]
    constructor
    · rintro ⟨⟨h, hh, heq⟩, hne⟩
      refine ⟨h, (hmem h).2 ⟨?_, hh⟩, heq⟩
      rintro rfl
      exact hne (Std.OrientedCmp.eq_symm heq)
    · rintro ⟨h, hh, heq⟩
      obtain ⟨hne, hh⟩ := (hmem h).1 hh
      exact ⟨⟨h, hh, heq⟩, fun hk => hw.compare_ne hg hh hne.symm (Std.TransCmp.eq_trans hk heq)⟩
  · exact hw.distinct.sublist (List.erase_sublist ..)
  · intro h hh
    rw [hplace]
    exact hw.key h ((hmem h).1 hh).2
  · intro h hh hfile
    obtain ⟨hne, hh⟩ := (hmem h).1 hh
    obtain ⟨hfind, hguard, hthere⟩ := hw.marked h hh hfile
    rw [hplace]
    refine ⟨hframe.find hfind, hguard, ?_⟩
    rw [hframe.files _ ?_]
    · exact hthere
    -- Both would be known by the path of the one directory that the file lies in.
    rintro ⟨hfile', heq⟩
    have hguard' := (hw.marked g hg hfile').2.1
    refine hw.compare_ne hh hg hne ?_
    rw [hguard, hguard', (Location.child_inj.1 heq).1]
    exact Std.ReflCmp.compare_self

theorem of_reaches (hw : Sound w) (hreaches : w.Reaches w') : Sound w' := by
  induction hreaches with
  | start => exact hw
  | acquire _ path ih => exact ih.acquire path
  | drop _ hg ih => exact ih.drop hg
  | createDir _ path ih => exact ih.createDir path

/-! ## Who is kept out -/

/-- A guard is loose, or known by the path of its directory. -/
theorem isLoose_of_compare_ne (hw : Sound w) (hg : g ∈ w.live)
    (hne : compare g.guard.key (w.place g).path ≠ .eq) : w.IsLoose g := by
  rcases hw.key g hg with hkey | ⟨hfile, hkey⟩
  · rw [hkey] at hne
    exact absurd Std.ReflCmp.compare_self hne
  · exact ⟨hfile, hkey, hkey ▸ hne⟩

theorem excludes (hw : Sound w) : w.Excludes where
  apart := by
    refine hw.distinct.imp_of_mem fun {g h} hg hh hne hplace => ?_
    by_cases hkey : compare g.guard.key (w.place g).path = .eq
    · refine .inr (hw.isLoose_of_compare_ne hh fun hkey' => hne ?_)
      rw [← hplace] at hkey'
      exact Std.TransCmp.eq_trans hkey (Std.OrientedCmp.eq_symm hkey')
    · exact .inl (hw.isLoose_of_compare_ne hg hkey)
  rejects g hg hloose path hfind := by
    have hkey : compare g.guard.key (w.place g).path = .eq := by
      by_contra hne
      exact hloose (hw.isLoose_of_compare_ne hg hne)
    rw [Disk.lock_eq hfind, if_pos ((hw.held _).2 ⟨g, hg, Std.OrientedCmp.eq_symm hkey⟩)]
  accepts path hfree hvacant := by
    have hheld : w.disk.held.contains (w.disk.lockKey path) = false := by
      rw [Bool.eq_false_iff, ne_eq, hw.held]
      rintro ⟨g, hg, heq⟩
      exact hfree g hg heq
    cases hdir : w.disk.tree.isDir path with
    | false =>
      rw [Disk.lock]
      simp only [hheld, hdir, Bool.false_eq_true, if_false]
      exact ⟨_, rfl⟩
    | true =>
      obtain ⟨l, hfind⟩ := FileTree.isDir_iff.1 hdir
      rw [Disk.lockKey_eq hfind] at hheld
      rw [Disk.lock_eq hfind, hvacant l hfind, hheld]
      exact ⟨_, rfl⟩

end Sound

/-- Whatever a process comes to that takes directories, drops guards and creates directories: of two
guards that are alive for one directory, one was taken while the directory was not there, and is
known by its path as it is written, which differs from the one that the directory is known by. Any
other guard keeps everybody out whose path leads to its directory, and nobody else is kept out of a
directory without the file of a guard. -/
theorem excludes_of_reaches (d : Disk) (hfree : d.held = ∅) (w : Tenancy)
    (hreaches : Reaches ⟨d, []⟩ w) : w.Excludes :=
  ((Sound.start hfree).of_reaches hreaches).excludes

/-- A directory is taken while it is not there, created, and taken once more. -/
def appearing : Tenancy :=
  (((⟨{}, []⟩ : Tenancy).acquire ⟨"models"⟩).createDir ⟨"models"⟩).acquire ⟨"models"⟩

/-- Two guards of the directory are alive then, and the directory is there. -/
theorem excludes_appearing :
    appearing.live.map Lease.path = [⟨"models"⟩, ⟨"models"⟩] ∧
    appearing.disk.tree.find ⟨"models"⟩ = .ok (.node ⟨["models"]⟩ .dir) ∧ appearing.Excludes :=
  ⟨by decide, by decide, excludes_of_reaches {} rfl appearing
    (((Reaches.start.acquire ⟨"models"⟩).createDir ⟨"models"⟩).acquire ⟨"models"⟩)⟩

end Tenancy

end ContentModels
