import ContentModels.Proofs.FileTree.Spelling
import ContentModels.Proofs.Run.Interleaving
import ContentModels.Proofs.Run.Kept
import ContentModels.Proofs.Run.Tenure

/-!
# Processes that share files

Every process of a machine sees the same files, but has its own place where relative paths start,
and its own set of the directories that are taken in it.

## Main definitions

* `Machine` — files, and the processes that share them.
* `Machine.disk` — what one of the processes sees.
* `Machine.host` — answers the calls of a run in one of the processes.

## Main statements

* `Disk.work_frame` — work in a directory does not touch the file that tells that it is taken.
* `Disk.held_work` — and takes or gives back no directory.
* `Machine.listsEnding_answer` — what listings give.
-/

namespace ContentModels

/-- What is a process's own. -/
structure Process where
  /-- Where relative paths start. -/
  here : Location := .root
  /-- What stands for the directories that are taken in it. -/
  held : SortedSet Path := ∅
  /-- How it called the compiler, in order. -/
  invocations : List Invocation := []

/-- Files, and processes that share them. -/
structure Machine (π : Type) where
  nodes : SortedMap Location Node := ∅
  process : π → Process

/-! ## What work leaves alone -/

namespace Disk

variable {set : Settings} {d : Disk} {l : Location} {c : Call}

/-- Work takes no directory, and gives none back. -/
theorem held_work (d : Disk) (tools : Toolchain) (h : c.IsWork set) :
    ((host false tools).answer c d).2.held = d.held := by
  cases c with
  | list | read => rfl
  | compile request => rw [state_compile, held_compile]
  | write file text => exact held_write d file text
  | delete file => exact held_delete d file
  | createDir | lock | removeLockFile | release => exact h.elim

theorem delete_generated_frame {file : Path} (h : Naming.generatedSuffix.toList <:+ file.chars) :
    FileTree.Frame (fun m => ∃ (dir : Location) (x : String), EndsGenerated x ∧ m = dir.child x)
      d.tree (d.delete file).2.tree := by
  unfold delete FileTree.delete
  cases hfind : d.tree.find file with
  | error e => cases e <;> exact .refl _ _
  | ok f =>
    obtain ⟨dir, x, hx, rfl⟩ := FileTree.exists_entry_of_find_generated h hfind
    unfold FileTree.entry
    rcases hget : d.tree.get? (dir.child x) with _ | _ | content
    · exact .refl _ _
    · exact .refl _ _
    · exact (FileTree.Frame.erase (by simp [hget])).mono fun m hm => ⟨dir, x, hx, hm⟩

/-- Work in a directory does not touch the file that tells other processes that it is taken. -/
theorem work_frame (tools : Toolchain) (hfind : d.tree.find set.modelsDir = .ok (.node l .dir))
    (h : c.IsWork set) :
    FileTree.Frame (· ≠ l.child lockFileName) d.tree ((host false tools).answer c d).2.tree := by
  cases c with
  | list | read => exact .refl _ _
  | delete file =>
    refine (delete_generated_frame h).mono ?_
    rintro m ⟨dir, x, hx, rfl⟩ heq
    exact ne_lockFileName (rs_suffix_of_endsGenerated hx) (Location.child_inj.1 heq).2
  | write file text =>
    obtain ⟨x, hx, rfl⟩ := h
    rw [state_write, write_file (.of_find hfind) hx.toIsName]
    by_cases hplain : d.tree.get? (l.child x) = some .dir
    · rw [if_pos hplain]
      exact .refl _ _
    · rw [if_neg hplain]
      refine (FileTree.Frame.put hplain (fun m y heq => ?_) _).mono ?_
      · obtain ⟨-, rfl⟩ := Location.child_inj.1 heq
        exact hx.toIsName
      · rintro m rfl heq
        exact ne_lockFileName (rs_suffix_of_endsGenerated hx.ending) (Location.child_inj.1 heq).2
  | compile request =>
    have houtput : request.output =
        (set.artifactDir.getD (set.modelsDir.file Settings.artifactDirName)).file
          (Naming.artifactFileName set.space) := by
      rw [show request.output = set.artifactPath from h, Settings.artifactPath]
    have hframe := compile_frame (d := d) tools (Naming.isName_artifactFileName set.space) houtput
    rw [state_compile]
    refine hframe.mono ?_
    rintro m ⟨dir, rfl⟩ heq
    exact lockFileName_ne_artifactFileName set.space (Location.child_inj.1 heq).2.symm
  | createDir | lock | removeLockFile | release => exact h.elim

end Disk

namespace Machine

variable {π : Type} {s : Machine π} {l : Location}

/-- The files as a process sees them. -/
def tree (s : Machine π) (k : π) : FileTree := ⟨s.nodes, (s.process k).here⟩

/-- The files, and the directories that are taken, as a process sees them. -/
def disk (s : Machine π) (k : π) : Disk :=
  ⟨s.tree k, (s.process k).held, (s.process k).invocations⟩

/-- What is at a place. It is the same for all processes. -/
def get? (s : Machine π) (l : Location) : Option Node := FileTree.get? ⟨s.nodes, .root⟩ l

theorem get?_tree (s : Machine π) (k : π) (l : Location) : (s.tree k).get? l = s.get? l := rfl

/-- Whether something tells other processes that a directory is taken. -/
def isMarked (s : Machine π) (l : Location) : Bool := (s.get? (l.child Disk.lockFileName)).isSome

/-- Whether a directory is taken in a process. -/
def isHeld (s : Machine π) (k : π) (l : Location) : Bool := (s.process k).held.contains l.path

variable [DecidableEq π] {k j : π} {d : Disk}

/-- The machine after one of its processes has changed what it sees. -/
def setDisk (s : Machine π) (k : π) (d : Disk) : Machine π where
  nodes := d.tree.nodes
  process := Function.update s.process k
    { s.process k with held := d.held, invocations := d.invocations }

/-- Answers the calls of a run in one of the processes. -/
def host (tools : Toolchain) (k : π) : Host (Machine π) where
  answer c s :=
    let (answer, d) := (Disk.host false tools).answer c (s.disk k)
    (answer, s.setDisk k d)

theorem process_setDisk (s : Machine π) (k : π) (d : Disk) :
    (s.setDisk k d).process k =
      { s.process k with held := d.held, invocations := d.invocations } :=
  Function.update_self ..

theorem process_setDisk_of_ne (h : j ≠ k) : (s.setDisk k d).process j = s.process j :=
  Function.update_of_ne h ..

@[simp] theorem here_setDisk : ((s.setDisk k d).process j).here = (s.process j).here := by
  by_cases h : j = k
  · rw [h, process_setDisk]
  · rw [process_setDisk_of_ne h]

theorem get?_setDisk (s : Machine π) (k : π) (d : Disk) (l : Location) :
    (s.setDisk k d).get? l = d.tree.get? l := rfl

/-- What one process changes has changed for all of them. -/
theorem frame_setDisk {touched : Location → Prop} (h : FileTree.Frame touched (s.tree k) d.tree)
    (j : π) : FileTree.Frame touched (s.tree j) ((s.setDisk k d).tree j) where
  here := here_setDisk
  dirs := h.dirs
  files := h.files
  named := h.named

/-- Listings give files with the ending that is asked for. -/
theorem listsEnding_answer (tools : Toolchain) (c : Call) (s : Machine π) (k : π) :
    Exchange.ListsEnding ⟨c, ((host tools k).answer c s).1⟩ := by
  cases c with
  | list dir pattern =>
    rintro rfl files hlist file hfile
    exact Glob.suffix_of_mem_list (t := s.tree k) hlist hfile
  | _ => trivial

end Machine

end ContentModels
