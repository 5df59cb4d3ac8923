import ContentModels.Proofs.Disk.Machine

/-!
# Runs of one directory exclude each other

Runs are performed side by side in any number of processes, each of them for a directory that it
spells in its own way. A run has the directory from when it takes it until it removes the file that
tells other processes; its own process knows it to be taken for one step longer. The steps of all
runs together keep what is known of the runs that have the directory, as long as nobody else removes
it or that file.

## Main definitions

* `Participant` — a run, and the process that it is performed in.
* `Machine.Spares` — what may happen to the files besides.
* `Standing` — what is known of a machine, given how far the runs have come.
* `Exclusive` — that runs exclude each other.

## Main statements

* `Standing.turn` — every step keeps it.
* `exclusive_of_reaches` — whatever the runs of a directory have come to, they have excluded each
  other.
-/

namespace ContentModels

/-! ## Runs in processes -/

/-- A run, and the process that it is performed in. -/
structure Participant (π : Type) where
  process : π
  settings : Settings
  input : Except SchemaFailure Schema
  tools : Toolchain

section Participants

variable {π : Type} {s s' : Machine π} {l : Location} {r : Participant π}

namespace Participant

def program (r : Participant π) : Program (Except RunError Report) := r.settings.generate r.input false

def host [DecidableEq π] (r : Participant π) : Host (Machine π) := Machine.host r.tools r.process

/-- Whether the directory of a run is there, in some place. -/
def LeadsTo (r : Participant π) (l : Location) (s : Machine π) : Prop :=
  (s.tree r.process).find r.settings.modelsDir = .ok (.node l .dir)

/-- Whether the directory of a run is written for some place. -/
def Spells (r : Participant π) (l : Location) (s : Machine π) : Prop :=
  r.settings.modelsDir.Spells (s.process r.process).here l

end Participant

namespace Tenure

/-- Whether a run has found the directory and still needs it. -/
def isInside : Tenure → Bool
  | created | owner _ => true
  | _ => false

/-- Whether a run has the directory. -/
def owns : Tenure → Bool
  | owner _ => true
  | _ => false

/-- Whether the process of a run knows that the run has taken the directory. -/
def holds : Tenure → Bool
  | owner _ | leaving _ => true
  | _ => false

/-- Whether a run has not taken the directory so far. -/
def isBefore : Tenure → Bool
  | outside | created | refused => true
  | _ => false

theorem owns_iff {t : Tenure} : t.owns = true ↔ ∃ guard, t = owner guard := by
  cases t <;> simp [owns]

theorem holds_of_owns {t : Tenure} (h : t.owns = true) : t.holds = true := by
  obtain ⟨guard, rfl⟩ := owns_iff.1 h
  rfl

end Tenure

/-- Whether a call changes files. -/
def Call.isChange : Call → Bool
  | .write .. | .delete _ | .compile _ => true
  | _ => false

/-- What may happen to a machine besides the runs of a directory: neither the directory nor the file
in it is removed, and it is not given back in any process. -/
structure Machine.Spares {ι : Type} (runs : ι → Participant π) (l : Location) (s s' : Machine π) :
    Prop where
  here : ∀ k, (s'.process k).here = (s.process k).here
  leads : ∀ i, (runs i).LeadsTo l s → (runs i).LeadsTo l s'
  marked : s.isMarked l = true → s'.isMarked l = true
  held : ∀ k, s.isHeld k l = true → s'.isHeld k l = true

/-- Something that was done has changed no file, and no set of directories that are taken. -/
structure Deed.IsHarmless (deed : Deed (Machine π)) : Prop where
  isChange : deed.call.isChange = false
  files : ∀ k, FileTree.Frame (fun _ => False) (deed.before.tree k) (deed.after.tree k)
  process : deed.after.process = deed.before.process

end Participants

section Runs

variable {ι π : Type} {runs : ι → Participant π} {l : Location} {τ : ι → Tenure} {s s' : Machine π}
  {i : ι} {k : π} {d : Disk}

/-! ## What is known of the runs -/

/-- What is known of a machine, given how far the runs have come with the directory. -/
structure Standing (runs : ι → Participant π) (l : Location) (τ : ι → Tenure) (s : Machine π) :
    Prop where
  spells : ∀ i, (runs i).Spells l s
  leads : ∀ i, (τ i).isInside = true → (runs i).LeadsTo l s
  /-- While a run has the directory, a file tells other processes. -/
  marked : ∀ i, (τ i).owns = true → s.isMarked l = true
  /-- The process of the run knows it until the very end. -/
  held : ∀ i, (τ i).holds = true → s.isHeld (runs i).process l = true
  guard : ∀ i guard, τ i = .owner guard ∨ τ i = .leaving guard →
    guard = Disk.guardOf l (runs i).settings.modelsDir
  oneOwner : ∀ i j, (τ i).owns = true → (τ j).owns = true → i = j
  oneHolder : ∀ i j, (runs i).process = (runs j).process → (τ i).holds = true →
    (τ j).holds = true → i = j

namespace Standing

/-- What is known stays true when the machine changes, if no run loses what it has. -/
theorem transfer (h : Standing runs l τ s)
    (here : ∀ k, (s'.process k).here = (s.process k).here)
    (leads : ∀ i, (runs i).LeadsTo l s → (runs i).LeadsTo l s')
    (marked : ∀ i, (τ i).owns = true → s'.isMarked l = true)
    (held : ∀ i, (τ i).holds = true → s'.isHeld (runs i).process l = true) :
    Standing runs l τ s' where
  spells i := by
    rw [Participant.Spells, here]
    exact h.spells i
  leads i hi := leads i (h.leads i hi)
  marked := marked
  held := held
  guard := h.guard
  oneOwner := h.oneOwner
  oneHolder := h.oneHolder

theorem of_spares (h : Standing runs l τ s) (hs : s.Spares runs l s') : Standing runs l τ s' :=
  h.transfer hs.here hs.leads (fun i hi => hs.marked (h.marked i hi))
    fun i hi => hs.held _ (h.held i hi)

variable [DecidableEq ι]

/-- One run comes further. -/
theorem update (h : Standing runs l τ s) {t : Tenure}
    (leads : t.isInside = true → (runs i).LeadsTo l s)
    (marked : t.owns = true → s.isMarked l = true)
    (held : t.holds = true → s.isHeld (runs i).process l = true)
    (guard : ∀ guard, t = .owner guard ∨ t = .leaving guard →
      guard = Disk.guardOf l (runs i).settings.modelsDir)
    (alone : t.owns = true → ∀ j, (τ j).owns = true → i = j)
    (aloneHere : t.holds = true → ∀ j, (runs i).process = (runs j).process →
      (τ j).holds = true → i = j) :
    Standing runs l (Function.update τ i t) s where
  spells := h.spells
  leads j hj := by
    rw [Function.update_apply] at hj
    split at hj
    · next heq => exact heq ▸ leads hj
    · exact h.leads j hj
  marked j hj := by
    rw [Function.update_apply] at hj
    split at hj
    · exact marked hj
    · exact h.marked j hj
  held j hj := by
    rw [Function.update_apply] at hj
    split at hj
    · next heq => exact heq ▸ held hj
    · exact h.held j hj
  guard j g hj := by
    rw [Function.update_apply] at hj
    split at hj
    · next heq => exact heq ▸ guard g hj
    · exact h.guard j g hj
  oneOwner j j' hj hj' := by
    rw [Function.update_apply] at hj hj'
    split at hj <;> split at hj'
    · next heq heq' => rw [heq, heq']
    · next heq _ => rw [heq, alone hj j' hj']
    · next _ heq' => rw [heq', alone hj' j hj]
    · exact h.oneOwner j j' hj hj'
  oneHolder j j' hprocess hj hj' := by
    rw [Function.update_apply] at hj hj'
    split at hj <;> split at hj'
    · next heq heq' => rw [heq, heq']
    · next heq _ => rw [heq, aloneHere hj j' (heq ▸ hprocess) hj']
    · next _ heq' => rw [heq', aloneHere hj' j (heq' ▸ hprocess.symm) hj]
    · exact h.oneHolder j j' hprocess hj hj'

/-- A run that has nothing yet, or no longer has anything. -/
theorem update_idle (h : Standing runs l τ s) {t : Tenure}
    (leads : t.isInside = true → (runs i).LeadsTo l s) (hfree : t.holds = false) :
    Standing runs l (Function.update τ i t) s := by
  have howns : t.owns = false := by cases t <;> simp_all [Tenure.owns, Tenure.holds]
  refine h.update leads (by simp [howns]) (by simp [hfree]) ?_ (by simp [howns]) (by simp [hfree])
  rintro guard (rfl | rfl) <;> cases hfree

end Standing

/-! ## What one process does to the machine -/

section Process

variable [DecidableEq π]

theorem tree_setDisk {touched : Location → Prop} (h : FileTree.Frame touched (s.tree k) d.tree) :
    (s.setDisk k d).tree k = d.tree := by
  have hhere : ((s.setDisk k d).process k).here = d.tree.here := by
    rw [Machine.here_setDisk, h.here]
    rfl
  rw [Machine.tree, hhere]
  rfl

theorem leadsTo_setDisk {touched : Location → Prop}
    (h : FileTree.Frame touched (s.tree k) d.tree) {r : Participant π} (hleads : r.LeadsTo l s) :
    r.LeadsTo l (s.setDisk k d) :=
  (Machine.frame_setDisk h r.process).find hleads

theorem isHeld_setDisk_of_ne {j : π} (h : j ≠ k) :
    (s.setDisk k d).isHeld j l = s.isHeld j l := by
  rw [Machine.isHeld, Machine.process_setDisk_of_ne h, Machine.isHeld]

theorem isHeld_setDisk : (s.setDisk k d).isHeld k l = d.held.contains l.path := by
  rw [Machine.isHeld, Machine.process_setDisk]

/-- A process that removes neither the directory nor the file in it, and does not give it back. -/
theorem spares_setDisk {touched : Location → Prop} (runs : ι → Participant π)
    (h : FileTree.Frame touched (s.tree k) d.tree)
    (marked : s.isMarked l = true → (s.setDisk k d).isMarked l = true)
    (held : s.isHeld k l = true → d.held.contains l.path = true) :
    s.Spares runs l (s.setDisk k d) where
  here _ := Machine.here_setDisk
  leads _ := leadsTo_setDisk h
  marked := marked
  held j hj := by
    by_cases heq : j = k
    · subst heq
      rw [isHeld_setDisk]
      exact held hj
    · rwa [isHeld_setDisk_of_ne heq]

theorem isMarked_setDisk {touched : Location → Prop}
    (h : FileTree.Frame touched (s.tree k) d.tree)
    (untouched : ¬touched (l.child Disk.lockFileName)) (hmarked : s.isMarked l = true) :
    (s.setDisk k d).isMarked l = true := by
  rw [Machine.isMarked, ← Machine.get?_tree s k] at hmarked
  rw [Machine.isMarked, Machine.get?_setDisk]
  rcases h.get?_of_untouched untouched with heq | ⟨-, heq⟩
  · rwa [heq]
  · rw [heq]
    rfl

/-- Nothing has changed if a process sees what it saw. -/
theorem setDisk_disk (s : Machine π) (k : π) : s.setDisk k (s.disk k) = s := by
  have hprocess : (s.setDisk k (s.disk k)).process = s.process := Function.update_eq_self k s.process
  calc s.setDisk k (s.disk k) = ⟨s.nodes, (s.setDisk k (s.disk k)).process⟩ := rfl
    _ = s := by rw [hprocess]

end Process

/-! ## The steps of the runs -/

namespace Standing

variable [DecidableEq π]

/-- A run works in the directory that it has. -/
theorem turn_work (h : Standing runs l τ s) (howns : (τ i).owns = true) {c : Call}
    (hc : c.IsWork (runs i).settings) :
    Standing runs l τ ((runs i).host.answer c s).2 := by
  have hleads : (runs i).LeadsTo l s := h.leads i (by
    obtain ⟨guard, heq⟩ := Tenure.owns_iff.1 howns
    rw [heq]
    rfl)
  have hframe := Disk.work_frame (d := s.disk (runs i).process) (runs i).tools hleads hc
  have hheld := Disk.held_work (s.disk (runs i).process) (runs i).tools hc
  exact h.of_spares (spares_setDisk runs hframe (isMarked_setDisk hframe (by simp))
    (congrArg (·.contains l.path) hheld).trans)

variable [DecidableEq ι]

/-- A run creates its directory. It is in the place that its path is written for. -/
theorem turn_createDir (h : Standing runs l τ s) {answer : Except StoreError Unit}
    (hcreate : (s.disk (runs i).process).createDir (runs i).settings.modelsDir = (answer, d)) :
    Standing runs l
      (Function.update τ i (Tenure.outside.next ⟨.createDir (runs i).settings.modelsDir, answer⟩))
      (s.setDisk (runs i).process d) := by
  have hd : ((s.disk (runs i).process).createDir (runs i).settings.modelsDir).2 = d :=
    congrArg Prod.snd hcreate
  have hframe : FileTree.Frame (fun _ => False) (s.tree (runs i).process) d.tree :=
    hd ▸ FileTree.createDirs_frame (s.tree (runs i).process) (runs i).settings.modelsDir
  have hheld : d.held = (s.process (runs i).process).held := hd ▸ rfl
  have hspares := spares_setDisk runs hframe (isMarked_setDisk (l := l) hframe id) fun hheld' => by
    rwa [hheld]
  refine (h.of_spares hspares).update_idle (fun hinside => ?_) (by cases answer <;> rfl)
  cases answer with
  | error e => cases hinside
  | ok =>
    have hspells := h.spells i
    obtain ⟨-, m, hfind⟩ := Disk.createDir_spec hspells.1 hcreate
    have hplace := FileTree.place_of_find hfind
    rw [hframe.here] at hplace
    obtain rfl : l = m := hspells.2.symm.trans hplace
    rwa [Participant.LeadsTo, tree_setDisk hframe]

/-- A run that takes its directory has found it free, and no other run has it. -/
theorem turn_taken (h : Standing runs l τ s) (hcreated : τ i = .created)
    (hfree : s.isHeld (runs i).process l = false)
    (hvacant : s.get? (l.child Disk.lockFileName) = none) :
    Standing runs l
      (Function.update τ i (.owner (Disk.guardOf l (runs i).settings.modelsDir)))
      (s.setDisk (runs i).process ((s.disk (runs i).process).taken l)) := by
  have hframe := Disk.taken_frame (d := s.disk (runs i).process) hvacant
  have hmarked : (s.setDisk (runs i).process ((s.disk (runs i).process).taken l)).isMarked l = true := by
    have hthere := Disk.get?_taken (d := s.disk (runs i).process) hvacant
    rw [Machine.isMarked, Machine.get?_setDisk, hthere]
    rfl
  have hheld : ((s.disk (runs i).process).taken l).held.contains l.path = true := by
    simp only [Disk.taken, Disk.hold, SortedSet.contains_add, Std.ReflCmp.compare_self,
      beq_self_eq_true, Bool.true_or]
  have hleads := h.leads i (by rw [hcreated]; rfl)
  refine (h.of_spares (spares_setDisk runs hframe (fun _ => hmarked) fun _ => hheld)).update
    (fun _ => leadsTo_setDisk hframe hleads) (fun _ => hmarked)
    (fun _ => isHeld_setDisk.trans hheld) ?_ ?_ ?_
  · rintro guard (heq | heq)
    · exact (Tenure.owner.inj heq).symm
    · cases heq
  · -- Who has the directory has marked it.
    intro _ j hj
    have hmarked' := h.marked j hj
    rw [Machine.isMarked, hvacant] at hmarked'
    cases hmarked'
  · -- Who has not given it back here is known here.
    intro _ j hprocess hj
    have hheld' := h.held j hj
    rw [← hprocess, hfree] at hheld'
    cases hheld'

/-- A run asks for its directory. -/
theorem turn_lock (h : Standing runs l τ s) (hcreated : τ i = .created)
    {answer : Except RunError Guard}
    (hlock : (s.disk (runs i).process).lock (runs i).settings.modelsDir = (answer, d)) :
    Standing runs l
      (Function.update τ i (Tenure.created.next ⟨.lock (runs i).settings.modelsDir, answer⟩))
      (s.setDisk (runs i).process d) := by
  have hleads := h.leads i (by rw [hcreated]; rfl)
  have hrefused : Standing runs l (Function.update τ i .refused)
      (s.setDisk (runs i).process (s.disk (runs i).process)) := by
    rw [setDisk_disk]
    exact h.update_idle (by simp [Tenure.isInside]) rfl
  rw [Disk.lock_eq (d := s.disk (runs i).process) hleads] at hlock
  split at hlock
  · obtain ⟨rfl, rfl⟩ := Prod.ext_iff.1 hlock
    exact hrefused
  next hfree =>
  split at hlock
  · next hvacant =>
    obtain ⟨rfl, rfl⟩ := Prod.ext_iff.1 hlock
    exact h.turn_taken hcreated (Bool.eq_false_iff.2 hfree) hvacant
  · obtain ⟨rfl, rfl⟩ := Prod.ext_iff.1 hlock
    exact hrefused

/-- A run tells other processes that it has left. Nobody else has the directory then. -/
theorem turn_removeLockFile (h : Standing runs l τ s) {guard : Guard}
    (howner : τ i = .owner guard) :
    Standing runs l (Function.update τ i (.leaving guard))
      (s.setDisk (runs i).process ((s.disk (runs i).process).removeLockFile guard)) := by
  have hleads := h.leads i (by rw [howner]; rfl)
  have hguard := h.guard i guard (.inl howner)
  have hholds : (τ i).holds = true := by rw [howner]; rfl
  have hframe : FileTree.Frame (· = l.child Disk.lockFileName) (s.tree (runs i).process)
      ((s.disk (runs i).process).removeLockFile guard).tree := by
    refine Disk.removeLockFile_frame (d := s.disk (runs i).process) (.of_find hleads)
      fun file hfile => ?_
    rw [hguard] at hfile
    exact (Option.some.inj hfile).symm
  have hleft : Standing runs l (Function.update τ i (.leaving guard)) s := by
    refine h.update (by simp [Tenure.isInside]) (by simp [Tenure.owns]) (fun _ => h.held i hholds)
      ?_ (by simp [Tenure.owns]) fun _ j hprocess => h.oneHolder i j hprocess hholds
    rintro guard' (heq | heq)
    · cases heq
    · exact (Tenure.leaving.inj heq).symm ▸ hguard
  refine hleft.transfer (fun _ => Machine.here_setDisk) (fun _ => leadsTo_setDisk hframe) ?_ ?_
  · intro j hj
    rw [Function.update_apply] at hj
    split at hj
    · cases hj
    · next hne => exact absurd (h.oneOwner j i hj (by rw [howner]; rfl)) hne
  · intro j hj
    have hheld := hleft.held j hj
    by_cases heq : (runs j).process = (runs i).process
    · rw [heq] at hheld ⊢
      rw [isHeld_setDisk, Disk.held_removeLockFile]
      exact hheld
    · rwa [isHeld_setDisk_of_ne heq]

/-- A run gives the directory back to its own process. No other run of the process has it then. -/
theorem turn_release (h : Standing runs l τ s) {guard : Guard} (hleaving : τ i = .leaving guard) :
    Standing runs l (Function.update τ i .gone)
      (s.setDisk (runs i).process ((s.disk (runs i).process).release guard)) := by
  have hframe : FileTree.Frame (fun _ => False) (s.tree (runs i).process)
      ((s.disk (runs i).process).release guard).tree := .refl _ _
  have hgone : Standing runs l (Function.update τ i .gone) s :=
    h.update_idle (by simp [Tenure.isInside]) rfl
  refine hgone.transfer (fun _ => Machine.here_setDisk) (fun _ => leadsTo_setDisk hframe)
    (fun j hj => isMarked_setDisk hframe id (hgone.marked j hj)) fun j hj => ?_
  have hne : (runs j).process ≠ (runs i).process := by
    intro heq
    rw [Function.update_apply] at hj
    split at hj
    · cases hj
    · next hne => exact hne (h.oneHolder j i heq hj (by rw [hleaving]; rfl))
  rw [isHeld_setDisk_of_ne hne]
  exact hgone.held j hj

/-- Every step of a run keeps what is known. -/
theorem turn (h : Standing runs l τ s) {c : Call} (hc : (τ i).Permits (runs i).settings c) :
    Standing runs l
      (Function.update τ i ((τ i).next ⟨c, ((runs i).host.answer c s).1⟩))
      ((runs i).host.answer c s).2 := by
  cases hτ : τ i with
  | outside =>
    rw [hτ] at hc
    obtain rfl : c = .createDir (runs i).settings.modelsDir := hc
    exact h.turn_createDir rfl
  | created =>
    rw [hτ] at hc
    obtain rfl : c = .lock (runs i).settings.modelsDir := hc
    exact h.turn_lock hτ rfl
  | owner guard =>
    rw [hτ] at hc
    rcases hc with rfl | hwork
    · exact h.turn_removeLockFile hτ
    · rw [Tenure.next_of_isWork (runs i).settings hwork, ← hτ, Function.update_eq_self]
      exact h.turn_work (by rw [hτ]; rfl) hwork
  | leaving guard =>
    rw [hτ] at hc
    obtain rfl : c = .release guard := hc
    exact h.turn_release hτ
  | refused | gone =>
    rw [hτ] at hc
    exact hc.elim

end Standing

/-- A run that has not taken the directory by a step has changed nothing that matters to others. -/
theorem isHarmless_turn [DecidableEq π] {t : Tenure} {c : Call}
    (hc : t.Permits (runs i).settings c)
    (hbefore : (t.next ⟨c, ((runs i).host.answer c s).1⟩).isBefore = true) :
    (⟨⟨c, ((runs i).host.answer c s).1⟩, s, ((runs i).host.answer c s).2⟩ :
      Deed (Machine π)).IsHarmless := by
  cases ht : t with
  | outside =>
    rw [ht] at hc
    obtain rfl : c = .createDir (runs i).settings.modelsDir := hc
    exact {
      isChange := rfl
      files := Machine.frame_setDisk (FileTree.createDirs_frame _ _)
      process := Function.update_eq_self _ s.process }
  | created =>
    rw [ht] at hc hbefore
    obtain rfl : c = .lock (runs i).settings.modelsDir := hc
    cases hlock : (s.disk (runs i).process).lock (runs i).settings.modelsDir with
    | mk answer d =>
    have hanswer : (runs i).host.answer (.lock (runs i).settings.modelsDir) s =
        (answer, s.setDisk (runs i).process d) := by
      change (((s.disk (runs i).process).lock _).1, s.setDisk _ ((s.disk _).lock _).2) = _
      rw [hlock]
    rw [hanswer] at hbefore ⊢
    rcases Disk.lock_spec hlock with ⟨e, -, rfl⟩ | ⟨guard, rfl, -⟩
    · rw [setDisk_disk]
      exact ⟨rfl, fun _ => .refl _ _, rfl⟩
    · cases hbefore
  | owner guard =>
    rw [ht] at hc hbefore
    rcases hc with rfl | hwork
    · cases hbefore
    · rw [Tenure.next_of_isWork (runs i).settings hwork] at hbefore
      cases hbefore
  | leaving guard =>
    rw [ht] at hc hbefore
    obtain rfl : c = .release guard := hc
    cases hbefore
  | refused | gone =>
    rw [ht] at hc
    exact hc.elim

/-! ## Runs side by side -/

/-- How far a program has come with its directory. -/
def Crowd.tenure {σ α : Type} (w : Crowd ι σ α) (i : ι) : Tenure := .of (w.past i)

/-- Runs of a directory have excluded each other. -/
structure Exclusive (runs : ι → Participant π) (l : Location)
    (w : Crowd ι (Machine π) (Except RunError Report)) : Prop where
  /-- At most one run of all processes has the directory. -/
  oneOwner : ∀ i j, (w.tenure i).owns = true → (w.tenure j).owns = true → i = j
  /-- At most one run of a process is known to it, one that is just leaving included. -/
  oneHolder : ∀ i j, (runs i).process = (runs j).process → (w.tenure i).holds = true →
    (w.tenure j).holds = true → i = j
  /-- Whatever a run has deleted, written or compiled, it had the directory at that time, and all
  processes could know. -/
  changed : ∀ (i : ι) (before : List (Deed (Machine π))) (deed : Deed (Machine π)),
    before ++ [deed] <+: w.deeds i → deed.call.isChange = true →
      (Tenure.of (before.map Deed.toExchange)).owns = true ∧ deed.before.isMarked l = true ∧
        deed.before.isHeld (runs i).process l = true
  /-- A run that was rejected has left all files and all sets of directories as they were. -/
  rejected : ∀ i dir, w.rest i = .done (.error (.inProgress dir)) → ∀ deed ∈ w.deeds i,
    deed.IsHarmless

/-- What all steps of runs keep. -/
structure Kept (runs : ι → Participant π) (l : Location)
    (w : Crowd ι (Machine π) (Except RunError Report)) : Prop where
  standing : Standing runs l w.tenure w.state
  abides : ∀ i, (w.rest i).Abides (runs i).settings (w.tenure i)
  changed : ∀ (i : ι) (before : List (Deed (Machine π))) (deed : Deed (Machine π)),
    before ++ [deed] <+: w.deeds i → deed.call.isChange = true →
      (Tenure.of (before.map Deed.toExchange)).owns = true ∧ deed.before.isMarked l = true ∧
        deed.before.isHeld (runs i).process l = true
  harmless : ∀ i, (w.tenure i).isBefore = true → ∀ deed ∈ w.deeds i, deed.IsHarmless

theorem Tenure.owns_of_isChange {set : Settings} {t : Tenure} {c : Call} (hc : t.Permits set c)
    (hchange : c.isChange = true) : t.owns = true := by
  cases t with
  | owner => rfl
  | outside | created | leaving =>
    obtain rfl := hc
    cases hchange
  | refused | gone => exact hc.elim

theorem Tenure.isBefore_of_next {set : Settings} {t : Tenure} {c : Call} {answer : c.Answer}
    (hc : t.Permits set c) (h : (t.next ⟨c, answer⟩).isBefore = true) : t.isBefore = true := by
  cases t with
  | outside | created => rfl
  | owner guard =>
    rcases hc with rfl | hwork
    · cases h
    · rwa [next_of_isWork set hwork] at h
  | leaving guard =>
    obtain rfl := hc
    cases h
  | refused | gone => exact hc.elim

namespace Kept

variable {w : Crowd ι (Machine π) (Except RunError Report)}

theorem start {s : Machine π} (spells : ∀ i, (runs i).Spells l s) :
    Kept runs l (.start (fun i => (runs i).program) s) where
  standing := {
    spells := spells
    leads _ h := by cases h
    marked _ h := by cases h
    held _ h := by cases h
    guard _ _ h := by rcases h with h | h <;> cases h
    oneOwner _ _ h := by cases h
    oneHolder _ _ _ h := by cases h }
  abides i := (runs i).settings.abides_generate (runs i).input false
  changed i before deed h := by simp [Crowd.start] at h
  harmless i _ deed h := by cases h

theorem outside (h : Kept runs l w) {s : Machine π} (hs : w.state.Spares runs l s) :
    Kept runs l { w with state := s } where
  standing := h.standing.of_spares hs
  abides := h.abides
  changed := h.changed
  harmless := h.harmless

variable [DecidableEq ι] [DecidableEq π]

theorem turn (h : Kept runs l w) (i : ι) : Kept runs l (w.turn (fun i => (runs i).host) i) := by
  cases hrest : w.rest i with
  | done r => rwa [Crowd.turn_of_done hrest]
  | call c next =>
    obtain ⟨hpermits, hnext⟩ : (w.tenure i).Permits (runs i).settings c ∧ _ :=
      hrest ▸ h.abides i
    have hpast := @Crowd.past_turn _ _ _ _ (fun i => (runs i).host) _ _ _ _ hrest
    have htenure : (w.turn (fun i => (runs i).host) i).tenure = Function.update w.tenure i
        ((w.tenure i).next ⟨c, ((runs i).host.answer c w.state).1⟩) := by
      funext j
      by_cases heq : j = i
      · rw [heq, Function.update_self, Crowd.tenure, hpast, Tenure.of_concat, Crowd.tenure]
      · rw [Function.update_of_ne heq, Crowd.tenure, Crowd.past_turn_of_ne heq, Crowd.tenure]
    have hdeeds := @Crowd.deeds_turn _ _ _ _ (fun i => (runs i).host) _ _ _ _ hrest
    constructor
    · rw [htenure, Crowd.state_turn hrest]
      exact h.standing.turn hpermits
    · intro j
      rw [htenure]
      by_cases heq : j = i
      · subst heq
        rw [Function.update_self, Crowd.rest_turn hrest]
        exact hnext _ (Machine.listsEnding_answer ..)
      · rw [Function.update_of_ne heq, Crowd.rest_turn_of_ne heq]
        exact h.abides j
    · intro j before deed hprefix hchange
      by_cases heq : j = i
      · subst heq
        rw [hdeeds, List.prefix_concat_iff] at hprefix
        rcases hprefix with hlast | hprefix
        · obtain ⟨rfl, hdeed⟩ := List.append_inj' hlast rfl
          obtain rfl := List.singleton_inj.1 hdeed
          have howns := Tenure.owns_of_isChange hpermits hchange
          exact ⟨howns, h.standing.marked j howns,
            h.standing.held j (Tenure.holds_of_owns howns)⟩
        · exact h.changed j before deed hprefix hchange
      · rw [Crowd.deeds_turn_of_ne heq] at hprefix
        exact h.changed j before deed hprefix hchange
    · intro j hbefore deed hdeed
      rw [htenure] at hbefore
      by_cases heq : j = i
      · subst heq
        rw [Function.update_self] at hbefore
        rw [hdeeds, List.mem_append, List.mem_singleton] at hdeed
        rcases hdeed with hdeed | rfl
        · exact h.harmless j (Tenure.isBefore_of_next hpermits hbefore) deed hdeed
        · exact isHarmless_turn hpermits hbefore
      · rw [Function.update_of_ne heq] at hbefore
        rw [Crowd.deeds_turn_of_ne heq] at hdeed
        exact h.harmless j hbefore deed hdeed

theorem of_reaches (h : Kept runs l w) {w' : Crowd ι (Machine π) (Except RunError Report)}
    (reaches : w.Reaches (fun i => (runs i).host) (Machine.Spares runs l) w') :
    Kept runs l w' := by
  induction reaches with
  | start => exact h
  | turn _ i ih => exact ih.turn i
  | outside _ hs ih => exact ih.outside hs

end Kept

theorem Kept.exclusive {w : Crowd ι (Machine π) (Except RunError Report)} (h : Kept runs l w) :
    Exclusive runs l w where
  oneOwner := h.standing.oneOwner
  oneHolder := h.standing.oneHolder
  changed := h.changed
  rejected i dir hrest := by
    have hends := h.abides i
    rw [hrest, Program.Abides] at hends
    refine h.harmless i ?_
    cases ht : w.tenure i with
    | outside | created | refused => rfl
    | owner | leaving =>
      rw [ht] at hends
      exact hends.elim
    | gone =>
      rw [ht] at hends
      exact absurd rfl (hends dir)

/-- Runs of one directory exclude each other, in any number of processes and however their steps are
interleaved, if all of them spell the same directory and nobody else removes it or the file in it.
At most one run has the directory at a time. No run deletes or writes anything without having it. A
run that is rejected leaves all files, and all sets of directories that are taken, as they are. -/
theorem exclusive_of_reaches [DecidableEq ι] [DecidableEq π] (runs : ι → Participant π)
    (l : Location) (s : Machine π) (spells : ∀ i, (runs i).Spells l s)
    (w : Crowd ι (Machine π) (Except RunError Report))
    (reaches : (Crowd.start (fun i => (runs i).program) s).Reaches (fun i => (runs i).host)
      (Machine.Spares runs l) w) : Exclusive runs l w :=
  ((Kept.start spells).of_reaches reaches).exclusive

/-- A run of the same directory in each of two processes, in two spellings. -/
def neighbours (i : Bool) : Participant Bool where
  process := i
  settings := .forDir (if i then "./models/" else "models")
  input := .ok ⟨[]⟩
  tools := Settings.noCompiler

/-- Two processes where no files are. -/
def emptyMachine : Machine Bool where
  process _ := {}

/-- Both runs have created the directory, and one of them has taken it before the other one
asked. -/
def rejecting : Crowd Bool (Machine Bool) (Except RunError Report) :=
  [false, false, true, true].foldl (Crowd.turn fun i => (neighbours i).host)
    (.start (fun i => (neighbours i).program) emptyMachine)

/-- The first run has the directory then, and the second one has been rejected. -/
theorem exclusive_rejecting :
    (∀ i, (neighbours i).Spells ⟨["models"]⟩ emptyMachine) ∧
    (rejecting.tenure false).owns = true ∧
    rejecting.rest true = .done (.error (.inProgress ⟨"./models/.modelgen.lock"⟩)) ∧
    Exclusive neighbours ⟨["models"]⟩ rejecting := by
  have spells : ∀ i, (neighbours i).Spells ⟨["models"]⟩ emptyMachine := by
    unfold Participant.Spells
    decide
  refine ⟨spells, by decide, rfl, ?_⟩
  exact exclusive_of_reaches neighbours ⟨["models"]⟩ emptyMachine spells rejecting
    (Crowd.reaches_foldl_turn ..)

end Runs

end ContentModels
