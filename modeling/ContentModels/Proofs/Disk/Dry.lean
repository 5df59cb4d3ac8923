import ContentModels.Proofs.Disk.Calls
import ContentModels.Proofs.Run.Execution
import ContentModels.Proofs.Run.Phases
import ContentModels.Validation

/-!
# Runs that write nothing

On a disk that is dry a run changes nothing but that it takes the directory of the models, and that
it gives back at its end. So the run leaves the disk as it was, however it ends, and so does a
validation.

## Main statements

* `Settings.only_isStore_generateLocked` — what a dry run calls for while it has its directory.
* `Disk.state_generate_dry`, `Disk.state_validate_dry` — dry runs and validations leave a disk
  alone.
-/

namespace ContentModels

open Program

/-! ## Calls of the store -/

section Calls

variable {contract : Exchange → Prop} {set : Settings}

theorem Settings.only_isStore_clean : set.clean.Only contract (·.isStore = true) := by
  refine .ask_bind rfl fun answer _ => ?_
  cases answer with
  | error e => exact .pure _
  | ok files => exact only_deleteAll fun _ _ => rfl

theorem only_isStore_scan (dir : Path) : (scan dir).Only contract (·.isStore = true) := by
  refine (only_scan dir).mono ?_
  rintro _ (rfl | ⟨file, rfl⟩) <;> rfl

theorem only_isStore_writeAll (entries : List (Path × String)) :
    (writeAll entries).Only contract (·.isStore = true) := by
  refine only_writeAll.mono ?_
  rintro _ ⟨e, -, rfl⟩
  rfl

/-- A run that has its directory and does not compile calls for nothing but the store. -/
theorem Settings.only_isStore_generateLocked (schema : Schema) :
    (set.generateLocked schema true).run.Only contract (·.isStore = true) := by
  rw [generateLocked]
  refine .attempt_bind only_isStore_clean fun deleted => ?_
  refine .attempt_bind (only_isStore_scan _) fun sources => ?_
  refine .attempt_bind (only_isStore_writeAll _) fun written => ?_
  rw [Settings.compile, if_neg (by simp)]
  exact .pure _

theorem only_isStore_compareFiles (files : List (Path × String)) :
    (compareFiles files).Only contract (·.isStore = true) := by
  induction files with
  | nil => exact .pure _
  | cons e rest ih =>
    refine .ask_bind rfl fun answer _ => ?_
    cases answer with
    | ok actual =>
      dsimp only
      split
      · exact ih
      · exact ih.bind fun _ => .pure _
    | error e =>
      dsimp only
      split
      · exact ih.bind fun _ => .pure _
      · exact .pure _

/-- What a run reads and reports that succeeds on a host on which the calls of the store change
nothing. -/
theorem Settings.exists_scan_of_runs_dry {σ : Type} {host : Host σ} {s t : σ}
    {input : Except SchemaFailure Schema} {r : Report}
    (same : ∀ c s, c.isStore = true → (host.answer c s).2 = s)
    (h : (set.generate input true).Runs host s (.ok r) t) :
    ∃ schema sources guard s₁, input = .ok schema ∧
      host.answer (.lock set.modelsDir) s = (.ok guard, s₁) ∧
      (scan set.modelsDir).Runs host s₁ (.ok sources) s₁ ∧
      ∃ deleted written artifact, r = set.report schema deleted sources written artifact := by
  obtain ⟨-, schema, hinput, guard, s₁, s₂, s₃, hcreate, hlock, hrun, -⟩ :=
    runs_generate_ok_iff.1 h
  obtain rfl : s = s₁ := (same _ s rfl).symm.trans (congrArg Prod.snd hcreate)
  obtain ⟨deleted, sources, written, artifact, t₁, t₂, t₃, hclean, hscan, -, -, hreport⟩ :=
    runs_generateLocked_ok_iff.1 hrun
  obtain rfl : s₂ = t₁ :=
    (state_execute_of_only same only_isStore_clean s₂).symm.trans hclean.2
  obtain rfl : s₂ = t₂ :=
    (state_execute_of_only same (only_isStore_scan _) s₂).symm.trans hscan.2
  exact ⟨schema, sources, guard, s₂, hinput, hlock, hscan, deleted, written, artifact, hreport⟩

end Calls

namespace Disk

variable {tools : Toolchain} {d : Disk}

theorem runs_deleteAll_dry (tools : Toolchain) (d : Disk) (files : List Path) :
    (deleteAll files).Runs (host true tools) d (.ok []) d := by
  induction files with
  | nil => exact runs_pure_iff.2 ⟨rfl, rfl⟩
  | cons file rest ih =>
    exact runs_deleteAll_cons_ok_iff.2 ⟨false, d, [], rfl, ih, rfl⟩

theorem runs_writeAll_dry (tools : Toolchain) (d : Disk) (entries : List (Path × String)) :
    (writeAll entries).Runs (host true tools) d
      (.ok (entries.map fun e => .preview e.1 e.2)) d := by
  induction entries with
  | nil => exact runs_pure_iff.2 ⟨rfl, rfl⟩
  | cons e rest ih =>
    exact runs_writeAll_cons_ok_iff.2 ⟨.preview e.1 e.2, d, _, rfl, ih, rfl⟩

/-! ## What is left alone -/

/-- The calls of the store change nothing on a disk that is dry. -/
theorem answer_dry {c : Call} (h : c.isStore = true) : ((host true tools).answer c d).2 = d := by
  cases c with
  | createDir | list | read | write | delete => rfl
  | lock | removeLockFile | release | compile => cases h

theorem state_dry {α : Type} {p : Program α} (h : p.Only (fun _ => True) (·.isStore = true)) :
    (p.execute (host true tools) d).state = d :=
  state_execute_of_only (fun _ _ hc => answer_dry hc) h d

/-- A run that writes nothing leaves a disk as it was, however it ends. -/
theorem state_generate_dry (set : Settings) (input : Except SchemaFailure Schema)
    (tools : Toolchain) (d : Disk) :
    ((set.generate input true).execute (host true tools) d).state = d := by
  rcases Settings.state_of_runs_generate (runs_execute (host true tools) (set.generate input true) d)
    with ht | ht | ⟨e, hlock⟩ | ⟨schema, guard, s₂, s₃, hlock, hrun, ht⟩
  · exact ht
  · exact ht
  · have hlock : d.lock set.modelsDir = (.error e, _) := hlock
    rcases lock_spec hlock with ⟨_, -, hd⟩ | ⟨_, hanswer, -⟩
    · exact hd
    · cases hanswer
  · have hlock : d.lock set.modelsDir = (.ok guard, s₂) := hlock
    rcases lock_spec hlock with ⟨_, hanswer, -⟩ | ⟨_, hanswer, hunlock⟩
    · cases hanswer
    · obtain rfl := Except.ok.inj hanswer
      rw [state_dry (Settings.only_isStore_generateLocked schema)] at hrun
      rw [ht, hrun]
      exact hunlock

/-- A validation leaves a disk as it was, whatever it finds. -/
theorem state_validate_dry (set : Settings) (input : Except SchemaFailure Schema)
    (tools : Toolchain) (d : Disk) :
    ((set.validate input).execute (host true tools) d).state = d := by
  have hgenerate := state_generate_dry { set with mode := .sourceOnly } input tools d
  rw [Settings.validate, execute_bind]
  dsimp only
  rw [hgenerate]
  refine state_dry ?_
  cases (({ set with mode := .sourceOnly }.generate input true).execute (host true tools) d).result with
  | error e => exact .pure _
  | ok report =>
    refine (only_isStore_compareFiles _).bind fun compared => ?_
    cases compared with
    | error e => exact .pure _
    | ok drift =>
      refine .ask_bind rfl fun answer _ => ?_
      cases answer <;> exact .pure _

end Disk

end ContentModels
