import ContentModels.Proofs.Run.Phases

/-!
# How a run comes by its directory

A run creates its directory, takes it, works in it, and gives it back in two steps. What it may call
for depends on how far it has come with that, whatever the answers are. So a run deletes and writes
only while it owns its directory, and a run that is refused its directory stops there.

## Main definitions

* `Tenure` — how far a run has come with its directory.
* `Tenure.of` — how far a run has come by its exchanges.
* `Tenure.Permits` — what a run may call for when it has come so far.
* `Program.Abides` — a program calls for nothing else.

## Main statements

* `Settings.abides_generate` — a run calls for nothing else.
-/

namespace ContentModels

/-- How far a run has come with its directory. -/
inductive Tenure where
  /-- It has done nothing about it, or could not create it. -/
  | outside
  /-- The directory is there. -/
  | created
  /-- It was refused the directory. -/
  | refused
  /-- The directory is its own. -/
  | owner (guard : Guard)
  /-- It has told other processes that it has left, and is still known to its own one. -/
  | leaving (guard : Guard)
  | gone
  deriving DecidableEq

/-- What a listing of generated files is taken to give: files with their ending. -/
def Exchange.ListsEnding : Exchange → Prop
  | ⟨.list _ pattern, answer⟩ => pattern = generatedPattern → ∀ files, answer = .ok files →
      ∀ file ∈ files, Naming.generatedSuffix.toList <:+ file.chars
  | _ => True

/-- What a run may call for while it owns its directory: it deletes and writes generated files, and
compiles an artifact. -/
def Call.IsWork (set : Settings) : Call → Prop
  | .list .. | .read _ => True
  | .delete file => Naming.generatedSuffix.toList <:+ file.chars
  | .write file _ => ∃ name, IsGeneratedName name ∧ file = set.modelsDir.file name
  | .compile request => request.output = set.artifactPath
  | _ => False

namespace Tenure

/-- How far a run has come after one more exchange. -/
def next (t : Tenure) : Exchange → Tenure
  | ⟨.createDir _, .ok _⟩ => .created
  | ⟨.lock _, .ok guard⟩ => .owner guard
  | ⟨.lock _, .error _⟩ => .refused
  | ⟨.removeLockFile guard, _⟩ => .leaving guard
  | ⟨.release _, _⟩ => .gone
  | _ => t

/-- How far a run has come by its exchanges. -/
def of (l : List Exchange) : Tenure := l.foldl next .outside

theorem of_concat (l : List Exchange) (x : Exchange) : of (l ++ [x]) = (of l).next x := by
  rw [of, List.foldl_append]
  rfl

/-- What a run may call for when it has come so far. -/
def Permits (set : Settings) : Tenure → Call → Prop
  | outside, c => c = .createDir set.modelsDir
  | created, c => c = .lock set.modelsDir
  | owner guard, c => c = .removeLockFile guard ∨ c.IsWork set
  | leaving guard, c => c = .release guard
  | refused, _ | gone, _ => False

/-- How a run may end when it has come so far. Only a run that was refused its directory says so. -/
def Ends : Tenure → Except RunError Report → Prop
  | refused, _ => True
  | outside, r | gone, r => ∀ dir, r ≠ .error (.inProgress dir)
  | _, _ => False

theorem next_of_isWork {x : Exchange} (set : Settings) (h : x.call.IsWork set) (t : Tenure) :
    t.next x = t := by
  obtain ⟨c, answer⟩ := x
  cases c with
  | list | read | delete | write | compile => rfl
  | createDir | lock | removeLockFile | release => exact h.elim

end Tenure

namespace Program

variable {α : Type} {set : Settings}

/-- A program calls for nothing but what it may call for, given how far it has come, and ends as it
may. -/
def Abides (set : Settings) : Program (Except RunError Report) → Tenure → Prop
  | .done r, t => t.Ends r
  | .call c next, t => t.Permits set c ∧ ∀ answer, Exchange.ListsEnding ⟨c, answer⟩ →
      (next answer).Abides set (t.next ⟨c, answer⟩)

/-- Work is done before the directory is given back. -/
theorem Abides.bind {guard : Guard} {p : Program α} {f : α → Program (Except RunError Report)}
    (hp : p.Only Exchange.ListsEnding (Call.IsWork set))
    (hf : ∀ l r, Yields Exchange.ListsEnding p l r → (f r).Abides set (.owner guard)) :
    (p >>= f).Abides set (.owner guard) := by
  induction p with
  | done r => exact hf [] r (.done r)
  | call c next ih =>
    obtain ⟨hwork, hnext⟩ := hp
    refine ⟨.inr hwork, fun answer kept => ?_⟩
    rw [Tenure.next_of_isWork set hwork]
    exact ih answer (hnext answer kept) fun l r h => hf _ r (.call answer kept h)

end Program

open Program

namespace Settings

variable {set : Settings}

theorem only_isWork_clean : set.clean.Only Exchange.ListsEnding (Call.IsWork set) := by
  refine .ask_bind trivial fun answer hlists => ?_
  cases answer with
  | error e => exact .pure _
  | ok files => exact only_deleteAll fun file hfile => hlists rfl files rfl file hfile

theorem only_isWork_generateLocked (schema : Schema) (dry : Bool) :
    (set.generateLocked schema dry).run.Only Exchange.ListsEnding (Call.IsWork set) := by
  refine only_generateLocked only_isWork_clean ((only_scan _).mono ?_) (fun _ _ h => h) fun _ h => h
  rintro _ (rfl | ⟨file, rfl⟩) <;> trivial

/-- The part of a run during which it has its directory fails in one of its phases, if it fails. -/
theorem isOfPhase_of_yields {contract : Exchange → Prop} {schema : Schema} {dry : Bool}
    {l : List Exchange} {e : RunError}
    (h : Yields contract (set.generateLocked schema dry).run l (.error e)) : e.isOfPhase = true := by
  rw [generateLocked] at h
  rcases yields_attempt_bind_iff.1 h with ⟨_, -, he⟩ | ⟨_, _, _, -, h, -⟩
  · rw [Except.error.inj he]
    rfl
  rcases yields_attempt_bind_iff.1 h with ⟨_, -, he⟩ | ⟨_, _, _, -, h, -⟩
  · rw [Except.error.inj he]
    rfl
  rcases yields_attempt_bind_iff.1 h with ⟨_, -, he⟩ | ⟨_, _, _, -, h, -⟩
  · rw [Except.error.inj he]
    rfl
  rcases yields_run_bind_iff.1 h with ⟨_, hcompile, he⟩ | ⟨_, _, _, -, h, -⟩
  · obtain ⟨cause, rfl⟩ := (eq_of_yields_compile hcompile).2 _ rfl
    rw [Except.error.inj he]
    rfl
  · cases (yields_pure_iff.1 h).2

/-- A run calls for nothing but what it may call for, whatever it is answered. -/
theorem abides_generate (set : Settings) (input : Except SchemaFailure Schema) (dry : Bool) :
    (set.generate input dry).Abides set .outside := by
  unfold generate
  split
  · rintro dir ⟨⟩
  cases input with
  | error e => rintro dir ⟨⟩
  | ok schema =>
    refine ⟨rfl, fun created _ => ?_⟩
    cases created with
    | error e => rintro dir ⟨⟩
    | ok =>
      refine ⟨rfl, fun locked _ => ?_⟩
      cases locked with
      | error e => trivial
      | ok guard =>
        change (set.generateGuarded schema dry guard).Abides set (.owner guard)
        rw [generateGuarded]
        refine .bind (only_isWork_generateLocked schema dry) fun l r hyields => ?_
        refine ⟨.inl rfl, fun _ _ => ⟨rfl, fun _ _ dir hr => ?_⟩⟩
        subst hr
        cases isOfPhase_of_yields hyields

end Settings

end ContentModels
