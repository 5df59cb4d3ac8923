import ContentModels.Proofs.Run.Artifact
import ContentModels.Proofs.Sorted.Part

/-!
# Two runs side by side

Two programs are performed from states that are related, and come to results and states that are
related again. So it can be told how far two runs of the same settings agree that start from
different files.

## Main definitions

* `Program.Coupled` — two programs keep states related, and come to related results.
* `Settings.Couples` — what it takes of a host that runs do so up to the compiler.
* `Settings.Outcomes` — how two such runs end.

## Main statements

* `Program.Coupled.bind`, `coupled_deleteAll`, `coupled_writeAll` — programs made of coupled ones.
* `Settings.Couples.outcomes_generate` — how two runs end.
-/

namespace ContentModels

/-- Two results: the same failure, or two values that are related. -/
inductive Matches {ε α β : Type} (P : α → β → Prop) : Except ε α → Except ε β → Prop
  | failed (e : ε) : Matches P (.error e) (.error e)
  | ok {a : α} {b : β} (h : P a b) : Matches P (.ok a) (.ok b)

theorem matches_eq_iff {ε α : Type} {a b : Except ε α} : Matches Eq a b ↔ a = b := by
  constructor
  · rintro (_ | rfl) <;> rfl
  · rintro rfl
    cases a with
    | error e => exact .failed e
    | ok a => exact .ok rfl

namespace Program

variable {σ α β α' β' : Type} {host : Host σ} {R : σ → σ → Prop}

/-- From related states two programs come to related results, in related states. -/
def Coupled (host : Host σ) (R : σ → σ → Prop) (Q : α → β → Prop) (p : Program α)
    (q : Program β) : Prop :=
  ∀ s s', R s s' → Q (p.execute host s).result (q.execute host s').result ∧
    R (p.execute host s).state (q.execute host s').state

theorem Coupled.pure {Q : α → β → Prop} {a : α} {b : β} (h : Q a b) :
    Coupled host R Q (pure a) (pure b) := fun _ _ hR => ⟨h, hR⟩

/-- Two calls are coupled if their answers are, and the states after them. -/
theorem coupled_ask_iff {c c' : Call} {Q : c.Answer → c'.Answer → Prop} :
    Coupled host R Q (ask c) (ask c') ↔ ∀ s s', R s s' →
      Q (host.answer c s).1 (host.answer c' s').1 ∧ R (host.answer c s).2 (host.answer c' s').2 :=
  .rfl

/-- One program after another. -/
theorem Coupled.bind {P : α → β → Prop} {Q : α' → β' → Prop} {p : Program α} {q : Program β}
    {f : α → Program α'} {g : β → Program β'} (hp : Coupled host R P p q)
    (hf : ∀ a b, P a b → Coupled host R Q (f a) (g b)) :
    Coupled host R Q (p >>= f) (q >>= g) := by
  intro s s' hR
  rw [execute_bind, execute_bind]
  obtain ⟨hP, hR⟩ := hp s s' hR
  exact hf _ _ hP _ _ hR

/-- One attempt after another: the second one is made only if the first succeeds. -/
theorem Coupled.attempt_bind {ε : Type} {P : α → β → Prop} {Q : α' → β' → Prop}
    {during : ε → RunError} {p : Program (Except ε α)} {q : Program (Except ε β)}
    {f : α → Attempt α'} {g : β → Attempt β'} (hp : Coupled host R (Matches P) p q)
    (hf : ∀ a b, P a b → Coupled host R (Matches Q) (f a).run (g b).run) :
    Coupled host R (Matches Q) (attempt during p >>= f).run (attempt during q >>= g).run := by
  have htold : Coupled host R (Matches P) (attempt during p).run (attempt during q).run := by
    refine hp.bind fun a b hab => ?_
    cases hab with
    | failed e => exact .pure (.failed _)
    | ok h => exact .pure (.ok h)
  rw [ExceptT.run_bind, ExceptT.run_bind]
  refine htold.bind fun a b hab => ?_
  cases hab with
  | failed e => exact .pure (.failed _)
  | ok h => exact hf _ _ h

end Program

open Program

variable {σ : Type} {host : Host σ} {R R' : σ → σ → Prop}

/-! ## Programs that make one call for each file -/

theorem coupled_deleteAll {files : List Path}
    (h : ∀ file ∈ files, Coupled host R (Matches Eq) (ask (.delete file)) (ask (.delete file))) :
    Coupled host R (Matches Eq) (deleteAll files) (deleteAll files) := by
  induction files with
  | nil => exact .pure (.ok rfl)
  | cons file rest ih =>
    obtain ⟨hfile, hrest⟩ := List.forall_mem_cons.1 h
    refine hfile.bind fun a b hab => ?_
    cases hab with
    | failed e => exact .pure (.failed e)
    | @ok gone _ heq =>
      cases heq
      refine (ih hrest).bind fun a b hab => ?_
      cases hab with
      | failed e => exact .pure (.failed e)
      | ok heq => exact .pure (.ok (by rw [heq]))

theorem coupled_writeAll {entries entries' : List (Path × String)}
    (h : List.Forall₂ (fun e e' => Coupled host R (Matches fun w w' => w.path = w'.path)
      (ask (.write e.1 e.2)) (ask (.write e'.1 e'.2))) entries entries') :
    Coupled host R (Matches fun l l' => l.map Written.path = l'.map Written.path)
      (writeAll entries) (writeAll entries') := by
  induction h with
  | nil => exact .pure (.ok rfl)
  | cons hfirst _ ih =>
    refine hfirst.bind fun a b hab => ?_
    cases hab with
    | failed e => exact .pure (.failed e)
    | ok hpath =>
      refine ih.bind fun a b hab => ?_
      cases hab with
      | failed e => exact .pure (.failed e)
      | ok hpaths => exact .pure (.ok (by rw [List.map_cons, List.map_cons, hpath, hpaths]))

namespace Settings

variable {set : Settings} {S : List SourceFile → List SourceFile → Prop} {schema : Schema} {dry : Bool}

/-- Giving a directory back leaves states related in the end, whether the compiler was called or
not. -/
def GivesBack (set : Settings) (host : Host σ) (R R' : σ → σ → Prop) (guard : Guard) : Prop :=
  ∀ s s', R s s' → R' (giveBack host guard s) (giveBack host guard s') ∧ ∀ schema l l',
    R' (giveBack host guard (host.answer (.compile (set.requestFrom schema l)) s).2)
      (giveBack host guard (host.answer (.compile (set.requestFrom schema l')) s').2)

/-- What it takes of a host that two runs differ in what they read, and in the text of the index.
All other calls up to the compiler are answered alike, and keep the states related. -/
structure Couples (set : Settings) (host : Host σ) (R R' : σ → σ → Prop)
    (S : List SourceFile → List SourceFile → Prop) : Prop where
  final : ∀ s s', R s s' → R' s s'
  createDir : Coupled host R (Matches Eq) (ask (.createDir set.modelsDir))
    (ask (.createDir set.modelsDir))
  lock : Coupled host R (Matches fun g g' => g = g' ∧ set.GivesBack host R R' g)
    (ask (.lock set.modelsDir)) (ask (.lock set.modelsDir))
  clean : Coupled host R (Matches Eq) set.clean set.clean
  scan : Coupled host R (Matches S) (scan set.modelsDir) (scan set.modelsDir)
  generated : ∀ l l', S l l' → ∀ schema,
    (set.generatedFrom schema l).AgreesBut set.indexPath (set.generatedFrom schema l')
  write : ∀ x, IsGeneratedName x → ∀ text text',
    (compare (set.modelsDir.file x) set.indexPath ≠ .eq → text = text') →
    Coupled host R (Matches fun w w' => w.path = w'.path)
      (ask (.write (set.modelsDir.file x) text)) (ask (.write (set.modelsDir.file x) text'))

/-- Two reports of runs that read different files, before the compiler is called. -/
def Reports (set : Settings) (S : List SourceFile → List SourceFile → Prop) (schema : Schema)
    (r r' : Report) : Prop :=
  ∃ l l' deleted written written', S l l' ∧ written.map Written.path = written'.map Written.path ∧
    r = set.report schema deleted l written none ∧ r' = set.report schema deleted l' written' none

/-- Two runs up to the writing of their files. -/
theorem Couples.emitted (h : set.Couples host R R' S) (schema : Schema) :
    Coupled host R (Matches fun x x' => set.Reports S schema x.2 x'.2) (set.emitted schema).run
      (set.emitted schema).run := by
  rw [Settings.emitted]
  refine h.clean.attempt_bind fun deleted _ heq => ?_
  cases heq
  refine h.scan.attempt_bind fun l l' hl => ?_
  refine (coupled_writeAll ?_).attempt_bind fun written written' hpaths => ?_
  · have hkeys := h.generated l l' hl schema
    refine List.forall₂_iff_get.2 ⟨hkeys.length_eq, fun i hi hi' => ?_⟩
    have hentry := List.Forall₂.get hkeys hi hi'
    obtain ⟨x, hx, hpath⟩ :=
      set.exists_name_of_mem_generatedFiles schema _ _ (List.get_mem _ ⟨i, hi⟩)
    rw [← hentry.1, hpath]
    exact h.write x hx _ _ (hpath ▸ hentry.2)
  · exact .pure (.ok ⟨l, l', deleted, written, written', hl, hpaths, rfl, rfl⟩)

/-- How two runs end: they fail alike, they report what is related, or it is up to the compiler
whether they do. -/
inductive Outcomes (set : Settings) (dry : Bool) (Q : Report → Report → Prop) :
    Except RunError Report → Except RunError Report → Prop
  | failed (e : RunError) : Outcomes set dry Q (.error e) (.error e)
  | reported {r r' : Report} (h : Q r r') (plain : (set.mode.needsArtifact && !dry) = false) :
    Outcomes set dry Q (.ok r) (.ok r')
  | compiled {r r' : Report} (h : Q r r') (asked : (set.mode.needsArtifact && !dry) = true)
    (answer answer' : Except CompileError Artifact) :
    Outcomes set dry Q (finished r answer) (finished r' answer')

theorem Outcomes.mono {Q Q' : Report → Report → Prop} {a b : Except RunError Report}
    (h : set.Outcomes dry Q a b) (himp : ∀ r r', Q r r' → Q' r r') : set.Outcomes dry Q' a b := by
  cases h with
  | failed e => exact .failed e
  | reported h plain => exact .reported (himp _ _ h) plain
  | compiled h asked => exact .compiled (himp _ _ h) asked _ _

/-- How two runs end that have their directory. -/
theorem Couples.outcomes_guarded (h : set.Couples host R R' S) {s s' : σ} (hR : R s s')
    {guard : Guard} (hguard : set.GivesBack host R R' guard) :
    let run := (set.generateGuarded schema dry guard).execute host s
    let run' := (set.generateGuarded schema dry guard).execute host s'
    set.Outcomes dry (set.Reports S schema) run.result run'.result ∧
      R' run.state run'.state := by
  intro run run'
  obtain ⟨hresults, hstates⟩ := h.emitted schema s s' hR
  simp only [run, run', execute_generateGuarded, run_generateLocked, execute_bind]
  generalize (set.emitted schema).run.execute host s = e at hresults hstates
  generalize (set.emitted schema).run.execute host s' = e' at hresults hstates
  obtain ⟨result, t, calls⟩ := e
  obtain ⟨result', t', calls'⟩ := e'
  obtain ⟨hback, hcompiled⟩ := hguard t t' hstates
  cases hresults with
  | failed x => exact ⟨.failed x, hback⟩
  | @ok a b hreports =>
    obtain ⟨sources, r⟩ := a
    obtain ⟨sources', r'⟩ := b
    have hartifact : { r with artifact := none } = r ∧ { r' with artifact := none } = r' := by
      obtain ⟨_, _, _, _, _, -, -, rfl, rfl⟩ : set.Reports S schema r r' := hreports
      exact ⟨rfl, rfl⟩
    dsimp only
    cases hasked : set.mode.needsArtifact && !dry with
    | true => exact ⟨.compiled hreports hasked _ _, hcompiled _ _ _⟩
    | false =>
      rw [if_neg Bool.false_ne_true, if_neg Bool.false_ne_true, hartifact.1, hartifact.2]
      exact ⟨.reported hreports hasked, hback⟩

/-- How two runs end that start from related states. -/
theorem Couples.outcomes_generate (h : set.Couples host R R' S)
    (input : Except SchemaFailure Schema) {s s' : σ} (hR : R s s') :
    let run := (set.generate input dry).execute host s
    let run' := (set.generate input dry).execute host s'
    set.Outcomes dry (fun r r' => ∃ schema, input = .ok schema ∧ set.Reports S schema r r') run.result
        run'.result ∧
      R' run.state run'.state := by
  intro run run'
  cases hmode : set.mode.isEnabled with
  | false =>
    simp only [run, run', generate, hmode, Bool.not_false, if_true]
    exact ⟨.failed _, h.final s s' hR⟩
  | true =>
    cases input with
    | error e =>
      simp only [run, run', generate, hmode, Bool.not_true, if_neg Bool.false_ne_true]
      exact ⟨.failed _, h.final s s' hR⟩
    | ok schema =>
      obtain ⟨hcreated, hR₁⟩ := coupled_ask_iff.1 h.createDir s s' hR
      simp only [run, run', execute_generate hmode rfl]
      generalize host.answer (.createDir set.modelsDir) s = created at hcreated hR₁
      generalize host.answer (.createDir set.modelsDir) s' = created' at hcreated hR₁
      obtain ⟨answer, s₁⟩ := created
      obtain ⟨answer', s₁'⟩ := created'
      cases hcreated with
      | failed e => exact ⟨.failed _, h.final _ _ hR₁⟩
      | ok =>
        obtain ⟨hlocked, hR₂⟩ := coupled_ask_iff.1 h.lock _ _ hR₁
        dsimp only
        generalize host.answer (.lock set.modelsDir) s₁ = locked at hlocked hR₂
        generalize host.answer (.lock set.modelsDir) s₁' = locked' at hlocked hR₂
        obtain ⟨answer, s₂⟩ := locked
        obtain ⟨answer', s₂'⟩ := locked'
        cases hlocked with
        | failed e => exact ⟨.failed _, h.final _ _ hR₂⟩
        | ok hguard =>
          obtain ⟨rfl, hguard⟩ := hguard
          obtain ⟨hresults, hstates⟩ := h.outcomes_guarded hR₂ hguard
          exact ⟨hresults.mono fun r r' hreports => ⟨schema, rfl, hreports⟩, hstates⟩

end Settings

end ContentModels
