import ContentModels.Proofs.Sorted.Map
import ContentModels.Run.Generate

/-!
# Runs that succeed

A run that succeeds goes through all of its steps, and each of them succeeds. So it can be followed
step by step, from the state in which it starts to the one in which it ends.

## Main definitions

* `Program.Runs` — a program leads from a state to a result and a state.
* `Report.Agrees` — two runs report the same of what they generate.
* `Settings.report` — what a run reports, given what its steps give.

## Main statements

* `Program.runs_bind_iff` — one program after another.
* `runs_deleteAll_cons_ok_iff`, `runs_writeAll_cons_ok_iff`, `runs_readSources_cons_ok_iff` — one
  file after another.
* `Settings.runs_generate_ok_iff`, `Settings.runs_generateLocked_ok_iff` — the steps of a run that
  succeeds.
* `Program.execute_induct` — what every call keeps is kept by a run.
-/

namespace ContentModels

namespace Program

variable {α β σ : Type} {host : Host σ} {s t : σ}

/-- A program on a host leads from a state to a result and a state. -/
def Runs (host : Host σ) (p : Program α) (s : σ) (a : α) (t : σ) : Prop :=
  (p.execute host s).result = a ∧ (p.execute host s).state = t

theorem runs_execute (host : Host σ) (p : Program α) (s : σ) :
    p.Runs host s (p.execute host s).result (p.execute host s).state := ⟨rfl, rfl⟩

/-- A program leads to one result and one state. -/
theorem Runs.unique {p : Program α} {a b : α} {u : σ} (h : p.Runs host s a t)
    (h' : p.Runs host s b u) : a = b ∧ t = u :=
  ⟨h.1.symm.trans h'.1, h.2.symm.trans h'.2⟩

theorem runs_pure_iff {a b : α} : (pure a : Program α).Runs host s b t ↔ b = a ∧ t = s := by
  constructor
  · rintro ⟨rfl, rfl⟩
    exact ⟨rfl, rfl⟩
  · rintro ⟨rfl, rfl⟩
    exact ⟨rfl, rfl⟩

theorem runs_ask_iff {c : Call} {answer : c.Answer} :
    (ask c).Runs host s answer t ↔ host.answer c s = (answer, t) := by
  rw [Prod.ext_iff]
  rfl

theorem execute_bind (host : Host σ) (p : Program α) (f : α → Program β) (s : σ) :
    (p >>= f).execute host s =
      let e := p.execute host s
      let e' := (f e.result).execute host e.state
      ⟨e'.result, e'.state, e.calls ++ e'.calls⟩ := by
  induction p generalizing s with
  | done a => rfl
  | call c next ih =>
    have hcall : (call c next >>= f) = call c fun answer => next answer >>= f := rfl
    simp only [hcall, execute, ih]
    rfl

/-- One program after another. -/
theorem runs_bind_iff {p : Program α} {f : α → Program β} {b : β} :
    (p >>= f).Runs host s b t ↔ ∃ a m, p.Runs host s a m ∧ (f a).Runs host m b t := by
  rw [Runs, execute_bind]
  constructor
  · rintro ⟨rfl, rfl⟩
    exact ⟨_, _, runs_execute host p s, rfl, rfl⟩
  · rintro ⟨_, _, ⟨rfl, rfl⟩, rfl, rfl⟩
    exact ⟨rfl, rfl⟩

/-- What the calls of a run keep is kept by the run. -/
theorem execute_induct {R : σ → σ → Prop} (refl : ∀ s, R s s)
    (trans : ∀ s t u, R s t → R t u → R s u) (p : Program α) (s : σ)
    (step : ∀ c ∈ (p.execute host s).calls, ∀ s, R s (host.answer c s).2) :
    R s (p.execute host s).state := by
  induction p generalizing s with
  | done a => exact refl s
  | call c next ih =>
    refine trans _ _ _ (step c List.mem_cons_self s) ?_
    exact ih _ _ fun d hd => step d (List.mem_cons_of_mem _ hd)

end Program

open Program

variable {α β ε σ : Type} {host : Host σ} {s t : σ}

/-! ## Programs that may fail -/

theorem runs_attempt_ok_iff {during : ε → RunError} {p : Program (Except ε α)} {a : α} :
    (attempt during p).run.Runs host s (.ok a) t ↔ p.Runs host s (.ok a) t := by
  rw [attempt, ExceptT.run_mk, runs_bind_iff]
  constructor
  · rintro ⟨b | b, m, hp, hdone⟩
    · cases (runs_pure_iff.1 hdone).1
    · obtain ⟨hb, rfl⟩ := runs_pure_iff.1 hdone
      obtain rfl := Except.ok.inj hb
      exact hp
  · exact fun hp => ⟨.ok a, t, hp, runs_pure_iff.2 ⟨rfl, rfl⟩⟩

theorem runs_bind_ok_iff {p : Attempt α} {f : α → Attempt β} {b : β} :
    (p >>= f).run.Runs host s (.ok b) t ↔
      ∃ a m, p.run.Runs host s (.ok a) m ∧ (f a).run.Runs host m (.ok b) t := by
  rw [ExceptT.run_bind, runs_bind_iff]
  constructor
  · rintro ⟨a | a, m, hp, hf⟩
    · cases (runs_pure_iff.1 hf).1
    · exact ⟨a, m, hp, hf⟩
  · rintro ⟨a, m, hp, hf⟩
    exact ⟨.ok a, m, hp, hf⟩

/-! ## Programs that make one call for each file -/

section Calls

variable {file : Path} {rest : List Path}

theorem runs_deleteAll_cons_ok_iff {deleted : List Path} :
    (deleteAll (file :: rest)).Runs host s (.ok deleted) t ↔ ∃ gone m more,
      host.answer (.delete file) s = (.ok gone, m) ∧ (deleteAll rest).Runs host m (.ok more) t ∧
      deleted = if gone then file :: more else more := by
  constructor
  · intro h
    obtain ⟨answer, m, hdelete, h⟩ := runs_bind_iff.1 h
    cases answer with
    | error e => cases (runs_pure_iff.1 h).1
    | ok gone =>
      obtain ⟨result, m', hrest, h⟩ := runs_bind_iff.1 h
      obtain ⟨hresult, rfl⟩ := runs_pure_iff.1 h
      cases result with
      | error e => cases hresult
      | ok more => exact ⟨gone, m, more, runs_ask_iff.1 hdelete, hrest, Except.ok.inj hresult⟩
  · rintro ⟨gone, m, more, hdelete, hrest, rfl⟩
    refine runs_bind_iff.2 ⟨.ok gone, m, runs_ask_iff.2 hdelete, ?_⟩
    exact runs_bind_iff.2 ⟨.ok more, t, hrest, runs_pure_iff.2 ⟨rfl, rfl⟩⟩

theorem runs_writeAll_cons_ok_iff {e : Path × String} {rest : List (Path × String)}
    {written : List Written} :
    (writeAll (e :: rest)).Runs host s (.ok written) t ↔ ∃ done m more,
      host.answer (.write e.1 e.2) s = (.ok done, m) ∧ (writeAll rest).Runs host m (.ok more) t ∧
      written = done :: more := by
  constructor
  · intro h
    obtain ⟨answer, m, hwrite, h⟩ := runs_bind_iff.1 h
    cases answer with
    | error e => cases (runs_pure_iff.1 h).1
    | ok done =>
      obtain ⟨result, m', hrest, h⟩ := runs_bind_iff.1 h
      obtain ⟨hresult, rfl⟩ := runs_pure_iff.1 h
      cases result with
      | error e => cases hresult
      | ok more => exact ⟨done, m, more, runs_ask_iff.1 hwrite, hrest, Except.ok.inj hresult⟩
  · rintro ⟨done, m, more, hwrite, hrest, rfl⟩
    refine runs_bind_iff.2 ⟨.ok done, m, runs_ask_iff.2 hwrite, ?_⟩
    exact runs_bind_iff.2 ⟨.ok more, t, hrest, runs_pure_iff.2 ⟨rfl, rfl⟩⟩

/-- Generated files are left out when sources are read. -/
theorem readSources_cons_of_isGenerated (h : file.isGenerated = true) :
    readSources (file :: rest) = readSources rest := by
  rw [readSources, if_pos h]

theorem runs_readSources_cons_ok_iff (hgen : file.isGenerated = false)
    {sources : List SourceFile} :
    (readSources (file :: rest)).Runs host s (.ok sources) t ↔ ∃ text m more,
      host.answer (.read file) s = (.ok text, m) ∧ (readSources rest).Runs host m (.ok more) t ∧
      sources = ⟨file, text⟩ :: more := by
  rw [readSources, hgen, if_neg Bool.false_ne_true]
  constructor
  · intro h
    obtain ⟨answer, m, hread, h⟩ := runs_bind_iff.1 h
    cases answer with
    | error e => cases (runs_pure_iff.1 h).1
    | ok text =>
      obtain ⟨result, m', hrest, h⟩ := runs_bind_iff.1 h
      obtain ⟨hresult, rfl⟩ := runs_pure_iff.1 h
      cases result with
      | error e => cases hresult
      | ok more => exact ⟨text, m, more, runs_ask_iff.1 hread, hrest, Except.ok.inj hresult⟩
  · rintro ⟨text, m, more, hread, hrest, rfl⟩
    refine runs_bind_iff.2 ⟨.ok text, m, runs_ask_iff.2 hread, ?_⟩
    exact runs_bind_iff.2 ⟨.ok more, t, hrest, runs_pure_iff.2 ⟨rfl, rfl⟩⟩

end Calls

/-- Two reports tell the same of what is generated. -/
structure Report.Agrees (r r' : Report) : Prop where
  generated : r.generated = r'.generated
  plans : r.plans = r'.plans
  skippedTypes : r.skippedTypes = r'.skippedTypes
  diagnostics : r.diagnostics = r'.diagnostics

namespace Settings

variable {set : Settings} {schema : Schema} {dry : Bool} {r : Report}

/-- What a run reports, given what its steps give. -/
def report (set : Settings) (schema : Schema) (deleted : List Path) (sources : List SourceFile)
    (written : List Written) (artifact : Option Artifact) : Report :=
  let hand := HandCode.ofFiles sources
  let planned := schema.plan hand.1
  { deleted := deleted
    written := written
    generated := set.generatedFiles planned.plans (sources.map (·.path))
    plans := planned.plans
    skippedTypes := planned.skippedTypes
    diagnostics := hand.2.map .ofHandFile ++ planned.diagnostics
    artifact := artifact }

/-- The texts that a run generates next to hand-authored files. -/
def generatedFrom (set : Settings) (schema : Schema) (sources : List SourceFile) :
    SortedMap Path String :=
  set.generatedFiles (schema.plan (HandCode.ofFiles sources).1).plans (sources.map (·.path))

/-- Every run generates the index, at least. -/
theorem exists_mem_generatedFrom (set : Settings) (schema : Schema) (sources : List SourceFile) :
    ∃ e, e ∈ (set.generatedFrom schema sources).entries := by
  have hindex : (set.generatedFrom schema sources).get? set.indexPath ≠ none := by
    rw [generatedFrom, generatedFiles, SortedMap.get?_insert, if_pos Std.ReflOrd.compare_self]
    exact Option.some_ne_none _
  obtain ⟨text, htext⟩ := Option.ne_none_iff_exists'.1 hindex
  obtain ⟨k, hmem, -⟩ := SortedMap.get?_eq_some_iff.1 htext
  exact ⟨_, hmem⟩

/-- What runs report of what they generate is given by what they read. -/
theorem report_agrees {deleted deleted' : List Path} {sources : List SourceFile}
    {written written' : List Written} {artifact artifact' : Option Artifact} :
    (set.report schema deleted sources written artifact).Agrees
      (set.report schema deleted' sources written' artifact') := ⟨rfl, rfl, rfl, rfl⟩

/-- The steps of a run that has its directory and succeeds. -/
theorem runs_generateLocked_ok_iff :
    (set.generateLocked schema dry).run.Runs host s (.ok r) t ↔
      ∃ deleted sources written artifact s₁ s₂ s₃,
        set.clean.Runs host s (.ok deleted) s₁ ∧
        (scan set.modelsDir).Runs host s₁ (.ok sources) s₂ ∧
        (writeAll (set.generatedFrom schema sources).entries).Runs host s₂ (.ok written) s₃ ∧
        (set.compile dry (set.compileRequest sources (set.generatedFrom schema sources))).run.Runs
          host s₃ (.ok artifact) t ∧
        r = set.report schema deleted sources written artifact := by
  rw [generateLocked]
  constructor
  · intro h
    obtain ⟨deleted, s₁, hclean, h⟩ := runs_bind_ok_iff.1 h
    obtain ⟨sources, s₂, hscan, h⟩ := runs_bind_ok_iff.1 h
    obtain ⟨written, s₃, hwrite, h⟩ := runs_bind_ok_iff.1 h
    obtain ⟨artifact, s₄, hcompile, h⟩ := runs_bind_ok_iff.1 h
    obtain ⟨hreport, rfl⟩ := runs_pure_iff.1 h
    exact ⟨deleted, sources, written, artifact, s₁, s₂, s₃, runs_attempt_ok_iff.1 hclean,
      runs_attempt_ok_iff.1 hscan, runs_attempt_ok_iff.1 hwrite, hcompile,
      Except.ok.inj hreport⟩
  · rintro ⟨deleted, sources, written, artifact, s₁, s₂, s₃, hclean, hscan, hwrite, hcompile, rfl⟩
    refine runs_bind_ok_iff.2 ⟨deleted, s₁, runs_attempt_ok_iff.2 hclean, ?_⟩
    refine runs_bind_ok_iff.2 ⟨sources, s₂, runs_attempt_ok_iff.2 hscan, ?_⟩
    refine runs_bind_ok_iff.2 ⟨written, s₃, runs_attempt_ok_iff.2 hwrite, ?_⟩
    exact runs_bind_ok_iff.2 ⟨artifact, t, hcompile, runs_pure_iff.2 ⟨rfl, rfl⟩⟩

/-- The steps of a run that succeeds. -/
theorem runs_generate_ok_iff {input : Except SchemaFailure Schema} :
    (set.generate input dry).Runs host s (.ok r) t ↔
      set.mode.isEnabled = true ∧ ∃ schema, input = .ok schema ∧ ∃ guard s₁ s₂ s₃,
        host.answer (.createDir set.modelsDir) s = (.ok (), s₁) ∧
        host.answer (.lock set.modelsDir) s₁ = (.ok guard, s₂) ∧
        (set.generateLocked schema dry).run.Runs host s₂ (.ok r) s₃ ∧
        t = (host.answer (.release guard) (host.answer (.removeLockFile guard) s₃).2).2 := by
  unfold generate
  constructor
  · intro h
    split at h
    · cases (runs_pure_iff.1 h).1
    next hmode =>
    refine ⟨by simpa using hmode, ?_⟩
    cases input with
    | error e => cases (runs_pure_iff.1 h).1
    | ok schema =>
      refine ⟨schema, rfl, ?_⟩
      obtain ⟨created, s₁, hcreate, h⟩ := runs_bind_iff.1 h
      cases created with
      | error e => cases (runs_pure_iff.1 h).1
      | ok =>
        obtain ⟨locked, s₂, hlock, h⟩ := runs_bind_iff.1 h
        cases locked with
        | error e => cases (runs_pure_iff.1 h).1
        | ok guard =>
          obtain ⟨result, s₃, hrun, h⟩ := runs_bind_iff.1 h
          obtain ⟨_, s₄, hremove, h⟩ := runs_bind_iff.1 h
          obtain ⟨_, s₅, hrelease, h⟩ := runs_bind_iff.1 h
          obtain ⟨rfl, rfl⟩ := runs_pure_iff.1 h
          refine ⟨guard, s₁, s₂, s₃, runs_ask_iff.1 hcreate, runs_ask_iff.1 hlock, hrun, ?_⟩
          rw [runs_ask_iff.1 hremove, runs_ask_iff.1 hrelease]
  · rintro ⟨hmode, schema, rfl, guard, s₁, s₂, s₃, hcreate, hlock, hrun, rfl⟩
    rw [if_neg (by simp [hmode])]
    refine runs_bind_iff.2 ⟨.ok (), s₁, runs_ask_iff.2 hcreate, ?_⟩
    refine runs_bind_iff.2 ⟨.ok guard, s₂, runs_ask_iff.2 hlock, ?_⟩
    refine runs_bind_iff.2 ⟨.ok r, s₃, hrun, ?_⟩
    refine runs_bind_iff.2 ⟨(), _, runs_ask_iff.2 rfl, ?_⟩
    refine runs_bind_iff.2 ⟨(), _, runs_ask_iff.2 rfl, ?_⟩
    exact runs_pure_iff.2 ⟨rfl, rfl⟩

/-- Where a run ends, however it ends: before it has the directory, or after it gave it back. -/
theorem state_of_runs_generate {input : Except SchemaFailure Schema}
    {result : Except RunError Report}
    (h : (set.generate input dry).Runs host s result t) :
    t = s ∨ t = (host.answer (.createDir set.modelsDir) s).2 ∨
      (∃ e, host.answer (.lock set.modelsDir) (host.answer (.createDir set.modelsDir) s).2 =
        (.error e, t)) ∨
      ∃ schema guard s₂ s₃, host.answer (.lock set.modelsDir)
          (host.answer (.createDir set.modelsDir) s).2 = (.ok guard, s₂) ∧
        s₃ = ((set.generateLocked schema dry).run.execute host s₂).state ∧
        t = (host.answer (.release guard) (host.answer (.removeLockFile guard) s₃).2).2 := by
  unfold generate at h
  split at h
  · exact .inl (runs_pure_iff.1 h).2
  cases input with
  | error e => exact .inl (runs_pure_iff.1 h).2
  | ok schema =>
    right
    obtain ⟨created, s₁, hcreate, h⟩ := runs_bind_iff.1 h
    rw [runs_ask_iff.1 hcreate]
    cases created with
    | error e => exact .inl (runs_pure_iff.1 h).2
    | ok =>
      right
      obtain ⟨locked, s₂, hlock, h⟩ := runs_bind_iff.1 h
      rw [runs_ask_iff.1 hlock]
      cases locked with
      | error e => exact .inl ⟨e, by rw [(runs_pure_iff.1 h).2]⟩
      | ok guard =>
        obtain ⟨_, s₃, hrun, h⟩ := runs_bind_iff.1 h
        obtain ⟨_, s₄, hremove, h⟩ := runs_bind_iff.1 h
        obtain ⟨_, s₅, hrelease, h⟩ := runs_bind_iff.1 h
        obtain ⟨-, rfl⟩ := runs_pure_iff.1 h
        refine .inr ⟨schema, guard, s₂, s₃, rfl, hrun.2.symm, ?_⟩
        rw [runs_ask_iff.1 hremove, runs_ask_iff.1 hrelease]

end Settings

end ContentModels
