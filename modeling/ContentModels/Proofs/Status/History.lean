import ContentModels.Run.Generate
import Mathlib.Data.List.Induction

/-!
# What a status tells of the past

A status hears of every run when it ends, and of every change of the schema. What it remembers is
given by the last run and by the marks after the last one that succeeded, however long ago anything
else happened.

## Main definitions

* `Occasion` — what a status hears of.
* `Status.after` — the status after all that happened.
* `lastResult?`, `IsStale` — what the past comes to, without the status.
* `Status.Remembers` — a status remembers that.

## Main statements

* `errorSummary_eq` — the summary of a run with errors, line by line.
* `Status.remembers_after` — the status after any history.
-/

namespace ContentModels

/-- A run, with the host that it is performed on and the state in which it finds it. -/
structure Performance (σ : Type) where
  settings : Settings
  schema : Except SchemaFailure Schema
  dry : Bool
  host : Host σ
  state : σ

/-- How the run ends. -/
def Performance.result {σ : Type} (p : Performance σ) : Except RunError Report :=
  ((p.settings.generate p.schema p.dry).execute p.host p.state).result

/-- Something that a status hears of. -/
inductive Occasion (σ : Type) where
  | run (p : Performance σ)
  /-- The schema changes. -/
  | mark

variable {σ : Type}

namespace Occasion

/-- How a run ends. -/
def result? : Occasion σ → Option (Except RunError Report)
  | run p => some p.result
  | mark => none

def isSuccess (o : Occasion σ) : Bool := o.result?.any Except.toBool

end Occasion

/-- A status hears of something. -/
def Status.hear (s : Status) : Occasion σ → Status
  | .run p => s.afterRun p.result
  | .mark => s.mark

/-- The status after all that happened. -/
def Status.after (past : List (Occasion σ)) : Status := past.foldl Status.hear {}

/-- How the last run ended. -/
def lastResult? (past : List (Occasion σ)) : Option (Except RunError Report) :=
  (past.filterMap Occasion.result?).getLast?

/-- The schema changed after the last run that succeeded, if there was one. -/
def IsStale (past : List (Occasion σ)) : Prop :=
  ∃ before since, past = before ++ Occasion.mark :: since ∧ ∀ o ∈ since, o.isSuccess = false

/-- What is told of the way a run ended. -/
def told : Except RunError Report → Option String
  | .error e => some e.message
  | .ok report =>
    let errors := report.diagnostics.filter Diagnostic.isError
    if errors = [] then none
    else some ("\n".intercalate
      (s!"Models generated with {errors.length} error(s):" :: errors.map Diagnostic.text))

/-- The summary has a line that counts the errors, and then one line for each. -/
theorem errorSummary_eq (report : Report) :
    errorSummary report.diagnostics = told (.ok report) := by
  simp only [errorSummary, told, List.isEmpty_iff]
  split
  · rfl
  next hne =>
  have hbreak : toString " error(s):\n" = toString " error(s):" ++ "\n" := by decide
  rw [String.intercalate_cons_of_ne_nil (by simpa using hne)]
  simp [hbreak, String.append_assoc]

theorem Status.afterRun_lastError (s : Status) (result : Except RunError Report) :
    (s.afterRun result).lastError = told result := by
  cases result with
  | error e => rfl
  | ok report => exact errorSummary_eq report

/-- A run makes up for marks if it succeeds, and leaves them alone if it fails. -/
theorem Status.afterRun_outOfDate (s : Status) (result : Except RunError Report) :
    (s.afterRun result).outOfDate = (s.outOfDate && !result.toBool) := by
  cases result <;> simp [Status.afterRun, Status.succeed, Status.fail, Except.toBool]

theorem lastResult?_concat (past : List (Occasion σ)) (o : Occasion σ) :
    lastResult? (past ++ [o]) = o.result?.or (lastResult? past) := by
  cases o <;> simp [lastResult?, Occasion.result?]

/-- What makes the past stale is a mark, or nothing that happens after it was stale but a
success. -/
theorem isStale_concat (past : List (Occasion σ)) (o : Occasion σ) :
    IsStale (past ++ [o]) ↔ o = .mark ∨ IsStale past ∧ o.isSuccess = false := by
  constructor
  · rintro ⟨before, since, heq, hsince⟩
    rcases List.eq_nil_or_concat since with rfl | ⟨since, last, rfl⟩
    · obtain ⟨-, hlast⟩ := List.append_inj' heq rfl
      exact .inl (List.singleton_inj.1 hlast)
    · rw [List.concat_eq_append] at hsince heq
      rw [← List.cons_append, ← List.append_assoc] at heq
      obtain ⟨hpast, hlast⟩ := List.append_inj' heq rfl
      obtain rfl := List.singleton_inj.1 hlast
      exact .inr ⟨⟨before, since, hpast, fun p hp => hsince p (by simp [hp])⟩, hsince o (by simp)⟩
  · rintro (rfl | ⟨⟨before, since, rfl, hsince⟩, ho⟩)
    · exact ⟨past, [], rfl, by simp⟩
    · refine ⟨before, since ++ [o], by simp, fun p hp => ?_⟩
      rcases List.mem_append.1 hp with hp | hp
      · exact hsince p hp
      · rwa [List.mem_singleton.1 hp]

/-- A status remembers the past: whether it is stale, and what is told of the last run. -/
structure Status.Remembers (s : Status) (past : List (Occasion σ)) : Prop where
  outOfDate : s.outOfDate = true ↔ IsStale past
  lastError : s.lastError = (lastResult? past).bind told

theorem Status.Remembers.hear {s : Status} {past : List (Occasion σ)} (h : s.Remembers past)
    (o : Occasion σ) : (s.hear o).Remembers (past ++ [o]) := by
  constructor
  case outOfDate =>
    rw [isStale_concat, ← h.outOfDate]
    cases o with
    | mark => simp [Status.hear, Status.mark]
    | run p =>
      rw [Status.hear, Status.afterRun_outOfDate]
      simp [Occasion.isSuccess, Occasion.result?]
  case lastError =>
    rw [lastResult?_concat]
    cases o with
    | mark => exact h.lastError
    | run p => exact Status.afterRun_lastError s p.result

/-- After any history of runs and marks the status remembers all of it that counts. -/
theorem Status.remembers_after (past : List (Occasion σ)) : (Status.after past).Remembers past := by
  induction past using List.reverseRecOn with
  | nil => exact ⟨by simp [Status.after, IsStale], rfl⟩
  | append_singleton past o ih =>
    have hafter : Status.after (past ++ [o]) = (Status.after past).hear o := by
      simp [Status.after]
    exact hafter ▸ ih.hear o

end ContentModels
