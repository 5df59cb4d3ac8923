import ContentModels.Run.Generate

/-!
# Transcripts of programs

What a program can do is seen from outside as a list of exchanges, each a call with its answer.
Which answers can come is left open but for a contract that says which exchanges there are; every
run on a host that keeps the contract has such a transcript.

## Main definitions

* `Exchange` — a call with its answer.
* `Program.Yields` — the transcripts of a program with their results.
* `Program.Only` — programs that are restricted to some calls.
* `Program.transcript` — the transcript of a run on a host.

## Main statements

* `Program.yields_bind_iff` — the transcripts of one program after another.
* `Program.yields_execute` — a run yields its transcript and its result.
* `Program.state_execute_of_only` — calls that change nothing make a run that changes nothing.
* `yields_attempt_bind_iff` — the transcripts of a program that may fail before another one.
-/

namespace ContentModels

/-- A call with its answer. -/
structure Exchange where
  call : Call
  answer : call.Answer

namespace Program

variable {α β σ : Type} {contract : Exchange → Prop}

/-- A program can make these exchanges and end with this result, as far as the contract for answers
says. -/
inductive Yields (contract : Exchange → Prop) : Program α → List Exchange → α → Prop
  | done (result : α) : Yields contract (.done result) [] result
  | call {c : Call} {next : c.Answer → Program α} {l : List Exchange} {result : α}
      (answer : c.Answer) (kept : contract ⟨c, answer⟩)
      (rest : Yields contract (next answer) l result) :
      Yields contract (.call c next) (⟨c, answer⟩ :: l) result

/-! ## Transcripts of composed programs -/

@[simp] theorem yields_pure_iff {a r : α} {l : List Exchange} :
    Yields contract (pure a) l r ↔ l = [] ∧ r = a := by
  constructor
  · rintro ⟨⟩
    exact ⟨rfl, rfl⟩
  · rintro ⟨rfl, rfl⟩
    exact .done r

/-- The transcripts of a program that goes on with the answer to a call. -/
theorem yields_ask_bind_iff {c : Call} {next : c.Answer → Program α} {l : List Exchange} {r : α} :
    Yields contract (ask c >>= next) l r ↔
      ∃ answer m, contract ⟨c, answer⟩ ∧ Yields contract (next answer) m r ∧
        l = ⟨c, answer⟩ :: m := by
  constructor
  · intro h
    cases h with
    | call answer kept rest => exact ⟨answer, _, kept, rest, rfl⟩
  · rintro ⟨answer, m, kept, rest, rfl⟩
    exact .call answer kept rest

theorem yields_ask_iff {c : Call} {l : List Exchange} {answer : c.Answer} :
    Yields contract (ask c) l answer ↔ contract ⟨c, answer⟩ ∧ l = [⟨c, answer⟩] := by
  constructor
  · intro h
    cases h with
    | call _ kept rest =>
      cases rest
      exact ⟨kept, rfl⟩
  · rintro ⟨kept, rfl⟩
    exact .call answer kept (.done answer)

/-- The transcripts of one program after another. -/
theorem yields_bind_iff {p : Program α} {f : α → Program β} {l : List Exchange} {r : β} :
    Yields contract (p >>= f) l r ↔
      ∃ a m n, Yields contract p m a ∧ Yields contract (f a) n r ∧ l = m ++ n := by
  constructor
  · intro h
    induction p generalizing l with
    | done a => exact ⟨a, [], l, .done a, h, rfl⟩
    | call c next ih =>
      cases h with
      | call answer kept rest =>
        obtain ⟨a, m, n, hm, hn, rfl⟩ := ih answer rest
        exact ⟨a, _, n, .call answer kept hm, hn, rfl⟩
  · rintro ⟨a, m, n, hm, hn, rfl⟩
    induction hm with
    | done => exact hn
    | call answer kept _ ih => exact .call answer kept (ih hn)

/-! ## Programs that are restricted to some calls -/

/-- A program makes no other calls than these, as far as the contract for answers says. -/
def Only (contract : Exchange → Prop) (allowed : Call → Prop) : Program α → Prop
  | .done _ => True
  | .call c next => allowed c ∧ ∀ answer, contract ⟨c, answer⟩ → (next answer).Only contract allowed

section Only

variable {allowed : Call → Prop}

theorem Only.pure (a : α) : Only contract allowed (pure a) := trivial

theorem Only.ask_bind {c : Call} {next : c.Answer → Program α} (hc : allowed c)
    (h : ∀ answer, contract ⟨c, answer⟩ → (next answer).Only contract allowed) :
    (ask c >>= next).Only contract allowed := ⟨hc, h⟩

theorem Only.bind {p : Program α} {f : α → Program β} (hp : p.Only contract allowed)
    (hf : ∀ a, (f a).Only contract allowed) : (p >>= f).Only contract allowed := by
  induction p with
  | done a => exact hf a
  | call c next ih => exact ⟨hp.1, fun answer kept => ih answer (hp.2 answer kept)⟩

theorem Only.mono {allowed' : Call → Prop} {p : Program α} (h : p.Only contract allowed)
    (himp : ∀ c, allowed c → allowed' c) : p.Only contract allowed' := by
  induction p with
  | done a => exact h
  | call c next ih => exact ⟨himp c h.1, fun answer kept => ih answer (h.2 answer kept)⟩

/-- A program that is restricted as far as one contract says is so as far as a stricter one does. -/
theorem Only.of_stricter {contract' : Exchange → Prop} {p : Program α} (h : p.Only contract allowed)
    (himp : ∀ x, contract' x → contract x) : p.Only contract' allowed := by
  induction p with
  | done a => exact h
  | call c next ih => exact ⟨h.1, fun answer kept => ih answer (h.2 answer (himp _ kept))⟩

/-- The exchanges of a restricted program are restricted. -/
theorem Only.of_yields {p : Program α} {l : List Exchange} {r : α}
    (h : p.Only contract allowed) (hl : Yields contract p l r) : ∀ x ∈ l, allowed x.call := by
  induction hl with
  | done => simp
  | call answer kept _ ih =>
    intro x hx
    rcases List.mem_cons.1 hx with rfl | hmem
    · exact h.1
    · exact ih (h.2 answer kept) x hmem

end Only

/-! ## Runs on hosts -/

/-- The transcript of a run on a host. -/
def transcript (host : Host σ) : Program α → σ → List Exchange
  | .done _, _ => []
  | .call c next, state =>
    ⟨c, (host.answer c state).1⟩ ::
      (next (host.answer c state).1).transcript host (host.answer c state).2

/-- The calls of a run are those of its transcript. -/
theorem map_call_transcript (host : Host σ) (p : Program α) (state : σ) :
    (p.transcript host state).map Exchange.call = (p.execute host state).calls := by
  induction p generalizing state with
  | done a => rfl
  | call c next ih => simp [transcript, execute, ih]

/-- A run on a host that keeps the contract yields its transcript and its result. -/
theorem yields_execute {host : Host σ} (kept : ∀ c state, contract ⟨c, (host.answer c state).1⟩)
    (p : Program α) (state : σ) :
    Yields contract p (p.transcript host state) (p.execute host state).result := by
  induction p generalizing state with
  | done a => exact .done a
  | call c next ih => exact .call _ (kept c state) (ih _ _)

/-- The calls of a run of a restricted program are restricted. -/
theorem Only.of_mem_calls {allowed : Call → Prop} {host : Host σ} {p : Program α} {state : σ}
    (h : p.Only contract allowed) (kept : ∀ c state, contract ⟨c, (host.answer c state).1⟩)
    {c : Call}
    (hc : c ∈ (p.execute host state).calls) : allowed c := by
  rw [← map_call_transcript] at hc
  obtain ⟨x, hx, rfl⟩ := List.mem_map.1 hc
  exact h.of_yields (yields_execute kept p state) x hx

/-- What is kept by the calls that a program is restricted to is kept by the program. -/
theorem execute_induct_of_only {R : σ → σ → Prop} (refl : ∀ s, R s s)
    (trans : ∀ s t u, R s t → R t u → R s u) {allowed : Call → Prop} {host : Host σ}
    (step : ∀ c state, allowed c → R state (host.answer c state).2) {p : Program α}
    (h : p.Only (fun _ => True) allowed) (state : σ) : R state (p.execute host state).state := by
  induction p generalizing state with
  | done a => exact refl state
  | call c next ih =>
    exact trans _ _ _ (step c state h.1) (ih (host.answer c state).1 (h.2 _ trivial) _)

/-- A program that is restricted to calls which change nothing changes nothing. -/
theorem state_execute_of_only {allowed : Call → Prop} {host : Host σ}
    (same : ∀ c state, allowed c → (host.answer c state).2 = state) {p : Program α}
    (h : p.Only (fun _ => True) allowed) (state : σ) : (p.execute host state).state = state :=
  execute_induct_of_only (R := fun s t => t = s) (fun _ => rfl) (fun _ _ _ hst htu => htu.trans hst)
    same h state

end Program

/-! ## Programs that may fail -/

section Attempts

open Program

variable {α β ε : Type} {contract : Exchange → Prop}

theorem yields_run_attempt_iff {during : ε → RunError} {p : Program (Except ε α)}
    {l : List Exchange} {r : Except RunError α} :
    Yields contract (attempt during p).run l r ↔
      ∃ a, Yields contract p l a ∧ r = a.mapError during := by
  rw [attempt, ExceptT.run_mk, yields_bind_iff]
  constructor
  · rintro ⟨a, m, n, hm, hn, rfl⟩
    refine ⟨a, ?_⟩
    cases a <;>
    · obtain ⟨rfl, rfl⟩ := yields_pure_iff.1 hn
      exact ⟨by simpa using hm, rfl⟩
  · rintro ⟨a, ha, rfl⟩
    refine ⟨a, l, [], ha, ?_, by simp⟩
    cases a <;> exact yields_pure_iff.2 ⟨rfl, rfl⟩

theorem Program.Only.run_bind {allowed : Call → Prop} {p : Attempt α} {f : α → Attempt β}
    (hp : p.run.Only contract allowed) (hf : ∀ a, (f a).run.Only contract allowed) :
    (p >>= f).run.Only contract allowed := by
  rw [ExceptT.run_bind]
  refine hp.bind fun a => ?_
  cases a with
  | error e => exact .pure _
  | ok a => exact hf a

theorem Program.Only.attempt_bind {allowed : Call → Prop} {during : ε → RunError}
    {p : Program (Except ε α)} {f : α → Attempt β} (hp : p.Only contract allowed)
    (hf : ∀ a, (f a).run.Only contract allowed) :
    (attempt during p >>= f).run.Only contract allowed := by
  refine .run_bind ?_ hf
  rw [attempt, ExceptT.run_mk]
  refine hp.bind fun a => ?_
  cases a <;> exact .pure _

theorem yields_run_bind_iff {p : Attempt α} {f : α → Attempt β} {l : List Exchange}
    {r : Except RunError β} :
    Yields contract (p >>= f).run l r ↔
      (∃ e, Yields contract p.run l (.error e) ∧ r = .error e) ∨
        ∃ a m n, Yields contract p.run m (.ok a) ∧ Yields contract (f a).run n r ∧
          l = m ++ n := by
  rw [ExceptT.run_bind, yields_bind_iff]
  constructor
  · rintro ⟨a | a, m, n, hm, hn, rfl⟩
    · obtain ⟨rfl, rfl⟩ := yields_pure_iff.1 hn
      exact .inl ⟨a, by simpa using hm, rfl⟩
    · exact .inr ⟨a, m, n, hm, hn, rfl⟩
  · rintro (⟨e, he, rfl⟩ | ⟨a, m, n, hm, hn, rfl⟩)
    · exact ⟨.error e, l, [], he, yields_pure_iff.2 ⟨rfl, rfl⟩, by simp⟩
    · exact ⟨.ok a, m, n, hm, hn, rfl⟩

/-- A program that may fail ends the run, or the run goes on with what it gives. -/
theorem yields_attempt_bind_iff {during : ε → RunError} {p : Program (Except ε α)}
    {f : α → Attempt β} {l : List Exchange} {r : Except RunError β} :
    Yields contract (attempt during p >>= f).run l r ↔
      (∃ e, Yields contract p l (.error e) ∧ r = .error (during e)) ∨
        ∃ a m n, Yields contract p m (.ok a) ∧ Yields contract (f a).run n r ∧ l = m ++ n := by
  rw [yields_run_bind_iff]
  simp only [yields_run_attempt_iff]
  constructor
  · rintro (⟨e, ⟨a | a, ha, he⟩, rfl⟩ | ⟨a, m, n, ⟨b | b, hb, hm⟩, hn, rfl⟩)
    · exact .inl ⟨a, ha, by cases he; rfl⟩
    · cases he
    · cases hm
    · cases hm
      exact .inr ⟨_, m, n, hb, hn, rfl⟩
  · rintro (⟨e, he, rfl⟩ | ⟨a, m, n, hm, hn, rfl⟩)
    · exact .inl ⟨_, ⟨_, he, rfl⟩, rfl⟩
    · exact .inr ⟨a, m, n, ⟨_, hm, rfl⟩, hn, rfl⟩

end Attempts

end ContentModels
