import ContentModels.Command.Run

/-!
# Steps of commands

A command is followed step by step, from the desk that it starts from to the one that it leaves. A
step that fails ends the command, and leaves the desk as it is then.

## Main definitions

* `Action.Leads` — a step leads from a desk to a result and a desk.
* `Action.Keeps` — a step leaves the disk alone.

## Main statements

* `Action.leads_bind_iff` — one step after another.
* `Action.leads_perform_iff` — a program that is performed on the disk.
-/

namespace ContentModels.Action

variable {α β ε : Type} {a : Action α} {s t : Desk}

/-- A step leads from a desk to a result and a desk. -/
def Leads (a : Action α) (s : Desk) (r : Except CommandError α) (t : Desk) : Prop :=
  a.run.run s = (r, t)

/-- A step leaves the disk alone. -/
def Keeps (a : Action α) : Prop := ∀ s r t, a.Leads s r t → t.disk = s.disk

/-! ## What steps lead to -/

theorem leads_pure_iff {x : α} {r : Except CommandError α} :
    (pure x : Action α).Leads s r t ↔ r = .ok x ∧ t = s := by
  rw [Leads, Prod.ext_iff]
  exact and_congr eq_comm eq_comm

theorem leads_throw_iff {e : CommandError} {r : Except CommandError α} :
    (throw e : Action α).Leads s r t ↔ r = .error e ∧ t = s := by
  rw [Leads, Prod.ext_iff]
  exact and_congr eq_comm eq_comm

/-- One step after another. -/
theorem leads_bind_iff {f : α → Action β} {r : Except CommandError β} :
    (a >>= f).Leads s r t ↔ (∃ e, r = .error e ∧ a.Leads s (.error e) t) ∨
      ∃ x m, a.Leads s (.ok x) m ∧ (f x).Leads m r t := by
  have hrun : (a >>= f).run.run s = match a.run.run s with
      | (.error e, m) => (.error e, m)
      | (.ok x, m) => (f x).run.run m := by
    rw [ExceptT.run_bind, StateT.run_bind]
    generalize a.run.run s = p
    rcases p with ⟨_ | _, _⟩ <;> rfl
  rw [Leads, hrun]
  constructor
  · intro h
    split at h
    · next e m heq =>
      obtain ⟨rfl, rfl⟩ := Prod.ext_iff.1 h
      exact .inl ⟨e, rfl, heq⟩
    · next x m heq => exact .inr ⟨x, m, heq, h⟩
  · rintro (⟨e, rfl, ha⟩ | ⟨x, m, ha, hf⟩)
    · rw [show a.run.run s = _ from ha]
    · rw [show a.run.run s = _ from ha]
      exact hf

theorem leads_print_iff {lines : List String} {r : Except CommandError Unit} :
    (print lines).Leads s r t ↔ r = .ok () ∧ t = { s with printed := s.printed ++ lines } := by
  rw [Leads, Prod.ext_iff]
  exact and_congr eq_comm eq_comm

theorem leads_tree_iff {r : Except CommandError FileTree} :
    tree.Leads s r t ↔ r = .ok s.disk.tree ∧ t = s := by
  rw [Leads, Prod.ext_iff]
  exact and_congr eq_comm eq_comm

theorem leads_setTree_iff {files : FileTree} {r : Except CommandError Unit} :
    (setTree files).Leads s r t ↔
      r = .ok () ∧ t = { s with disk := { s.disk with tree := files } } := by
  rw [Leads, Prod.ext_iff]
  exact and_congr eq_comm eq_comm

theorem leads_orFail_iff {error : ε → CommandError} {x : Except ε α} {r : Except CommandError α} :
    (orFail error x).Leads s r t ↔ r = x.mapError error ∧ t = s := by
  cases x with
  | ok value => exact leads_pure_iff
  | error e => exact leads_throw_iff

/-- A program that is performed on the disk. -/
theorem leads_perform_iff {p : Program α} {dry : Bool} {tools : Toolchain}
    {r : Except CommandError α} : (perform p dry tools).Leads s r t ↔
      r = .ok (p.execute (Disk.host dry tools) s.disk).result ∧
        t = { s with disk := (p.execute (Disk.host dry tools) s.disk).state } := by
  rw [Leads, Prod.ext_iff]
  exact and_congr eq_comm eq_comm

/-! ## Steps that leave the disk alone -/

theorem Keeps.pure (x : α) : (Pure.pure x : Action α).Keeps := by
  intro s r t h
  rw [(leads_pure_iff.1 h).2]

/-- After a step that leaves the disk alone the next one starts from the same disk, if there is
one. -/
theorem Keeps.leads_bind {f : α → Action β} {r : Except CommandError β} (ha : a.Keeps)
    (h : (a >>= f).Leads s r t) :
    t.disk = s.disk ∨ ∃ x m, a.Leads s (.ok x) m ∧ m.disk = s.disk ∧ (f x).Leads m r t := by
  rcases leads_bind_iff.1 h with ⟨e, -, h⟩ | ⟨x, m, hm, h⟩
  · exact .inl (ha _ _ _ h)
  · exact .inr ⟨x, m, hm, ha _ _ _ hm, h⟩

theorem Keeps.bind {f : α → Action β} (ha : a.Keeps) (hf : ∀ x, (f x).Keeps) :
    (a >>= f).Keeps := by
  intro s r t h
  rcases ha.leads_bind h with hkept | ⟨x, m, -, hm, h⟩
  · exact hkept
  · exact (hf x _ _ _ h).trans hm

theorem keeps_tryCatch {handle : CommandError → Action α} (ha : a.Keeps)
    (hhandle : ∀ e, (handle e).Keeps) : (tryCatch a handle).Keeps := by
  intro s r t h
  have hrun : (tryCatch a handle).run.run s = match a.run.run s with
      | (.error e, m) => (handle e).run.run m
      | (.ok x, m) => (.ok x, m) := by
    rw [ExceptT.run_tryCatch, StateT.run_bind]
    generalize a.run.run s = p
    rcases p with ⟨_ | _, _⟩ <;> rfl
  rw [Leads, hrun] at h
  split at h
  · next e m heq => exact (hhandle e _ _ _ h).trans (ha _ _ _ heq)
  · next x m heq =>
    obtain ⟨-, rfl⟩ := Prod.ext_iff.1 h
    exact ha _ _ _ heq

theorem keeps_throw (e : CommandError) : (throw e : Action α).Keeps := by
  intro s r t h
  rw [(leads_throw_iff.1 h).2]

theorem keeps_print (lines : List String) : (print lines).Keeps := by
  intro s r t h
  rw [(leads_print_iff.1 h).2]

theorem keeps_tree : tree.Keeps := by
  intro s r t h
  rw [(leads_tree_iff.1 h).2]

theorem keeps_orFail (error : ε → CommandError) (x : Except ε α) : (orFail error x).Keeps := by
  intro s r t h
  rw [(leads_orFail_iff.1 h).2]

theorem keeps_loadConfig (o : Overrides) (file : Option Path) : (loadConfig o file).Keeps := by
  refine keeps_tree.bind fun files => (keeps_orFail _ _).bind fun config => ?_
  exact (keeps_orFail _ _).bind fun _ => .pure _

theorem eq_ok_of_mapError {error : ε → CommandError} {x : Except ε α} {value : α}
    (h : .ok value = x.mapError error) : x = .ok value := by
  cases x with
  | error e => cases h
  | ok value' => rw [Except.ok.inj h]

/-- The configuration that a command works with. -/
theorem load_of_leads_loadConfig {o : Overrides} {file : Option Path} {c : Config}
    (h : (loadConfig o file).Leads s (.ok c) t) : ∃ base,
    Config.load s.disk.tree (file.getD ⟨Config.fileName⟩) = .ok base ∧ c = base.override o := by
  rcases leads_bind_iff.1 h with ⟨e, he, -⟩ | ⟨files, m, htree, hrest⟩
  · cases he
  obtain ⟨hfiles, rfl⟩ := leads_tree_iff.1 htree
  obtain rfl := Except.ok.inj hfiles
  rcases leads_bind_iff.1 hrest with ⟨e, he, -⟩ | ⟨base, m, hload, hcheck⟩
  · cases he
  obtain ⟨hbase, rfl⟩ := leads_orFail_iff.1 hload
  rcases leads_bind_iff.1 hcheck with ⟨e, he, -⟩ | ⟨_, m, -, hdone⟩
  · cases he
  exact ⟨base, eq_ok_of_mapError hbase, Except.ok.inj (leads_pure_iff.1 hdone).1⟩

end ContentModels.Action
