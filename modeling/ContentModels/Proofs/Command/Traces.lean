import ContentModels.Proofs.Command.Steps
import ContentModels.Proofs.Disk.Dry
import ContentModels.Proofs.Status.Persistence

/-!
# What dry commands leave behind

A dry run leaves the disk as it was, and so does a validation. The commands for them do no more, but
that a validation which finds a difference is recorded.

## Main definitions

* `Disk.RecordsDrift` — what a disk becomes when a difference is recorded.

## Main statements

* `Command.state_run_dry` — dry runs and validations, alone and as commands.
-/

namespace ContentModels

namespace Disk

/-- A difference between the models and what would be generated is found on a disk, and recorded. -/
structure RecordsDrift (d : Disk) (tools : Toolchain) (c : Config) (d' : Disk) : Prop where
  found : ∃ v, ((c.settings.validate (Schema.load d.tree c.schema)).execute
    (host true (c.toolchain tools)) d).result = .ok v ∧ v.drift ≠ []
  recorded : d' = { d with tree := Status.update d.tree c.statusFile .mark }
  /-- The file of the status is changed at most, and the directories are created that it takes. -/
  saves : FileTree.Saves c.statusFile d.tree d'.tree

end Disk

namespace Action

variable {tools : Toolchain} {c : Config}

theorem keeps_perform_generate {set : Settings} {input : Except SchemaFailure Schema} :
    (perform (set.generate input true) true tools).Keeps := by
  intro s r t h
  rw [(leads_perform_iff.1 h).2]
  exact Disk.state_generate_dry ..

theorem keeps_perform_validate {set : Settings} {input : Except SchemaFailure Schema} :
    (perform (set.validate input) true tools).Keeps := by
  intro s r t h
  rw [(leads_perform_iff.1 h).2]
  exact Disk.state_validate_dry ..

theorem keeps_generate_dry : (generate tools c true).Keeps := by
  refine (keeps_print _).bind fun _ => keeps_tree.bind fun files => ?_
  refine keeps_perform_generate.bind fun result => ?_
  rw [if_neg (by simp)]
  exact (keeps_orFail _ _).bind fun r => keeps_print _

theorem keeps_watch_dry : (watch tools c true).Keeps := by
  refine (keeps_print _).bind fun _ => Keeps.bind ?_ fun _ => keeps_throw _
  refine keeps_tryCatch keeps_generate_dry fun e => ?_
  intro s r t h
  rw [show t = _ from (Prod.ext_iff.1 h).2.symm]
  rfl

/-- Recording that there is a difference changes the recorded status, and fails then. -/
theorem leads_record {reason : CommandError} {s t : Desk} {r : Except CommandError Unit}
    (h : (do setTree (Status.update (← tree) c.statusFile .mark); throw reason : Action Unit).Leads
      s r t) :
    r = .error reason ∧
      t.disk = { s.disk with tree := Status.update s.disk.tree c.statusFile .mark } := by
  rcases leads_bind_iff.1 h with ⟨e, -, htree⟩ | ⟨files, m, htree, h⟩
  · cases (leads_tree_iff.1 htree).1
  obtain ⟨hfiles, rfl⟩ := leads_tree_iff.1 htree
  obtain rfl := Except.ok.inj hfiles
  rcases leads_bind_iff.1 h with ⟨e, -, hset⟩ | ⟨_, m, hset, h⟩
  · cases (leads_setTree_iff.1 hset).1
  obtain ⟨-, rfl⟩ := leads_setTree_iff.1 hset
  obtain ⟨hr, rfl⟩ := leads_throw_iff.1 h
  exact ⟨hr, rfl⟩

/-- A validation that is carried out leaves the disk alone, unless it finds a difference. -/
theorem leads_validate {o : Overrides} {file : Option Path} {s t : Desk}
    {r : Except CommandError Unit} (h : (validate tools o file).Leads s r t) :
    t.disk = s.disk ∨ (∃ reason, r = .error (.validation reason)) ∧ ∃ base,
      Config.load s.disk.tree (file.getD ⟨Config.fileName⟩) = .ok base ∧
      s.disk.RecordsDrift tools (base.override o) t.disk := by
  rcases (keeps_print _).leads_bind h with hkept | ⟨_, m₁, -, hdisk₁, h₁⟩
  · exact .inl hkept
  rcases (keeps_loadConfig o file).leads_bind h₁ with hkept | ⟨c, m₂, hconfig, hdisk₂, h₂⟩
  · exact .inl (hkept.trans hdisk₁)
  obtain ⟨base, hbase, rfl⟩ := load_of_leads_loadConfig hconfig
  have hdisk₂ := hdisk₂.trans hdisk₁
  rcases keeps_tree.leads_bind h₂ with hkept | ⟨files, m₃, htree, -, h₃⟩
  · exact .inl (hkept.trans hdisk₂)
  obtain ⟨hfiles, rfl⟩ := leads_tree_iff.1 htree
  obtain rfl := Except.ok.inj hfiles
  rcases keeps_perform_validate.leads_bind h₃ with hkept | ⟨result, m₄, hperform, hdisk₄, h₄⟩
  · exact .inl (hkept.trans hdisk₂)
  have hresult := Except.ok.inj (leads_perform_iff.1 hperform).1
  have hdisk₄ := hdisk₄.trans hdisk₂
  rcases (keeps_orFail _ _).leads_bind h₄ with hkept | ⟨v, m₅, hok, -, h₅⟩
  · exact .inl (hkept.trans hdisk₄)
  obtain ⟨hv, rfl⟩ := leads_orFail_iff.1 hok
  rcases (keeps_print _).leads_bind h₅ with hkept | ⟨_, m₆, -, hdisk₆, h₆⟩
  · exact .inl (hkept.trans hdisk₄)
  have hdisk₆ := hdisk₆.trans hdisk₄
  cases hdrift : v.isUpToDate with
  | true =>
    rw [hdrift, if_neg (by simp)] at h₆
    rw [(leads_pure_iff.1 h₆).2]
    exact .inl hdisk₆
  | false =>
    rw [hdrift, if_pos (by simp)] at h₆
    obtain ⟨hr, hrecorded⟩ := leads_record h₆
    rw [hdisk₆] at hrecorded
    refine .inr ⟨⟨_, hr⟩, base, hdisk₁ ▸ hbase, ⟨v, ?_, ?_⟩, hrecorded, ?_⟩
    · rw [hdisk₂] at hresult
      rw [← hresult, eq_ok_of_mapError hv]
    · simpa [Validation.isUpToDate] using hdrift
    · rw [hrecorded]
      exact Status.saves_update ..

end Action

namespace Command

/-- What a command leaves is what its steps lead to. -/
theorem run_of_leads {tools : Toolchain} {c : Command} {d : Disk} {r : Except CommandError Unit}
    {t : Desk} (h : (c.action tools).Leads ⟨d, [], []⟩ r t) :
    (c.run tools d).2 = t.disk ∧ ∀ e, r = .error e → (c.run tools d).1.exitCode = e.exitCode := by
  have hrun : (c.action tools).run.run ⟨d, [], []⟩ = (r, t) := h
  rw [run, hrun]
  cases r with
  | error e => exact ⟨rfl, fun e' he => by rw [Except.error.inj he]⟩
  | ok => exact ⟨rfl, fun e he => by cases he⟩

/-- Dry runs and validations leave a disk as it was, however they end, and so does the command for a
dry run. The command for a validation changes nothing but the file of the status, and that only if
it finds a difference. -/
theorem state_run_dry (tools : Toolchain) (d : Disk) :
    (∀ (set : Settings) (input : Except SchemaFailure Schema),
      ((set.generate input true).execute (Disk.host true tools) d).state = d ∧
      ((set.validate input).execute (Disk.host true tools) d).state = d) ∧
    (∀ o file watch, ((Command.generate o file watch true).run tools d).2 = d) ∧
    ∀ o file, let ran := (Command.validate o file).run tools d
      ran.2 = d ∨ ran.1.exitCode = 2 ∧ ∃ base,
        Config.load d.tree (file.getD ⟨Config.fileName⟩) = .ok base ∧
        d.RecordsDrift tools (base.override o) ran.2 := by
  refine ⟨fun set input => ⟨Disk.state_generate_dry .., Disk.state_validate_dry ..⟩, ?_, ?_⟩
  · intro o file watch
    have hkeeps : ((Command.generate o file watch true).action tools).Keeps := by
      refine (Action.keeps_loadConfig o file).bind fun config => ?_
      split
      · exact Action.keeps_watch_dry
      · exact Action.keeps_generate_dry
    exact (run_of_leads rfl).1.trans (hkeeps _ _ _ rfl)
  · intro o file
    have hleads : (Action.validate tools o file).Leads ⟨d, [], []⟩ _ _ := rfl
    obtain ⟨hdisk, hexit⟩ := run_of_leads (c := .validate o file) hleads
    dsimp only
    rw [hdisk]
    rcases Action.leads_validate hleads with hkept | ⟨⟨reason, hr⟩, hrecorded⟩
    · exact .inl hkept
    · exact .inr ⟨hexit _ hr, hrecorded⟩

end Command

end ContentModels
