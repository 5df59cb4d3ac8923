import ContentModels.Proofs.Run.Transcript
import ContentModels.Proofs.Store.Memory

/-!
# The phases of a run

A run deletes, reads, writes and compiles, one after the other, and what it deletes or writes are
generated files. This holds of every transcript, so no failure can make a run do anything else.

## Main definitions

* `Call.stage?` — where a call stands among the others.
* `Exchange.IsProper` — what is taken for granted of answers.
* `Settings.Orderly` — what the exchanges of a run come to.
* `MemoryStore.unreliable` — files in memory whose calls fail in any pattern.

## Main statements

* `Settings.orderly_of_yields` — every transcript of a run is orderly.
* `Settings.orderly_generate` — so is every run on files in memory, whatever fails.
-/

namespace ContentModels

/-! ## Stages -/

/-- Where a call stands in a run, by number: first files are deleted, then they are read, then they
are written, and then they are compiled. Other calls stand anywhere. -/
def Call.stage? : Call → Option Nat
  | .delete _ => some 0
  | .read _ => some 1
  | .write .. => some 2
  | .compile _ => some 3
  | _ => none

/-- Whether a call is one of the store. -/
def Call.isStore : Call → Bool
  | .createDir _ | .list .. | .read _ | .write .. | .delete _ => true
  | _ => false

def Call.isCompile : Call → Bool
  | .compile _ => true
  | _ => false

/-- The stages of calls, in the order of the calls. -/
def stages (l : List Exchange) : List Nat := l.filterMap (·.call.stage?)

/-- Calls are made in the order of their stages, which lie between two. -/
structure Staged (first last : Nat) (l : List Exchange) : Prop where
  inOrder : (stages l).Pairwise (· ≤ ·)
  le_stage : ∀ n ∈ stages l, first ≤ n
  stage_le : ∀ n ∈ stages l, n ≤ last

namespace Staged

variable {a b c : Nat} {l m : List Exchange}

theorem nil (a b : Nat) : Staged a b [] := ⟨.nil, by simp [stages], by simp [stages]⟩

theorem weaken (h : Staged b c l) (hab : a ≤ b) : Staged a c l :=
  ⟨h.inOrder, fun n hn => hab.trans (h.le_stage n hn), h.stage_le⟩

/-- Exchanges of one stage. -/
theorem single (h : ∀ x ∈ l, x.call.stage? = none ∨ x.call.stage? = some a) : Staged a a l := by
  have heq : ∀ n ∈ stages l, n = a := by
    intro n hn
    obtain ⟨x, hx, hstage⟩ := List.mem_filterMap.1 hn
    rcases h x hx with h | h <;> simp_all
  refine ⟨?_, fun n hn => (heq n hn).ge, fun n hn => (heq n hn).le⟩
  exact List.pairwise_of_forall_mem_list fun n hn k hk => ((heq n hn).trans (heq k hk).symm).le

/-- One part of a run after another. -/
theorem append (hl : Staged a b l) (hm : Staged b c m) (hab : a ≤ b) (hbc : b ≤ c) :
    Staged a c (l ++ m) := by
  have hstages : stages (l ++ m) = stages l ++ stages m := List.filterMap_append
  refine ⟨?_, fun n hn => ?_, fun n hn => ?_⟩
  · rw [hstages, List.pairwise_append]
    exact ⟨hl.inOrder, hm.inOrder, fun n hn k hk => (hl.stage_le n hn).trans (hm.le_stage k hk)⟩
  · rcases List.mem_append.1 (hstages ▸ hn) with hn | hn
    · exact hl.le_stage n hn
    · exact hab.trans (hm.le_stage n hn)
  · rcases List.mem_append.1 (hstages ▸ hn) with hn | hn
    · exact (hl.stage_le n hn).trans hbc
    · exact hm.stage_le n hn

end Staged

/-! ## What answers are taken for granted -/

/-- What is taken for granted of answers: a listing gives files of the directory with the ending
that is asked for, and a directory that cannot be taken is so because of another run or of its
lock. -/
def Exchange.IsProper : Exchange → Prop
  | ⟨.list dir pattern, answer⟩ => ∀ files, answer = .ok files → ∀ file ∈ files,
      MemoryStore.isChild dir file = true ∧ MemoryStore.ending pattern <:+ file.chars
  | ⟨.lock _, answer⟩ => ∀ e, answer = .error e →
      (∃ dir, e = .inProgress dir) ∨ ∃ cause, e = .clean cause
  | _ => True

/-- What a run may call for: it deletes and writes nothing but generated files of the directory of
the models. -/
def Settings.Allows (s : Settings) : Call → Prop
  | .delete file | .write file _ =>
    MemoryStore.isGeneratedChild s.modelsDir file = true ∧ file.isGenerated = true
  | _ => True

open Program

variable {s : Settings} {l : List Exchange}

/-! ## Each phase -/

theorem only_deleteAll {contract : Exchange → Prop} {allowed : Call → Prop} {files : List Path}
    (h : ∀ file ∈ files, allowed (.delete file)) : (deleteAll files).Only contract allowed := by
  induction files with
  | nil => exact .pure _
  | cons file rest ih =>
    have hrest := ih fun f hf => h f (List.mem_cons_of_mem _ hf)
    refine .ask_bind (h file List.mem_cons_self) fun answer _ => ?_
    cases answer with
    | error e => exact .pure _
    | ok gone => exact hrest.bind fun _ => .pure _

/-- Cleaning lists the generated files, and deletes some of them. -/
theorem Settings.only_clean (s : Settings) : s.clean.Only Exchange.IsProper fun c =>
    c = .list s.modelsDir generatedPattern ∨
      ∃ file, c = .delete file ∧ MemoryStore.isGeneratedChild s.modelsDir file = true := by
  refine .ask_bind (.inl rfl) fun answer hproper => ?_
  cases answer with
  | error e => exact .pure _
  | ok files =>
    refine only_deleteAll fun file hfile => .inr ⟨file, rfl, ?_⟩
    obtain ⟨hchild, hending⟩ := hproper files rfl file hfile
    rw [MemoryStore.ending_generatedPattern] at hending
    exact MemoryStore.isGeneratedChild_iff.2 ⟨hchild, hending⟩

theorem only_readSources {contract : Exchange → Prop} {allowed : Call → Prop} {files : List Path}
    (h : ∀ file ∈ files, file.isGenerated = false → allowed (.read file)) :
    (readSources files).Only contract allowed := by
  induction files with
  | nil => exact .pure _
  | cons file rest ih =>
    have hrest := ih fun f hf => h f (List.mem_cons_of_mem _ hf)
    rw [readSources]
    split
    · exact hrest
    · next hfile =>
      refine .ask_bind (h file List.mem_cons_self (by simpa using hfile)) fun answer _ => ?_
      cases answer with
      | error e => exact .pure _
      | ok text => exact hrest.bind fun _ => .pure _

/-- Scanning lists the source files, and reads some of them. -/
theorem only_scan {contract : Exchange → Prop} (dir : Path) : (scan dir).Only contract fun c =>
    c = .list dir sourcePattern ∨ ∃ file, c = .read file := by
  refine .ask_bind (.inl rfl) fun answer _ => ?_
  cases answer with
  | error e => exact .pure _
  | ok files => exact only_readSources fun file _ _ => .inr ⟨file, rfl⟩

/-- Emitting writes some of the texts to their files. -/
theorem only_writeAll {contract : Exchange → Prop} {files : List (Path × String)} :
    (writeAll files).Only contract fun c => ∃ e ∈ files, c = .write e.1 e.2 := by
  suffices h : ∀ rest ⊆ files, (writeAll rest).Only contract fun c =>
      ∃ e ∈ files, c = .write e.1 e.2 from h files (List.Subset.refl files)
  intro rest hrest
  induction rest with
  | nil => exact .pure _
  | cons e rest ih =>
    obtain ⟨he, hmore⟩ := List.cons_subset.1 hrest
    refine .ask_bind ⟨e, he, rfl⟩ fun answer _ => ?_
    cases answer with
    | error e => exact .pure _
    | ok written => exact (ih hmore).bind fun _ => .pure _

/-- What a run calls for while it has its directory, if that is true of each of its phases. -/
theorem Settings.only_generateLocked {contract : Exchange → Prop} {allowed : Call → Prop}
    {s : Settings} {schema : Schema} {dry : Bool} (hclean : s.clean.Only contract allowed)
    (hscan : (scan s.modelsDir).Only contract allowed)
    (hwrite : ∀ file text, (∃ name, IsGeneratedName name ∧ file = s.modelsDir.file name) →
      allowed (.write file text))
    (hcompile : ∀ request, request.output = s.artifactPath → allowed (.compile request)) :
    (s.generateLocked schema dry).run.Only contract allowed := by
  rw [generateLocked]
  refine .attempt_bind hclean fun deleted => ?_
  refine .attempt_bind hscan fun sources => ?_
  refine .attempt_bind (only_writeAll.mono ?_) fun written => ?_
  · rintro _ ⟨e, he, rfl⟩
    exact hwrite _ _ (s.exists_name_of_mem_generatedFiles schema _ _ he)
  refine .run_bind ?_ fun artifact => .pure _
  rw [Settings.compile]
  split
  · exact .attempt_bind (.ask_bind (hcompile _ (by rw [compileRequest])) fun _ _ => .pure _)
      fun artifact => .pure _
  · exact .pure _

/-- What a run calls for, if that is true of what it does to have its directory, and of what it does
while it has it. -/
theorem Settings.only_generate {contract : Exchange → Prop} {allowed : Call → Prop} {s : Settings}
    {input : Except SchemaFailure Schema} {dry : Bool}
    (hcreate : allowed (.createDir s.modelsDir)) (hlock : allowed (.lock s.modelsDir))
    (hguard : ∀ guard, contract ⟨.lock s.modelsDir, .ok guard⟩ →
      allowed (.removeLockFile guard) ∧ allowed (.release guard))
    (hlocked : ∀ schema, (s.generateLocked schema dry).run.Only contract allowed) :
    (s.generate input dry).Only contract allowed := by
  unfold generate
  split
  · exact .pure _
  cases input with
  | error e => exact .pure _
  | ok schema =>
    refine .ask_bind hcreate fun created _ => ?_
    cases created with
    | error e => exact .pure _
    | ok =>
      refine .ask_bind hlock fun locked kept => ?_
      cases locked with
      | error e => exact .pure _
      | ok guard =>
        obtain ⟨hremove, hrelease⟩ := hguard guard kept
        change (s.generateGuarded schema dry guard).Only _ _
        rw [generateGuarded]
        refine .bind (hlocked schema) fun result => ?_
        exact .ask_bind hremove fun _ _ => .ask_bind hrelease fun _ _ => .pure _

/-- If emitting succeeds, no write was refused. -/
theorem notMem_of_yields_writeAll {contract : Exchange → Prop} {files : List (Path × String)}
    {written : List Written} (h : Yields contract (writeAll files) l (.ok written)) :
    ∀ file text e, (⟨.write file text, .error e⟩ : Exchange) ∉ l := by
  induction files generalizing l written with
  | nil =>
    obtain ⟨rfl, -⟩ := yields_pure_iff.1 h
    simp
  | cons d rest ih =>
    obtain ⟨answer, m, -, hm, rfl⟩ := yields_ask_bind_iff.1 h
    intro file text e hmem
    cases answer with
    | error e => cases (yields_pure_iff.1 hm).2
    | ok w =>
      obtain ⟨a, m₁, m₂, hm₁, hm₂, rfl⟩ := yields_bind_iff.1 hm
      obtain ⟨rfl, ha⟩ := yields_pure_iff.1 hm₂
      cases a with
      | error e => cases ha
      | ok more =>
        rcases List.mem_cons.1 hmem with heq | hmem
        · cases heq
        · exact ih hm₁ file text e (by simpa using hmem)

/-- Compiling calls the compiler, or does nothing at all. -/
theorem Settings.eq_of_yields_compile {contract : Exchange → Prop} {dry : Bool}
    {request : CompileRequest} {r : Except RunError (Option Artifact)}
    (h : Yields contract (s.compile dry request).run l r) :
    (l = [] ∨ ∃ answer, l = [⟨.compile request, answer⟩]) ∧
      ∀ e, r = .error e → ∃ cause, e = .compilation cause := by
  rw [compile] at h
  split at h
  · rcases yields_attempt_bind_iff.1 h with ⟨cause, hask, rfl⟩ | ⟨a, m, n, hask, hn, rfl⟩
    · obtain ⟨-, rfl⟩ := yields_ask_iff.1 hask
      exact ⟨.inr ⟨_, rfl⟩, fun e he => ⟨cause, (Except.error.inj he).symm⟩⟩
    · obtain ⟨-, rfl⟩ := yields_ask_iff.1 hask
      obtain ⟨rfl, rfl⟩ := yields_pure_iff.1 hn
      exact ⟨.inr ⟨_, rfl⟩, fun e he => by cases he⟩
  · obtain ⟨rfl, rfl⟩ := yields_pure_iff.1 h
    exact ⟨.inl rfl, fun e he => by cases he⟩

/-! ## All phases -/

/-- Whether a failure is one of the phases of a run. -/
def RunError.isOfPhase : RunError → Bool
  | .clean _ | .scan _ | .emit _ | .compilation _ => true
  | _ => false

/-- The phases of a run, as far as it comes. -/
structure Settings.Phases (s : Settings) (cleaning scanning emitting compiling : List Exchange) :
    Prop where
  clean : ∀ x ∈ cleaning, x.call = .list s.modelsDir generatedPattern ∨
    ∃ file, x.call = .delete file ∧ MemoryStore.isGeneratedChild s.modelsDir file = true
  scan : ∀ x ∈ scanning, x.call = .list s.modelsDir sourcePattern ∨ ∃ file, x.call = .read file
  emit : ∀ x ∈ emitting, ∃ name text, IsGeneratedName name ∧
    x.call = .write (s.modelsDir.file name) text
  compile : compiling = [] ∨
    (∀ file text e, (⟨.write file text, .error e⟩ : Exchange) ∉ emitting) ∧
      ∃ request answer, compiling = [⟨.compile request, answer⟩]

/-- A run that has its directory goes through the phases, and fails in one of them if it fails. -/
theorem Settings.exists_phases_of_yields {schema : Schema} {dry : Bool}
    {r : Except RunError Report}
    (h : Yields Exchange.IsProper (s.generateLocked schema dry).run l r) :
    (∃ cleaning scanning emitting compiling, s.Phases cleaning scanning emitting compiling ∧
        l = cleaning ++ (scanning ++ (emitting ++ compiling))) ∧
      ∀ e, r = .error e → e.isOfPhase = true := by
  have none_of_nil {P : Exchange → Prop} : ∀ x ∈ ([] : List Exchange), P x := by simp
  rw [generateLocked] at h
  rcases yields_attempt_bind_iff.1 h with ⟨e, hclean, rfl⟩ | ⟨deleted, l₁, m, hclean, hscans, rfl⟩
  · refine ⟨⟨l, [], [], [], ⟨?_, none_of_nil, none_of_nil, .inl rfl⟩, by simp⟩, ?_⟩
    · exact s.only_clean.of_yields hclean
    · rintro _ ⟨⟩
      rfl
  have hcleaning := s.only_clean.of_yields hclean
  rcases yields_attempt_bind_iff.1 hscans with ⟨e, hscan, rfl⟩ | ⟨sources, l₂, m, hscan, hemits, rfl⟩
  · refine ⟨⟨l₁, m, [], [], ⟨hcleaning, ?_, none_of_nil, .inl rfl⟩, by simp⟩, ?_⟩
    · exact (only_scan _).of_yields hscan
    · rintro _ ⟨⟩
      rfl
  have hscanning := (only_scan _).of_yields hscan
  have emits {files : List SourceFile} {n : List Exchange} {a : Except StoreError (List Written)}
      (hn : Yields Exchange.IsProper (writeAll (s.generatedFiles
        (schema.plan (HandCode.ofFiles sources).1).plans (files.map (·.path))).entries) n a) :
      ∀ x ∈ n, ∃ name text, IsGeneratedName name ∧
        x.call = .write (s.modelsDir.file name) text := by
    intro x hx
    obtain ⟨e, he, hcall⟩ := only_writeAll.of_yields hn x hx
    obtain ⟨name, hname, hkey⟩ := s.exists_name_of_mem_generatedFiles schema _ _ he
    exact ⟨name, e.2, hname, hkey ▸ hcall⟩
  rcases yields_attempt_bind_iff.1 hemits with ⟨e, hemit, rfl⟩ |
    ⟨written, l₃, m, hemit, hcompiles, rfl⟩
  · refine ⟨⟨l₁, l₂, m, [], ⟨hcleaning, hscanning, emits hemit, .inl rfl⟩, by simp⟩, ?_⟩
    rintro _ ⟨⟩
    rfl
  have hwrote := notMem_of_yields_writeAll hemit
  rcases yields_run_bind_iff.1 hcompiles with ⟨e, hcompile, rfl⟩ |
    ⟨artifact, l₄, m, hcompile, hdone, rfl⟩
  · obtain ⟨hcall, herror⟩ := eq_of_yields_compile hcompile
    refine ⟨⟨l₁, l₂, l₃, m, ⟨hcleaning, hscanning, emits hemit, ?_⟩, rfl⟩, ?_⟩
    · exact hcall.imp id fun ⟨answer, ha⟩ => ⟨hwrote, _, answer, ha⟩
    · rintro _ ⟨⟩
      obtain ⟨cause, rfl⟩ := herror e rfl
      rfl
  · obtain ⟨hcall, -⟩ := eq_of_yields_compile hcompile
    obtain ⟨rfl, rfl⟩ := yields_pure_iff.1 hdone
    refine ⟨⟨l₁, l₂, l₃, l₄, ⟨hcleaning, hscanning, emits hemit, ?_⟩, by simp⟩, ?_⟩
    · exact hcall.imp id fun ⟨answer, ha⟩ => ⟨hwrote, _, answer, ha⟩
    · rintro _ ⟨⟩

namespace Settings.Phases

variable {cleaning scanning emitting compiling : List Exchange}

/-- The phases delete and write nothing but generated files. -/
theorem allows (h : s.Phases cleaning scanning emitting compiling) :
    ∀ x ∈ cleaning ++ (scanning ++ (emitting ++ compiling)), s.Allows x.call := by
  intro x hx
  rcases List.mem_append.1 hx with hx | hx
  · rcases h.clean x hx with hcall | ⟨file, hcall, hfile⟩ <;> rw [hcall]
    · trivial
    · exact ⟨hfile, MemoryStore.isGenerated_of_isGeneratedChild hfile⟩
  rcases List.mem_append.1 hx with hx | hx
  · rcases h.scan x hx with hcall | ⟨file, hcall⟩ <;> rw [hcall] <;> trivial
  rcases List.mem_append.1 hx with hx | hx
  · obtain ⟨name, text, hname, hcall⟩ := h.emit x hx
    rw [hcall]
    exact ⟨MemoryStore.isGeneratedChild_file _ hname, MemoryStore.isGenerated_file _ hname⟩
  · rcases h.compile with rfl | ⟨-, request, answer, rfl⟩
    · simp at hx
    · obtain rfl := List.mem_singleton.1 hx
      trivial

/-- The phases come in their order. -/
theorem staged (h : s.Phases cleaning scanning emitting compiling) :
    Staged 0 3 (cleaning ++ (scanning ++ (emitting ++ compiling))) := by
  have hcleaning : Staged 0 0 cleaning := .single fun x hx => by
    rcases h.clean x hx with hcall | ⟨file, hcall, -⟩ <;> simp [hcall, Call.stage?]
  have hscanning : Staged 1 1 scanning := .single fun x hx => by
    rcases h.scan x hx with hcall | ⟨file, hcall⟩ <;> simp [hcall, Call.stage?]
  have hemitting : Staged 2 2 emitting := .single fun x hx => by
    obtain ⟨name, text, -, hcall⟩ := h.emit x hx
    simp [hcall, Call.stage?]
  have hcompiling : Staged 3 3 compiling := by
    rcases h.compile with rfl | ⟨-, request, answer, rfl⟩
    · exact .nil 3 3
    · exact .single fun x hx => by simp [List.mem_singleton.1 hx, Call.stage?]
  have hlast : Staged 2 3 (emitting ++ compiling) :=
    hemitting.append (hcompiling.weaken (by omega)) (by omega) (by omega)
  exact hcleaning.append ((hscanning.append (hlast.weaken (by omega)) (by omega)
    (by omega)).weaken (by omega)) (by omega) (by omega)

/-- Only compiling calls the compiler. -/
theorem filter_isCompile (h : s.Phases cleaning scanning emitting compiling) :
    (cleaning ++ (scanning ++ (emitting ++ compiling))).filter (·.call.isCompile) = compiling := by
  have hcleaning : cleaning.filter (·.call.isCompile) = [] := List.filter_eq_nil_iff.2 fun x hx => by
    rcases h.clean x hx with hcall | ⟨file, hcall, -⟩ <;> simp [hcall, Call.isCompile]
  have hscanning : scanning.filter (·.call.isCompile) = [] := List.filter_eq_nil_iff.2 fun x hx => by
    rcases h.scan x hx with hcall | ⟨file, hcall⟩ <;> simp [hcall, Call.isCompile]
  have hemitting : emitting.filter (·.call.isCompile) = [] := List.filter_eq_nil_iff.2 fun x hx => by
    obtain ⟨name, text, -, hcall⟩ := h.emit x hx
    simp [hcall, Call.isCompile]
  have hcompiling : compiling.filter (·.call.isCompile) = compiling := by
    rcases h.compile with rfl | ⟨-, request, answer, rfl⟩ <;> rfl
  simp [hcleaning, hscanning, hemitting, hcompiling]

/-- If the compiler is called, no write was refused. -/
theorem notMem_of_compiling (h : s.Phases cleaning scanning emitting compiling)
    (hne : compiling ≠ []) (file : Path) (text : String) (e : StoreError) :
    (⟨.write file text, .error e⟩ : Exchange) ∉
      cleaning ++ (scanning ++ (emitting ++ compiling)) := by
  obtain ⟨hwrote, request, answer, rfl⟩ := h.compile.resolve_left hne
  simp only [List.mem_append, not_or]
  refine ⟨fun hx => ?_, fun hx => ?_, hwrote file text e, fun hx => ?_⟩
  · rcases h.clean _ hx with hcall | ⟨f, hcall, -⟩ <;> cases hcall
  · rcases h.scan _ hx with hcall | ⟨f, hcall⟩ <;> cases hcall
  · cases List.mem_singleton.1 hx

end Settings.Phases

/-! ## Whole runs -/

/-- What the exchanges of a run come to, given how it ends. -/
structure Settings.Orderly (s : Settings) (l : List Exchange) (result : Except RunError Report) :
    Prop where
  /-- Whatever is deleted or written is a generated file of the directory of the models. -/
  allows : ∀ x ∈ l, s.Allows x.call
  /-- Files are deleted, then read, then written, then compiled. -/
  inOrder : (stages l).Pairwise (· ≤ ·)
  compilesOnce : (l.filter (·.call.isCompile)).length ≤ 1
  /-- Nothing is compiled if a write was refused. -/
  compilesWritten : ∀ request answer, (⟨.compile request, answer⟩ : Exchange) ∈ l →
    ∀ file text e, (⟨.write file text, .error e⟩ : Exchange) ∉ l
  /-- Without leave or schema nothing is called for. -/
  silent : (result = .error .disabled ∨ ∃ failure, result = .error (.schema failure)) → l = []
  /-- A run that finds its directory taken does nothing but create it. -/
  excluded : ∀ dir, result = .error (.inProgress dir) →
    (l.map (·.call)).filter Call.isStore = [.createDir s.modelsDir]

/-- A run that has its directory is orderly from its first call to its last. -/
theorem Settings.orderly_of_phases {cleaning scanning emitting compiling : List Exchange}
    {result : Except RunError Report} (h : s.Phases cleaning scanning emitting compiling)
    (failed : ∀ e, result = .error e → e.isOfPhase = true)
    {created : (Call.createDir s.modelsDir).Answer} {locked : (Call.lock s.modelsDir).Answer}
    {guard : Guard} : s.Orderly (⟨.createDir s.modelsDir, created⟩ :: ⟨.lock s.modelsDir, locked⟩ ::
      (cleaning ++ (scanning ++ (emitting ++ compiling)) ++
        [⟨.removeLockFile guard, ()⟩, ⟨.release guard, ()⟩])) result := by
  generalize hl : cleaning ++ (scanning ++ (emitting ++ compiling)) = l
  have hfilter : l.filter (·.call.isCompile) = compiling := hl ▸ h.filter_isCompile
  constructor
  · intro x hx
    simp only [List.mem_cons, List.mem_append, List.not_mem_nil, or_false] at hx
    rcases hx with rfl | rfl | hx | rfl | rfl
    · trivial
    · trivial
    · exact h.allows x (hl ▸ hx)
    · trivial
    · trivial
  · have hstages : (stages l).Pairwise (· ≤ ·) := hl ▸ h.staged.inOrder
    simpa [stages, Call.stage?] using hstages
  · have hlength : compiling.length ≤ 1 := by
      rcases h.compile with rfl | ⟨-, request, answer, rfl⟩ <;> simp
    change ((l ++ [_, _]).filter _).length ≤ 1
    rw [List.filter_append, hfilter]
    change (compiling ++ []).length ≤ 1
    rwa [List.append_nil]
  · intro request answer hmem
    have hcompile : (⟨.compile request, answer⟩ : Exchange) ∈ l := by simpa using hmem
    have hne : compiling ≠ [] := by
      rw [← hfilter]
      exact List.ne_nil_of_mem (List.mem_filter.2 ⟨hcompile, rfl⟩)
    intro file text e hwrite
    exact h.notMem_of_compiling hne file text e (hl ▸ by simpa using hwrite)
  · rintro (rfl | ⟨failure, rfl⟩) <;> cases failed _ rfl
  · rintro dir rfl
    cases failed _ rfl

/-- Every transcript of a run is orderly. -/
theorem Settings.orderly_of_yields {schema : Except SchemaFailure Schema} {dry : Bool}
    {result : Except RunError Report}
    (h : Yields Exchange.IsProper (s.generate schema dry) l result) : s.Orderly l result := by
  unfold generate at h
  split at h
  · obtain ⟨rfl, rfl⟩ := yields_pure_iff.1 h
    constructor <;> simp [stages]
  cases schema with
  | error e =>
    obtain ⟨rfl, rfl⟩ := yields_pure_iff.1 h
    constructor <;> simp [stages]
  | ok schema =>
    obtain ⟨created, m, -, hcreated, rfl⟩ := yields_ask_bind_iff.1 h
    cases created with
    | error e =>
      obtain ⟨rfl, rfl⟩ := yields_pure_iff.1 hcreated
      constructor <;> simp [stages, Call.stage?, Call.isCompile, Allows]
    | ok =>
      obtain ⟨locked, m, hproper, hlocked, rfl⟩ := yields_ask_bind_iff.1 hcreated
      cases locked with
      | error e =>
        obtain ⟨rfl, rfl⟩ := yields_pure_iff.1 hlocked
        refine ⟨?_, ?_, ?_, ?_, ?_, fun _ _ => rfl⟩
        · simp [Allows]
        · simp [stages, Call.stage?]
        · simp [Call.isCompile]
        · simp
        · rcases hproper e rfl with ⟨dir, rfl⟩ | ⟨cause, rfl⟩ <;> simp
      | ok guard =>
        obtain ⟨r, m₁, m₂, hrun, hremove, rfl⟩ := yields_bind_iff.1 hlocked
        obtain ⟨⟨⟩, m₃, -, hrelease, rfl⟩ := yields_ask_bind_iff.1 hremove
        obtain ⟨⟨⟩, m₄, -, hdone, rfl⟩ := yields_ask_bind_iff.1 hrelease
        obtain ⟨rfl, rfl⟩ := yields_pure_iff.1 hdone
        obtain ⟨⟨_, _, _, _, hphases, rfl⟩, hfailed⟩ := exists_phases_of_yields hrun
        exact orderly_of_phases hphases hfailed

/-! ## Files in memory -/

namespace MemoryStore

/-- Files in memory whose calls fail in any pattern: what fails, and what the compiler says, may
depend on all calls before. -/
def unreliable (dry : Bool) (faults : List Call → Faults)
    (compiler : List Call → CompileRequest → Except CompileError Artifact) :
    Host (MemoryStore × List Call) where
  answer c state :=
    let (answer, store) := (host dry (faults state.2) (compiler state.2)).answer c state.1
    (answer, store, state.2 ++ [c])

variable (dry : Bool) (faults : Faults) (compiler : CompileRequest → Except CompileError Artifact)

/-- Files in memory are answered for properly, whatever is made to fail. -/
theorem isProper_host (c : Call) (store : MemoryStore) :
    Exchange.IsProper ⟨c, ((host dry faults compiler).answer c store).1⟩ := by
  cases c with
  | list dir pattern =>
    rintro files hfiles file hfile
    simp only [host, refuse] at hfiles
    cases hfault : faults.list pattern with
    | some reason => simp [hfault] at hfiles
    | none =>
      simp only [hfault, perform, Option.map_none, Except.ok.injEq] at hfiles
      subst hfiles
      simpa [MemoryStore.list] using (List.mem_filter.1 hfile).2
  | lock dir =>
    rintro e he
    simp only [host, refuse, perform, MemoryStore.lock] at he
    split at he
    · exact .inl ⟨dir, (Except.error.inj he).symm⟩
    · cases he
  | createDir | read | write | delete | removeLockFile | release | compile => trivial

end MemoryStore

/-- Every run on files in memory is orderly, whatever fails. -/
theorem Settings.orderly_generate (s : Settings) (schema : Except SchemaFailure Schema) (dry : Bool)
    (faults : List Call → Faults)
    (compiler : List Call → CompileRequest → Except CompileError Artifact)
    (state : MemoryStore × List Call) :
    let host := MemoryStore.unreliable dry faults compiler
    let run := (s.generate schema dry).execute host state
    let exchanges := (s.generate schema dry).transcript host state
    run.calls = exchanges.map (·.call) ∧ s.Orderly exchanges run.result := by
  intro host run exchanges
  have hyields : Yields Exchange.IsProper (s.generate schema dry) exchanges run.result := by
    refine yields_execute (fun c (store, before) => ?_) _ state
    exact MemoryStore.isProper_host dry (faults before) (compiler before) c store
  exact ⟨(map_call_transcript host _ state).symm, orderly_of_yields hyields⟩

end ContentModels
