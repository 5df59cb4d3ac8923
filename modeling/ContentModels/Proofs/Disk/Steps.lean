import ContentModels.Proofs.Disk.Calls
import ContentModels.Proofs.Run.Execution

/-!
# The steps of a run on a disk

Cleaning, reading and writing follow the files that are listed, and each file that they come by is
one of the directory of the models. Reading depends on the hand-authored files only.

## Main statements

* `Disk.clean_spec` — no generated file is left that a listing finds.
* `Disk.writeAll_spec` — the generated files have their texts.
* `Disk.runs_scan_congr` — what is read where the hand-authored files are the same.
-/

namespace ContentModels

open Program

theorem endsLike_sourcePattern : Glob.EndsLike sourcePattern ".rs" :=
  ⟨by decide, by simp, by decide⟩

theorem endsLike_generatedPattern : Glob.EndsLike generatedPattern Naming.generatedSuffix :=
  ⟨by decide, by simp [Naming.generatedSuffix], by decide⟩

/-- Whether a name ends like that of a generated file. -/
def EndsGenerated (x : String) : Prop := Naming.generatedSuffix.toList <:+ x.toList

namespace Glob

variable {t t' : FileTree} {l : Location} {dir q : Path} {x : String}

/-- Changes of files leave the way to a directory alone. -/
theorem Reaches.of_frame {touched : Location → Prop} (h : Reaches t l dir q)
    (hframe : FileTree.Frame touched t t') : Reaches t' l dir q :=
  ⟨hframe.find h.find, h.components⟩

theorem Reaches.isGenerated_below (h : Reaches t l dir q) (hx : Path.IsName x) :
    (Glob.below q x).isGenerated = Naming.generatedSuffix.toList.isSuffixOf x.toList := by
  have hname : (Glob.below q x).fileName? = some x := by
    simp [Path.fileName?, (h.below hx).2]
  rw [Path.isGenerated, hname]
  rfl

end Glob

namespace Disk

variable {d d' : Disk} {l : Location} {dir q : Path} {tools : Toolchain}

/-! ## Listing -/

/-- What a listing of the generated files gives. -/
def listed (set : Settings) (t : FileTree) (l : Location) : List Path :=
  if Glob.isStuck set.modelsDir then []
  else (Glob.namesEnding t l Naming.generatedSuffix).map
    (Glob.below (Glob.reach set.modelsDir))

theorem answer_list {set : Settings} (dry : Bool) (tools : Toolchain) (named : d.tree.IsNamed)
    (hdir : d.tree.Addresses set.modelsDir l) :
    (host dry tools).answer (.list set.modelsDir generatedPattern) d =
      (.ok (listed set d.tree l), d) :=
  Prod.ext (Glob.list_eq named hdir endsLike_generatedPattern) rfl

theorem mem_namesEnding {t : FileTree} {x : String} :
    x ∈ Glob.namesEnding t l Naming.generatedSuffix ↔
      EndsGenerated x ∧ (t.file? (l.child x)).isSome = true := by
  rw [Glob.namesEnding, List.mem_filter, Bool.and_eq_true, List.isSuffixOf_iff_suffix]
  refine and_iff_right_of_imp fun ⟨_, hfile⟩ => ?_
  obtain ⟨content, hcontent⟩ := Option.isSome_iff_exists.1 hfile
  exact FileTree.mem_names_of_file? hcontent

/-! ## Cleaning -/

theorem deleteAll_spec {names : List String} {gone : List Path}
    (hreach : Glob.Reaches d.tree l dir q) (hnames : ∀ x ∈ names, Path.IsName x)
    (h : (deleteAll (names.map (Glob.below q))).Runs (host false tools) d (.ok gone) d') :
    FileTree.Frame (fun m => ∃ x ∈ names, m = l.child x) d.tree d'.tree ∧
      ∀ x ∈ names, d'.tree.file? (l.child x) = none := by
  induction names generalizing d gone with
  | nil =>
    obtain ⟨-, rfl⟩ := runs_pure_iff.1 h
    exact ⟨.refl _ _, by simp⟩
  | cons x names ih =>
    obtain ⟨deleted, d₁, more, hdelete, hrest, -⟩ := runs_deleteAll_cons_ok_iff.1 h
    have hentry := (hreach.below (hnames x List.mem_cons_self)).1
    rw [answer_delete] at hdelete
    obtain ⟨hframe, hnone⟩ := delete_spec hentry hdelete
    obtain ⟨hframe', hnone'⟩ := ih (hreach.of_frame hframe)
      (fun y hy => hnames y (List.mem_cons_of_mem _ hy)) hrest
    constructor
    · refine (hframe.mono fun m hm => ?_).trans (hframe'.mono fun m hm => ?_)
      · exact ⟨x, List.mem_cons_self, hm⟩
      · obtain ⟨y, hy, hm⟩ := hm
        exact ⟨y, List.mem_cons_of_mem _ hy, hm⟩
    · intro y hy
      by_cases hmem : y ∈ names
      · exact hnone' y hmem
      · obtain rfl : y = x := (List.mem_cons.1 hy).resolve_right hmem
        rw [hframe'.files _ ?_, hnone]
        rintro ⟨z, hz, heq⟩
        obtain ⟨-, rfl⟩ := Location.child_inj.1 heq
        exact hmem hz

/-- Cleaning changes generated files only, and leaves none unless a search for them gets stuck. -/
theorem clean_spec {set : Settings} {gone : List Path} (named : d.tree.IsNamed)
    (hfind : d.tree.find set.modelsDir = .ok (.node l .dir))
    (h : set.clean.Runs (host false tools) d (.ok gone) d') :
    FileTree.Frame (fun m => Glob.isStuck set.modelsDir = false ∧
        ∃ x, EndsGenerated x ∧ m = l.child x) d.tree d'.tree ∧
      (Glob.isStuck set.modelsDir = false → ∀ x, EndsGenerated x →
        d'.tree.file? (l.child x) = none) := by
  obtain ⟨answer, d₁, hlist, h⟩ := runs_bind_iff.1 h
  have hanswer : (Glob.list d.tree set.modelsDir generatedPattern, d) = (answer, d₁) :=
    runs_ask_iff.1 hlist
  rw [Glob.list_eq named (.of_find hfind) endsLike_generatedPattern] at hanswer
  obtain ⟨rfl, rfl⟩ := Prod.ext_iff.1 hanswer
  cases hstuck : Glob.isStuck set.modelsDir with
  | true =>
    rw [hstuck] at h
    obtain ⟨-, rfl⟩ := runs_pure_iff.1 h
    exact ⟨.refl _ _, by simp⟩
  | false =>
    rw [hstuck] at h
    have hreach := (Glob.reaches hfind).2 hstuck
    obtain ⟨hframe, hnone⟩ := deleteAll_spec hreach
      (fun x hx => Glob.isName_of_mem_namesEnding named hx) h
    refine ⟨hframe.mono fun m hm => ?_, fun _ x hx => ?_⟩
    · obtain ⟨x, hx, hm⟩ := hm
      exact ⟨rfl, x, (mem_namesEnding.1 hx).1, hm⟩
    by_cases hlisted : x ∈ Glob.namesEnding d.tree l Naming.generatedSuffix
    · exact hnone x hlisted
    · rw [hframe.files _ ?_]
      · cases hfile : d.tree.file? (l.child x) with
        | none => rfl
        | some content =>
          exact absurd (mem_namesEnding.2 ⟨hx, by simp [hfile]⟩) hlisted
      · rintro ⟨y, hy, heq⟩
        obtain ⟨-, rfl⟩ := Location.child_inj.1 heq
        exact hlisted hy

/-! ## Writing -/

/-- The generated files have their texts after they were written, and no other file is changed. -/
theorem writeAll_spec {entries : List (Path × String)} {written : List Written}
    (hdir : d.tree.Addresses dir l)
    (hnames : ∀ e ∈ entries, ∃ x, IsGeneratedName x ∧ e.1 = dir.file x)
    (horder : InOrder entries)
    (h : (writeAll entries).Runs (host false tools) d (.ok written) d') :
    FileTree.Frame (fun m => ∃ e ∈ entries, ∃ x, EndsGenerated x ∧ e.1 = dir.file x ∧
        m = l.child x) d.tree d'.tree ∧
      ∀ e ∈ entries, ∀ x, Path.IsName x → e.1 = dir.file x →
        d'.tree.file? (l.child x) = some (.text e.2) := by
  induction entries generalizing d written with
  | nil =>
    obtain ⟨-, rfl⟩ := runs_pure_iff.1 h
    exact ⟨.refl _ _, by simp⟩
  | cons e entries ih =>
    obtain ⟨first, later⟩ := List.pairwise_cons.1 horder
    obtain ⟨x, hx, hpath⟩ := hnames e List.mem_cons_self
    obtain ⟨done, d₁, more, hwrite, hrest, -⟩ := runs_writeAll_cons_ok_iff.1 h
    rw [answer_write, hpath] at hwrite
    obtain ⟨hframe, htext⟩ := write_spec hdir hx.toIsName hwrite
    obtain ⟨hframe', htexts⟩ := ih (hdir.of_frame hframe)
      (fun f hf => hnames f (List.mem_cons_of_mem _ hf)) later hrest
    constructor
    · refine (hframe.mono fun m hm => ?_).trans (hframe'.mono fun m hm => ?_)
      · exact ⟨e, List.mem_cons_self, x, hx.ending, hpath, hm⟩
      · obtain ⟨f, hf, hm⟩ := hm
        exact ⟨f, List.mem_cons_of_mem _ hf, hm⟩
    · intro f hf y hy hfile
      rcases List.mem_cons.1 hf with rfl | hf
      · obtain rfl := Path.file_inj hx.toIsName hy (hpath.symm.trans hfile)
        rw [hframe'.files _ ?_, htext]
        -- No later file is written to the same place, since its path is another one.
        rintro ⟨g, hg, z, -, hother, heq⟩
        obtain ⟨-, rfl⟩ := Location.child_inj.1 heq
        have hlt := first g hg
        rw [hpath, hother, Std.ReflOrd.compare_self] at hlt
        cases hlt
      · exact htexts f hf y hy hfile

/-! ## Reading -/

theorem read_congr {t t' : FileTree} {p : Path} {x : String} (h : t.find p = .ok (t.entry l x))
    (h' : t'.find p = .ok (t'.entry l x)) (hsame : t'.file? (l.child x) = t.file? (l.child x))
    (hsome : (t.file? (l.child x)).isSome = true) : t'.read p = t.read p := by
  obtain ⟨content, hcontent⟩ := Option.isSome_iff_exists.1 hsome
  have hget := FileTree.file?_eq_some_iff.1 hcontent
  have hget' := FileTree.file?_eq_some_iff.1 (hsame.trans hcontent)
  rw [FileTree.read_entry h, FileTree.read_entry h', hget, hget']

theorem readSources_filter (files : List Path) :
    readSources files = readSources (files.filter fun file => !file.isGenerated) := by
  induction files with
  | nil => rfl
  | cons file rest ih =>
    rw [List.filter_cons]
    cases hgen : file.isGenerated with
    | true => rw [readSources_cons_of_isGenerated hgen, ih, Bool.not_true, if_neg Bool.false_ne_true]
    | false => rw [Bool.not_false, if_pos rfl, readSources, ih, readSources]

variable {dry dry' : Bool} {tools' : Toolchain} {d₁ : Disk} {sources : List SourceFile}

theorem runs_readSources_congr {files : List Path}
    (hsame : ∀ file ∈ files, d'.tree.read file = d.tree.read file)
    (h : (readSources files).Runs (host dry tools) d (.ok sources) d₁) :
    (readSources files).Runs (host dry' tools') d' (.ok sources) d' ∧ d₁ = d := by
  induction files generalizing sources with
  | nil =>
    obtain ⟨hresult, rfl⟩ := runs_pure_iff.1 h
    exact ⟨runs_pure_iff.2 ⟨hresult, rfl⟩, rfl⟩
  | cons file rest ih =>
    have hrest := fun f hf => hsame f (List.mem_cons_of_mem _ hf)
    cases hgen : file.isGenerated with
    | true =>
      rw [readSources_cons_of_isGenerated hgen] at h ⊢
      exact ih hrest h
    | false =>
      obtain ⟨text, d₂, more, hread, hmore, rfl⟩ := (runs_readSources_cons_ok_iff hgen).1 h
      have hanswer : ((d.tree.read file).mapError (StoreError.read file), d) = (.ok text, d₂) :=
        hread
      obtain ⟨htext, rfl⟩ := Prod.ext_iff.1 hanswer
      have hread' : (host dry' tools').answer (.read file) d' = (.ok text, d') := by
        change ((d'.tree.read file).mapError (StoreError.read file), d') = _
        rw [hsame file List.mem_cons_self]
        exact Prod.ext htext rfl
      obtain ⟨hmore', rfl⟩ := ih hrest hmore
      exact ⟨(runs_readSources_cons_ok_iff hgen).2 ⟨text, d', more, hread', hmore', rfl⟩, rfl⟩

/-- The names of the files in a directory that are read. -/
def sourceNames (t : FileTree) (l : Location) : List String :=
  (Glob.namesEnding t l ".rs").filter fun x => !Naming.generatedSuffix.toList.isSuffixOf x.toList

theorem mem_sourceNames {t : FileTree} {x : String} : x ∈ sourceNames t l ↔
    ".rs".toList <:+ x.toList ∧ ¬EndsGenerated x ∧ (t.file? (l.child x)).isSome = true := by
  simp only [sourceNames, Glob.namesEnding, List.mem_filter, Bool.and_eq_true, Bool.not_eq_true',
    ← Bool.not_eq_true, List.isSuffixOf_iff_suffix]
  constructor
  · rintro ⟨⟨-, hending, hfile⟩, hgen⟩
    exact ⟨hending, hgen, hfile⟩
  · rintro ⟨hending, hgen, hfile⟩
    obtain ⟨content, hcontent⟩ := Option.isSome_iff_exists.1 hfile
    exact ⟨⟨FileTree.mem_names_of_file? hcontent, hending, hfile⟩, hgen⟩

theorem sourceNames_congr {t t' : FileTree}
    (hsame : ∀ x, ".rs".toList <:+ x.toList → ¬EndsGenerated x →
      t'.file? (l.child x) = t.file? (l.child x)) : sourceNames t' l = sourceNames t l := by
  rw [sourceNames, sourceNames, Glob.namesEnding, Glob.namesEnding, List.filter_filter,
    List.filter_filter]
  refine FileTree.filter_names_congr fun x => ?_
  have hmem (t : FileTree) := mem_sourceNames (l := l) (t := t) (x := x)
  simp only [sourceNames, Glob.namesEnding, List.filter_filter, List.mem_filter] at hmem
  rw [hmem, hmem]
  constructor
  · rintro ⟨hending, hgen, hfile⟩
    exact ⟨hending, hgen, hsame x hending hgen ▸ hfile⟩
  · rintro ⟨hending, hgen, hfile⟩
    exact ⟨hending, hgen, (hsame x hending hgen).symm ▸ hfile⟩

theorem readSources_below {t : FileTree} (named : t.IsNamed) (hreach : Glob.Reaches t l dir q) :
    readSources ((Glob.namesEnding t l ".rs").map (Glob.below q)) =
      readSources ((sourceNames t l).map (Glob.below q)) := by
  rw [readSources_filter, List.filter_map]
  congr 2
  refine List.filter_congr fun x hx => ?_
  rw [Function.comp_apply, hreach.isGenerated_below (Glob.isName_of_mem_namesEnding named hx)]

/-- What is read of a directory is given by its hand-authored files. -/
theorem runs_scan_congr (named : d.tree.IsNamed) (named' : d'.tree.IsNamed)
    (hdir : d.tree.Addresses dir l) (hdir' : d'.tree.Addresses dir l)
    (hsame : ∀ x, ".rs".toList <:+ x.toList → ¬EndsGenerated x →
      d'.tree.file? (l.child x) = d.tree.file? (l.child x))
    (h : (scan dir).Runs (host dry tools) d (.ok sources) d₁) :
    (scan dir).Runs (host dry' tools') d' (.ok sources) d' ∧ d₁ = d := by
  obtain ⟨answer, d₂, hlist, h⟩ := runs_bind_iff.1 h
  have hanswer : (Glob.list d.tree dir sourcePattern, d) = (answer, d₂) := runs_ask_iff.1 hlist
  rw [Glob.list_eq named hdir endsLike_sourcePattern] at hanswer
  obtain ⟨rfl, rfl⟩ := Prod.ext_iff.1 hanswer
  have hlist' : (ask (.list dir sourcePattern)).Runs (host dry' tools') d' _ d' :=
    runs_ask_iff.2 rfl
  rw [Glob.list_eq named' hdir' endsLike_sourcePattern] at hlist'
  cases hstuck : Glob.isStuck dir with
  | true =>
    rw [hstuck] at h hlist'
    obtain ⟨hresult, rfl⟩ := runs_pure_iff.1 h
    exact ⟨runs_bind_iff.2 ⟨_, _, hlist', runs_pure_iff.2 ⟨hresult, rfl⟩⟩, rfl⟩
  | false =>
    rw [hstuck] at h hlist'
    have hreach := (Glob.reaches (Glob.find_of_addresses hdir hstuck)).2 hstuck
    have hreach' := (Glob.reaches (Glob.find_of_addresses hdir' hstuck)).2 hstuck
    rw [if_neg Bool.false_ne_true] at h hlist'
    have h : (readSources ((sourceNames d.tree l).map (Glob.below (Glob.reach dir)))).Runs
        (host dry tools) d (.ok sources) d₁ := readSources_below named hreach ▸ h
    have hread : (readSources ((sourceNames d'.tree l).map (Glob.below (Glob.reach dir)))).Runs
        (host dry' tools') d' (.ok sources) d' ∧ d₁ = d := by
      rw [sourceNames_congr hsame]
      refine runs_readSources_congr (fun file hfile => ?_) h
      obtain ⟨x, hx, rfl⟩ := List.mem_map.1 hfile
      have hname := Glob.isName_of_mem_namesEnding named (List.mem_filter.1 hx).1
      obtain ⟨hending, hgen, hsome⟩ := mem_sourceNames.1 hx
      exact read_congr (hreach.below hname).1 (hreach'.below hname).1 (hsame x hending hgen) hsome
    rw [← readSources_below named' hreach'] at hread
    exact ⟨runs_bind_iff.2 ⟨_, _, hlist', hread.1⟩, hread.2⟩

end Disk

end ContentModels
