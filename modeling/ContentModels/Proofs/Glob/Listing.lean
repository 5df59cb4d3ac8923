import ContentModels.Glob.Search
import ContentModels.Proofs.FileTree.Frame
import ContentModels.Proofs.FileTree.Walk

/-!
# What listings give

The steps of a search that lead to the directory are plain names, so the search follows one path.
That path leads to the directory, but it need not be written like it: a dot at the start gets lost,
and an empty step behind such dots leads nowhere.

## Main definitions

* `Glob.EndsLike` — patterns that ask for an ending.
* `Glob.follow`, `Glob.reach` — the path that a search follows to a directory.
* `Glob.isStuck` — whether it leads nowhere.
* `Glob.dropsDot` — whether it is written without the dot that the directory starts with.

## Main statements

* `Glob.list_eq` — what the listing of a directory gives.
* `Glob.Reaches.below`, `Glob.Reaches.contains_below_iff` — where the listed paths lead, what they
  are made of, and whether they count as files of the directory.
-/

namespace ContentModels.Glob

open Text

variable {t : FileTree} {l m : Location} {p dir : Path} {names : List (List Char)}

/-! ## Patterns -/

theorem literal?_map_char (cs : List Char) : literal? (cs.map .char) = some cs := by
  induction cs with
  | nil => rfl
  | cons c cs ih => simp [literal?, ih]

theorem matchesName_map_char (cs name : List Char) :
    matchesName (cs.map .char) name = true ↔ name = cs := by
  induction cs generalizing name with
  | nil => simp [matchesName]
  | cons c cs ih =>
    cases name with
    | nil => simp [matchesName, Token.repeats]
    | cons d name => simp [matchesName, Token.repeats, Token.stands, ih]

/-- A star is matched by whatever stands before an ending. -/
theorem matchesName_anyChars (ending name : List Char) :
    matchesName (.anyChars :: ending.map .char) name = true ↔ ending <:+ name := by
  induction name with
  | nil =>
    rw [matchesName, Token.repeats, Bool.true_and, matchesName_map_char, List.suffix_nil]
    exact eq_comm
  | cons c name ih =>
    have hrepeats : Token.repeats .anyChars = true := rfl
    rw [matchesName, if_pos hrepeats, Bool.or_eq_true, ih, matchesName_map_char,
      List.suffix_cons_iff]
    exact or_congr_left eq_comm

/-- A pattern asks for an ending without special characters. -/
structure EndsLike (pattern ending : String) : Prop where
  eq : pattern.toList = '*' :: ending.toList
  plain : ∀ c ∈ ending.toList, c ∉ ['?', '*', '[', '/']
  ne_nil : ending.toList ≠ []

theorem parse_of_plain {cs : List Char} (h : ∀ c ∈ cs, c ∉ ['?', '*', '[', '/'])
    (before : Option Char) (pos : Nat) : parse before pos cs = .ok (cs.map .char) := by
  induction cs generalizing before pos with
  | nil => rw [parse, List.map_nil]
  | cons c cs ih =>
    have hc := h c List.mem_cons_self
    simp only [List.mem_cons, List.not_mem_nil, or_false, not_or] at hc
    rw [parse, ih fun d hd => h d (List.mem_cons_of_mem _ hd)]
    · rfl
    all_goals simp_all

theorem EndsLike.parse {pattern ending : String} (h : EndsLike pattern ending)
    (before : Option Char) (pos : Nat) :
    parse before pos pattern.toList = .ok (.anyChars :: ending.toList.map .char) := by
  rw [h.eq, Glob.parse, parse_of_plain h.plain]
  · rfl
  all_goals
    intro rest hrest
    have := h.plain '*' (by simp [hrest])
    simp at this

theorem EndsLike.patternSteps {pattern ending : String} (h : EndsLike pattern ending) (pos : Nat) :
    patternSteps pos pattern.toList = .ok [.anyChars :: ending.toList.map .char] := by
  have hsep : '/' ∉ pattern.toList := by
    rw [h.eq, List.mem_cons, not_or]
    exact ⟨by decide, fun hmem => by simpa using h.plain _ hmem⟩
  have hsteps : steps pattern.toList = [pattern.toList] := by
    rw [steps, pieces_of_not_mem hsep, h.eq]
    rfl
  rw [Glob.patternSteps, hsteps, h.parse, List.mapM_cons, h.parse]
  rfl

theorem EndsLike.getLast? {pattern ending : String} (h : EndsLike pattern ending)
    (cs : List Char) : (cs ++ '/' :: pattern.toList).getLast? ≠ some '/' := by
  intro hlast
  have hne := h.ne_nil
  rw [h.eq, List.getLast?_append_of_ne_nil _ (by simp), List.getLast?_cons_cons,
    List.getLast?_cons_of_ne_nil hne] at hlast
  have := h.plain '/' (List.mem_of_getLast? hlast)
  simp at this

/-! ## Plain steps -/

/-- Where names lead one after the other. -/
def follow (p : Path) (names : List (List Char)) : Path :=
  names.foldl (fun p name => below p (String.ofList name)) p

/-- Whether every one of some names leads on. -/
def leadsAlong (t : FileTree) (p : Path) : List (List Char) → Bool
  | [] => true
  | name :: rest =>
    leadsOn t p (String.ofList name) && leadsAlong t (below p (String.ofList name)) rest

/-- Plain steps are followed, as long as they lead on. -/
theorem search_names (t : FileTree) (levels : Nat) (p : Path) (names : List (List Char))
    (rest : List (List Token)) :
    search t levels levels (names.map (·.map .char) ++ rest) p =
      if leadsAlong t p names then search t levels levels rest (follow p names) else [] := by
  induction names generalizing p with
  | nil => simp [leadsAlong, follow]
  | cons name names ih =>
    rw [List.map_cons, List.cons_append, search]
    simp only [literal?_map_char]
    rw [ih, leadsAlong]
    cases leadsOn t p (String.ofList name) <;> rfl

/-- The last step gives the files of a directory with an ending. -/
theorem search_ending (t : FileTree) (levels : Nat) (ending : List Char) (p : Path) :
    search t levels levels [.anyChars :: ending.map .char] p =
      ((namesIn t p).filter fun x => ending.isSuffixOf x.toList && t.isFile (below p x)).map
        (below p) := by
  have hdeep : isDeep (.anyChars :: ending.map .char) = false := by simp [isDeep]
  have hdots : dotNames (.anyChars :: ending.map .char) = [] := by simp [dotNames]
  rw [search]
  simp only [literal?, hdeep, hdots, ite_self]
  rw [if_neg Bool.false_ne_true, List.flatMap_nil, List.nil_append]
  induction namesIn t p with
  | nil => rfl
  | cons x names ih =>
    have hmatch : matchesName (.anyChars :: ending.map .char) x.toList =
        ending.isSuffixOf x.toList := by
      rw [Bool.eq_iff_iff, matchesName_anyChars, List.isSuffixOf_iff_suffix]
    rw [List.flatMap_cons, ih, List.filter_cons, hmatch, search]
    cases ending.isSuffixOf x.toList <;> cases t.isFile (below p x) <;> rfl

/-! ## The way to a directory -/

theorem isHere_iff : isHere p = true ↔ p.components = [.current] := by
  have hdot : Path.components ⟨"."⟩ = [.current] := by decide
  rw [isHere, Path.same, hdot, beq_iff_eq]

theorem below_eq_file (h : p.opensWithDot = false) (x : String) : below p x = p.file x := by
  refine if_neg fun hhere => ?_
  have hdot : p.opensWithDot = true :=
    Path.opensWithDot_of_current_mem (by simp [isHere_iff.1 hhere])
  simp [h] at hdot

/-- Names lead along every walk to a directory, unless it starts with a dot. -/
theorem follow_of_walk (hfind : t.find p = .ok (.node l .dir)) (hdot : p.opensWithDot = false)
    (hnames : ∀ name ∈ names, '/' ∉ name) (hwalk : t.walk l names = .ok (.node m .dir)) :
    leadsAlong t p names = true ∧ t.find (follow p names) = .ok (.node m .dir) ∧
      (follow p names).opensWithDot = false ∧
      (follow p names).components = p.components ++ (names.filter Path.counts).map Path.ofPiece := by
  induction names generalizing p l with
  | nil =>
    obtain rfl : l = m := by simpa [FileTree.walk] using hwalk
    exact ⟨rfl, hfind, hdot, by simp [follow]⟩
  | cons name names ih =>
    obtain ⟨next, htoward, hrest⟩ := FileTree.exists_toward hwalk
    have hp := FileTree.chars_ne_nil_of_find hfind
    have hsep : '/' ∉ (String.ofList name).toList := by
      rw [String.toList_ofList]
      exact hnames name List.mem_cons_self
    have hnext : t.find (p.file (String.ofList name)) = .ok (.node next .dir) := by
      rw [FileTree.find_piece hfind hsep, String.toList_ofList,
        FileTree.walk_cons_of_toward htoward, FileTree.walk]
    have hbelow := below_eq_file hdot (String.ofList name)
    have hleads : leadsOn t p (String.ofList name) = true := by
      unfold leadsOn
      split
      · exact FileTree.isDir_iff.2 ⟨l, hfind⟩
      · rw [hbelow, FileTree.exists?, FileTree.node?, hnext]
        rfl
    have hdot' : (p.file (String.ofList name)).opensWithDot = false := by
      rw [Path.opensWithDot_file hp hsep, hdot]
    obtain ⟨halong, hfind', hdots, hcomponents⟩ := ih hnext hdot'
      (fun piece hpiece => hnames piece (List.mem_cons_of_mem _ hpiece)) hrest
    have hfollow : follow p (name :: names) = follow (p.file (String.ofList name)) names := by
      rw [← hbelow]
      rfl
    rw [hfollow]
    refine ⟨?_, hfind', hdots, ?_⟩
    · rw [leadsAlong, hleads, hbelow, halong]
      rfl
    · rw [hcomponents, Path.components_file_piece hp hsep, String.toList_ofList, List.append_assoc,
        ← List.map_append, ← List.filter_append, List.singleton_append]

/-- The names that a search for a directory follows. -/
def dirNames (dir : Path) : List (List Char) :=
  pieces '/' (if dir.isAbsolute then dir.chars.drop 1 else dir.chars)

/-- Where a search for a directory starts. -/
def startOf (dir : Path) : Path := if dir.isAbsolute then ⟨"/"⟩ else ⟨"."⟩

/-- The path that a search for a directory ends at. -/
def reach (dir : Path) : Path := follow (startOf dir) (dirNames dir)

/-- Whether a search for a directory gets stuck at an empty step behind dots. -/
def isStuck (dir : Path) : Bool :=
  !dir.isAbsolute && ((dirNames dir).dropWhile (· == ['.'])).head? == some []

/-- Whether a search for a directory finds it without the dot that it starts with. -/
def dropsDot (dir : Path) : Bool := dir.opensWithDot && !isStuck dir

/-- What the paths of files that a search finds start with. -/
def listedComponents (dir : Path) : List Component :=
  if dropsDot dir then dir.components.tail else dir.components

theorem isStuck_of_chars_nil (h : dir.chars = []) : isStuck dir = true := by
  simp [isStuck, Path.isAbsolute, dirNames, h, pieces]

/-- A search that does not get stuck starts out for a directory that its path leads to. -/
theorem find_of_addresses (h : t.Addresses dir l) (hstuck : isStuck dir = false) :
    t.find dir = .ok (.node l .dir) := by
  refine h.resolve_right fun hempty => ?_
  rw [isStuck_of_chars_nil hempty.1] at hstuck
  cases hstuck

theorem find_here (t : FileTree) : t.find ⟨"."⟩ = .ok (.node t.here .dir) := rfl

theorem find_root (t : FileTree) : t.find ⟨"/"⟩ = .ok (.node .root .dir) := rfl

/-- Dots at the start are followed, and change nothing. -/
theorem follow_dots (t : FileTree) (names : List (List Char)) :
    leadsAlong t ⟨"."⟩ names = leadsAlong t ⟨"."⟩ (names.dropWhile (· == ['.'])) ∧
      follow ⟨"."⟩ names = follow ⟨"."⟩ (names.dropWhile (· == ['.'])) := by
  induction names with
  | nil => exact ⟨rfl, rfl⟩
  | cons name names ih =>
    rw [List.dropWhile_cons]
    split
    · next hname =>
      obtain rfl := beq_iff_eq.1 hname
      have hdot : String.ofList ['.'] = "." := by decide
      have hbelow : below ⟨"."⟩ "." = ⟨"."⟩ := by decide
      have hdir : t.isDir ⟨"."⟩ = true := FileTree.isDir_iff.2 ⟨t.here, find_here t⟩
      constructor
      · rw [leadsAlong, hdot, hbelow, ← ih.1, leadsOn, if_pos (.inl rfl), hdir, Bool.true_and]
      · rw [← ih.2, follow, List.foldl_cons, hdot, hbelow, follow]
    · exact ⟨rfl, rfl⟩

theorem filter_dropWhile_dots (names : List (List Char)) :
    (names.dropWhile (· == ['.'])).filter Path.counts = names.filter Path.counts := by
  induction names with
  | nil => rfl
  | cons name names ih =>
    rw [List.dropWhile_cons]
    split
    · next hname =>
      obtain rfl := beq_iff_eq.1 hname
      rw [ih, List.filter_cons_of_neg (by decide)]
    · rfl

/-- A directory that is found is reached, and the path that reaches it tells how the files below it
are listed. -/
structure Reaches (t : FileTree) (l : Location) (dir q : Path) : Prop where
  find : t.find q = .ok (.node l .dir)
  components : isHere q = true ∧ listedComponents dir = [] ∨
    q.opensWithDot = false ∧ q.components = listedComponents dir

/-- The first name that is no dot leads away from where the search starts. -/
theorem follow_of_counts {name : List Char} (hc : Path.counts name = true)
    (hnames : ∀ piece ∈ name :: names, '/' ∉ piece)
    (hwalk : t.walk t.here (name :: names) = .ok (.node l .dir)) :
    leadsAlong t ⟨"."⟩ (name :: names) = true ∧
      t.find (follow ⟨"."⟩ (name :: names)) = .ok (.node l .dir) ∧
      (follow ⟨"."⟩ (name :: names)).opensWithDot = false ∧
      (follow ⟨"."⟩ (name :: names)).components =
        ((name :: names).filter Path.counts).map Path.ofPiece := by
  obtain ⟨next, htoward, hrest⟩ := FileTree.exists_toward hwalk
  have hlist : (String.ofList name).toList = name := String.toList_ofList
  have hsep : '/' ∉ (String.ofList name).toList := by
    rw [hlist]
    exact hnames name List.mem_cons_self
  have hc' : Path.counts (String.ofList name).toList = true := by rwa [hlist]
  have hdot := Path.opensWithDot_of_piece hsep hc'
  have hcomponents := Path.components_of_piece hsep hc'
  have hne : (⟨String.ofList name⟩ : Path).chars ≠ [] := by
    rintro hnil
    rw [show (String.ofList name).toList = [] from hnil] at hc'
    cases hc'
  have hfind : t.find ⟨String.ofList name⟩ = .ok (.node next .dir) := by
    have hpieces : (⟨String.ofList name⟩ : Path).allPieces = [name] := by
      rw [Path.allPieces, Path.chars, pieces_of_not_mem hsep, hlist]
    rw [FileTree.find_eq hne, hpieces, FileTree.start, Path.isAbsolute_of_noSeparator hsep,
      if_neg Bool.false_ne_true, FileTree.walk_cons_of_toward htoward, FileTree.walk]
  have hbelow : below ⟨"."⟩ (String.ofList name) = ⟨String.ofList name⟩ := rfl
  obtain ⟨halong, hfound, hdots, hall⟩ := follow_of_walk hfind hdot
    (fun piece hpiece => hnames piece (List.mem_cons_of_mem _ hpiece)) hrest
  refine ⟨?_, hfound, hdots, ?_⟩
  · have hleads : leadsOn t ⟨"."⟩ (String.ofList name) = true := by
      unfold leadsOn
      split
      · exact FileTree.isDir_iff.2 ⟨t.here, find_here t⟩
      · rw [hbelow, FileTree.exists?, FileTree.node?, hfind]
        rfl
    rw [leadsAlong, hleads, hbelow, halong]
    rfl
  · have hfollow : follow ⟨"."⟩ (name :: names) = follow ⟨String.ofList name⟩ names := rfl
    rw [hfollow, hall, hcomponents, hlist, List.filter_cons_of_pos hc]
    rfl

theorem reaches_absolute (hfind : t.find dir = .ok (.node l .dir))
    (ha : dir.isAbsolute = true) :
    leadsAlong t (startOf dir) (dirNames dir) = true ∧ Reaches t l dir (reach dir) := by
  have hbody : dirNames dir = dir.bodyPieces := by
    simp [dirNames, Path.bodyPieces, Path.headLength, ha]
  have hdot : dir.opensWithDot = false := by
    obtain ⟨r, hr⟩ := Path.isAbsolute_iff.1 ha
    simp [Path.opensWithDot, hr]
  have hwalk : t.walk .root (dirNames dir) = .ok (.node l .dir) := by
    simpa [FileTree.find, FileTree.chars_ne_nil_of_find hfind, ha, hbody] using hfind
  have hnames : ∀ piece ∈ dirNames dir, '/' ∉ piece := fun _ hpiece => not_mem_of_mem_pieces hpiece
  obtain ⟨halong, hfound, hdots, hall⟩ := follow_of_walk (find_root t) rfl hnames hwalk
  have hstart : startOf dir = ⟨"/"⟩ := if_pos ha
  have hroot : Path.components ⟨"/"⟩ = [.root] := by decide
  rw [reach, hstart]
  refine ⟨halong, hfound, .inr ⟨hdots, ?_⟩⟩
  rw [hall, hroot, hbody, listedComponents, dropsDot, hdot, Path.components_eq_opening,
    Path.opening, if_pos ha]
  rfl

theorem listedComponents_relative (ha : ¬dir.isAbsolute = true) (hstuck : isStuck dir = false) :
    listedComponents dir =
      ((dir.allPieces.dropWhile (· == ['.'])).filter Path.counts).map Path.ofPiece := by
  rw [filter_dropWhile_dots, listedComponents, dropsDot, hstuck, Path.components_eq, Path.opening,
    if_neg ha]
  cases dir.opensWithDot <;> rfl

theorem reaches_relative (hfind : t.find dir = .ok (.node l .dir))
    (ha : ¬dir.isAbsolute = true) :
    leadsAlong t (startOf dir) (dirNames dir) = !isStuck dir ∧
      (isStuck dir = false → Reaches t l dir (reach dir)) := by
  have hpieces : dirNames dir = dir.allPieces := by simp [dirNames, Path.allPieces, ha]
  have hstart : startOf dir = ⟨"."⟩ := if_neg ha
  have hlisted := listedComponents_relative ha
  have hstuck : isStuck dir = ((dir.allPieces.dropWhile (· == ['.'])).head? == some []) := by
    simp [isStuck, ha, hpieces]
  have hwalk : t.walk t.here (dir.allPieces.dropWhile (· == ['.'])) = .ok (.node l .dir) := by
    rw [FileTree.find_eq (FileTree.chars_ne_nil_of_find hfind), FileTree.start, if_neg ha,
      FileTree.walk_filter] at hfind
    rwa [FileTree.walk_filter, filter_dropWhile_dots]
  have hnames : ∀ piece ∈ dir.allPieces.dropWhile (· == ['.']), '/' ∉ piece :=
    fun _ hpiece => not_mem_of_mem_pieces ((List.dropWhile_suffix _).subset hpiece)
  have hhead := List.head?_dropWhile_not (· == ['.']) dir.allPieces
  obtain ⟨halong, hfollow⟩ := follow_dots t dir.allPieces
  rw [hstuck] at hlisted ⊢
  rw [hstart, hpieces, halong, reach, hstart, hpieces, hfollow]
  -- The rest is about what is left behind the dots at the start: nothing, an empty step, or a name.
  generalize dir.allPieces.dropWhile (· == ['.']) = rest at *
  rcases rest with _ | ⟨name, rest⟩
  · obtain rfl : t.here = l := by simpa [FileTree.walk] using hwalk
    exact ⟨rfl, fun _ => ⟨find_here t, .inl ⟨by decide, hlisted rfl⟩⟩⟩
  by_cases hname : name = []
  · subst hname
    refine ⟨?_, fun hfalse => by cases hfalse⟩
    rw [leadsAlong]
    rfl
  · have hc : Path.counts name = true := by
      have hdot : name ≠ ['.'] := by simpa using hhead
      simp [Path.counts, hname, hdot]
    have hnot : ((name :: rest).head? == some []) = false := by simpa using hname
    obtain ⟨hleads, hfound, hdots, hall⟩ := follow_of_counts hc hnames hwalk
    rw [hnot, hleads]
    exact ⟨rfl, fun _ => ⟨hfound, .inr ⟨hdots, by rw [hall, hlisted hnot]⟩⟩⟩

/-- A search follows the way to a directory unless it gets stuck. -/
theorem reaches (hfind : t.find dir = .ok (.node l .dir)) :
    leadsAlong t (startOf dir) (dirNames dir) = !isStuck dir ∧
      (isStuck dir = false → Reaches t l dir (reach dir)) := by
  by_cases ha : dir.isAbsolute = true
  · obtain ⟨halong, hreaches⟩ := reaches_absolute hfind ha
    have hstuck : isStuck dir = false := by simp [isStuck, ha]
    rw [halong, hstuck]
    exact ⟨rfl, fun _ => hreaches⟩
  · exact reaches_relative hfind ha

/-! ## Listings -/

variable {q : Path} {x : String}

theorem Reaches.below_here (h : Reaches t l dir q) (hhere : isHere q = true)
    (hx : Path.IsName x) : t.find (below q x) = .ok (t.entry l x) ∧
      (below q x).components = [.name x] := by
  have hbelow : below q x = ⟨x⟩ := if_pos hhere
  have hcomponents : Path.components ⟨"."⟩ = q.components := by rw [isHere_iff.1 hhere]; decide
  have hl := FileTree.find_of_components h.find (by decide) hcomponents
  obtain rfl : t.here = l := by simpa [find_here] using hl
  rw [hbelow, Path.components_name hx]
  exact ⟨FileTree.find_name hx, rfl⟩

/-- Where the path that is listed for a file leads, and what it is made of. -/
theorem Reaches.below (h : Reaches t l dir q) (hx : Path.IsName x) :
    t.find (below q x) = .ok (t.entry l x) ∧
      (Glob.below q x).components = listedComponents dir ++ [.name x] := by
  rcases h.components with ⟨hhere, hlisted⟩ | ⟨hdot, hlisted⟩
  · rw [hlisted]
    exact h.below_here hhere hx
  · rw [below_eq_file hdot, Path.components_file _ hx, hlisted]
    exact ⟨FileTree.find_file h.find hx, rfl⟩

/-- A file that is listed counts as one of the files of a directory, unless the listing drops the
dot that the directory starts with. -/
theorem Reaches.contains_below_iff (h : Reaches t l dir q) (hx : Path.IsName x)
    {files : SortedMap Path String}
    (hfiles : ∀ e ∈ files.entries, ∃ y, Path.IsName y ∧ e.1 = dir.file y) :
    files.contains (Glob.below q x) = true ↔
      dropsDot dir = false ∧ ∃ e ∈ files.entries, e.1 = dir.file x := by
  have hcomponents := (h.below hx).2
  rw [SortedMap.contains_eq_true_iff]
  constructor
  · rintro ⟨k, hk, hcompare⟩
    obtain ⟨text, he⟩ := SortedMap.mem_keys.1 hk
    obtain ⟨y, hy, hpath⟩ := hfiles _ he
    obtain rfl : k = dir.file y := hpath
    rw [Path.compare_eq_iff, hcomponents, Path.components_file _ hy] at hcompare
    have hdrops : dropsDot dir = false := by
      by_contra hdrops
      rw [Bool.not_eq_false] at hdrops
      have hlength := congrArg List.length hcompare
      have hdot : dir.opensWithDot = true := (Bool.and_eq_true_iff.1 hdrops).1
      have hpos := List.length_pos_iff.2 (Path.components_ne_nil_of_opensWithDot hdot)
      simp [listedComponents, hdrops] at hlength
      omega
    obtain rfl : x = y := by simpa [listedComponents, hdrops] using hcompare
    exact ⟨hdrops, _, he, rfl⟩
  · rintro ⟨hdrops, e, he, hpath⟩
    refine ⟨e.1, SortedMap.mem_keys.2 ⟨e.2, he⟩, Path.compare_eq_iff.2 ?_⟩
    rw [hcomponents, hpath, Path.components_file _ hx, listedComponents, hdrops]
    rfl

theorem Reaches.isFile_below (h : Reaches t l dir q) (hx : Path.IsName x) :
    t.isFile (Glob.below q x) = (t.file? (l.child x)).isSome := by
  rw [FileTree.isFile, FileTree.exists?, FileTree.isDir, FileTree.node?, (h.below hx).1,
    FileTree.entry, FileTree.file?]
  rcases t.get? (l.child x) with _ | _ | _ <;> rfl

/-- The names of the files in a directory with an ending. -/
def namesEnding (t : FileTree) (l : Location) (ending : String) : List String :=
  (t.names l).filter fun x =>
    ending.toList.isSuffixOf x.toList && (t.file? (l.child x)).isSome

theorem isName_of_mem_namesEnding {ending : String} (named : t.IsNamed)
    (h : x ∈ namesEnding t l ending) : Path.IsName x :=
  named l x (FileTree.mem_names.1 (List.mem_filter.1 h).1)

/-- The listing of a directory gives the files with the ending that is asked for, unless the search
gets stuck. -/
theorem list_eq_of_find {pattern ending : String} (named : t.IsNamed)
    (hfind : t.find dir = .ok (.node l .dir)) (h : EndsLike pattern ending) :
    list t dir pattern = .ok (if isStuck dir then []
      else (namesEnding t l ending).map (Glob.below (reach dir))) := by
  have hdir : t.isDir dir = true := FileTree.isDir_iff.2 ⟨l, hfind⟩
  have hsteps : dirSteps dir = (dirNames dir).map (·.map .char) := rfl
  have hstart : (if dir.isAbsolute then (⟨"/"⟩ : Path) else ⟨"."⟩) = startOf dir := rfl
  obtain ⟨halong, hreaches⟩ := reaches hfind
  rw [list, hdir, if_neg (by decide)]
  simp only [h.patternSteps]
  rw [if_neg (by simpa using h.getLast? (escaped dir.chars)), hsteps, hstart, search_names, halong]
  cases hstuck : isStuck dir with
  | true => simp
  | false =>
    have hr := hreaches hstuck
    have hnames : namesIn t (reach dir) = t.names l := by rw [namesIn, hr.find]
    have hfilter : ((t.names l).filter fun x => ending.toList.isSuffixOf x.toList &&
        t.isFile (Glob.below (reach dir) x)) = namesEnding t l ending := by
      refine List.filter_congr fun x hx => ?_
      rw [hr.isFile_below (named l x (FileTree.mem_names.1 hx))]
    have hreach : follow (startOf dir) (dirNames dir) = reach dir := rfl
    rw [Bool.not_false, if_pos rfl, if_neg Bool.false_ne_true, hreach, search_ending, hnames,
      hfilter]
    refine congrArg Except.ok (List.mergeSort_of_pairwise ?_)
    rw [List.pairwise_map]
    refine ((t.pairwise_names l).sublist List.filter_sublist).imp_of_mem fun {x y} hx hy hlt => ?_
    have hx' := isName_of_mem_namesEnding named hx
    have hy' := isName_of_mem_namesEnding named hy
    rw [Path.compare_of_components (hr.below hx').2 (hr.below hy').2, hlt]
    rfl

/-- The same is true of the empty path, for which nothing is listed. -/
theorem list_eq {pattern ending : String} (named : t.IsNamed) (h : t.Addresses dir l)
    (hends : EndsLike pattern ending) :
    list t dir pattern = .ok (if isStuck dir then []
      else (namesEnding t l ending).map (Glob.below (reach dir))) := by
  rcases h with hfind | ⟨hempty, -⟩
  · exact list_eq_of_find named hfind hends
  · have hdir : t.isDir dir = false := by simp [FileTree.isDir, FileTree.node?, FileTree.find, hempty]
    rw [isStuck_of_chars_nil hempty, list, hdir]
    rfl

end ContentModels.Glob
