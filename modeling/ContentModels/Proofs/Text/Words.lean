import ContentModels.Naming
import ContentModels.Proofs.Text.Pieces

/-!
# Words of plain text

Plain text is what identifiers are made of: letters and digits of ASCII, and underscores. Each of
its characters stands on its own, and a change of case works character by character, so that the two
styles of names can be told from their words without regard to the tables for other text.

## Main definitions

* `IsPlain` — the text holds nothing but characters of identifiers.

## Main statements

* `words_of_plain` — each character of a plain text is a cluster.
* `small_of_mem_snake`, `snake_cons` — what `snake_case` is made of and how it starts.
* `alphanum_of_mem_pascal`, `head_pascal` — the same for `PascalCase`.
-/

namespace ContentModels.Text

open Naming

/-! ## Characters -/

/-- What holds of all 128 codes holds of every character of ASCII. -/
theorem ascii_forall {P : Char → Prop} [DecidablePred P] (h : ∀ n < 0x80, P (Char.ofNat n))
    {c : Char}
    (hc : c.toNat < 0x80) : P c := by
  simpa using h c.toNat hc

/-- Capital letters of ASCII, small ones, digits and the underscore. -/
theorem toNat_of_isIdentifierChar {c : Char} (h : isIdentifierChar c = true) :
    65 ≤ c.toNat ∧ c.toNat ≤ 90 ∨ 97 ≤ c.toNat ∧ c.toNat ≤ 122 ∨ 48 ≤ c.toNat ∧ c.toNat ≤ 57 ∨
      c.toNat = 95 := by
  rw [isIdentifierChar, Bool.or_eq_true, beq_iff_eq] at h
  rcases h with rfl | h
  · decide
  · change (decide (65 ≤ c.val ∧ c.val ≤ 90) ||
      (decide (97 ≤ c.val) && decide (c.val ≤ 122)) ||
      (decide (48 ≤ c.val) && decide (c.val ≤ 57))) = true at h
    simp only [Bool.or_eq_true, Bool.and_eq_true, decide_eq_true_eq, UInt32.le_iff_toNat_le] at h
    change ((65 ≤ c.toNat ∧ c.toNat ≤ 90) ∨ (97 ≤ c.toNat ∧ c.toNat ≤ 122)) ∨
      (48 ≤ c.toNat ∧ c.toNat ≤ 57) at h
    omega

theorem ascii_of_isIdentifierChar {c : Char} (h : isIdentifierChar c = true) : c.toNat < 0x80 := by
  have := toNat_of_isIdentifierChar h
  omega

/-- What holds of the characters of identifiers among the 128 codes of ASCII holds of all of
them. -/
theorem plain_forall {P : Char → Prop} [DecidablePred P]
    (h : ∀ n < 0x80, isIdentifierChar (Char.ofNat n) = true → P (Char.ofNat n)) {c : Char}
    (hc : isIdentifierChar c = true) : P c :=
  ascii_forall (P := fun c => isIdentifierChar c = true → P c) h (ascii_of_isIdentifierChar hc) hc

theorem isIdentifierChar_of_isAlphanum {c : Char} (h : c.isAlphanum = true) :
    isIdentifierChar c = true := by
  simp [isIdentifierChar, h]

/-- Whether a character may stand in a name in `snake_case`. -/
def isSmallChar (c : Char) : Bool := isIdentifierChar c && !c.isUpper

/-- What changes of case make of the characters of identifiers. -/
theorem case_of_plain {c : Char} (h : isIdentifierChar c = true) :
    isSmallChar c.toLower = true ∧ (c.isUpper = false → c.toLower = c) ∧
      c.toLower.isDigit = c.isDigit ∧ c.toLower.isAlphanum = c.isAlphanum ∧
      c.toUpper.isAlphanum = c.isAlphanum ∧
      (c.isAlphanum = true → c.toUpper.isDigit = false → c.toUpper.isUpper = true) := by
  revert c
  apply plain_forall
  decide

theorem isSmallChar_toLower {c : Char} (h : isIdentifierChar c = true) :
    isSmallChar c.toLower = true :=
  (case_of_plain h).1

theorem toLower_of_isSmallChar {c : Char} (h : isSmallChar c = true) : c.toLower = c := by
  rw [isSmallChar, Bool.and_eq_true, Bool.not_eq_true'] at h
  exact (case_of_plain h.1).2.1 h.2

theorem isDigit_toLower {c : Char} (h : isIdentifierChar c = true) :
    c.toLower.isDigit = c.isDigit :=
  (case_of_plain h).2.2.1

theorem isAlphanum_toLower {c : Char} (h : c.isAlphanum = true) : c.toLower.isAlphanum = true :=
  (case_of_plain (isIdentifierChar_of_isAlphanum h)).2.2.2.1.trans h

theorem isAlphanum_toUpper {c : Char} (h : c.isAlphanum = true) : c.toUpper.isAlphanum = true :=
  (case_of_plain (isIdentifierChar_of_isAlphanum h)).2.2.2.2.1.trans h

theorem isUpper_toUpper {c : Char} (h : c.isAlphanum = true) (hdigit : c.toUpper.isDigit = false) :
    c.toUpper.isUpper = true :=
  (case_of_plain (isIdentifierChar_of_isAlphanum h)).2.2.2.2.2 h hdigit

/-- No character of identifiers is a blank or a control character, the underscore alone separates
words, and digits and capitals are different characters. -/
theorem kind_of_plain {c : Char} (h : isIdentifierChar c = true) :
    isControl c = false ∧ isBlank c = false ∧ isSeparator [c] = (c == '_') ∧
      (c.isDigit = true → (c == '_') = false ∧ c.isAlpha = false) ∧
      (c.isUpper = true → c.isDigit = false ∧ (c == '_') = false) := by
  revert c
  apply plain_forall
  decide

/-! ## Clusters and small letters -/

/-- The text holds nothing but characters of identifiers. -/
def IsPlain (cs : List Char) : Prop := ∀ c ∈ cs, isIdentifierChar c = true

instance (cs : List Char) : Decidable (IsPlain cs) := List.decidableBAll _ cs

theorem IsPlain.notMem {cs : List Char} (h : IsPlain cs) {c : Char}
    (hc : isIdentifierChar c = false) : c ∉ cs := by
  intro hmem
  rw [h c hmem] at hc
  cases hc

theorem IsPlain.append {cs ds : List Char} (hcs : IsPlain cs) (hds : IsPlain ds) :
    IsPlain (cs ++ ds) :=
  fun c hc => (List.mem_append.1 hc).elim (hcs c) (hds c)

theorem IsPlain.of_cons {c : Char} {cs : List Char} (h : IsPlain (c :: cs)) : IsPlain cs :=
  fun d hd => h d (List.mem_cons_of_mem c hd)

/-- Characters of identifiers stand on their own. -/
theorem joins_of_plain {a b : Char} (ha : isIdentifierChar a = true)
    (hb : isIdentifierChar b = true) : joins a b = false := by
  have hacode := ascii_of_isIdentifierChar ha
  have hbcode := ascii_of_isIdentifierChar hb
  have hsign : ¬a.toNat ≥ 0x300 := by omega
  have hmark : ¬b.toNat ≥ 0x300 := by omega
  simp [joins, (kind_of_plain ha).1, (kind_of_plain hb).1, isAttachingMark, isLeadingSign, hsign, hmark]

theorem clusters_of_plain {cs : List Char} (h : IsPlain cs) : clusters cs = cs.map fun c => [c] := by
  induction cs with
  | nil => rfl
  | cons c rest ih =>
    have hrest : clusters (c :: rest) = attach c (rest.map fun c => [c]) := by
      rw [← ih h.of_cons, clusters, List.foldr_cons, clusters]
    rw [hrest]
    cases rest with
    | nil => rfl
    | cons d more => simp [attach, joins_of_plain (h c (by simp)) (h d (by simp))]

theorem toSmallAfter_of_ascii {before cs : List Char} (h : ∀ c ∈ cs, c.toNat < 0x80) :
    toSmallAfter before cs = cs.map Char.toLower := by
  induction cs generalizing before with
  | nil => rfl
  | cons c rest ih =>
    have hc : c.toNat < 0x80 := h c (by simp)
    have hsigma : c.toNat ≠ 0x3a3 := by omega
    rw [toSmallAfter, ih fun d hd => h d (List.mem_cons_of_mem c hd)]
    simp [hsigma, smallForm, hc]

/-- The change to small letters works character by character on ASCII. -/
theorem toSmall_of_ascii {cs : List Char} (h : ∀ c ∈ cs, c.toNat < 0x80) :
    toSmall cs = cs.map Char.toLower :=
  toSmallAfter_of_ascii h

/-! ## Words -/

theorem breakAt_eq_separator_iff (c : Cluster) (rest : List Cluster) :
    breakAt c rest = .separator ↔ isSeparator c = true := by
  unfold breakAt
  grind

/-- The words of clusters hold nothing but those clusters that do not separate words. -/
theorem mem_of_mem_clusterWords {l : List Cluster} {word : List Cluster} {c : Cluster}
    (hword : word ∈ clusterWords l) (hc : c ∈ word) : c ∈ l ∧ isSeparator c = false := by
  induction l generalizing word with
  | nil => simp_all [clusterWords]
  | cons d rest ih =>
    have later {w : List Cluster} (hw : w ∈ clusterWords rest) (hc : c ∈ w) :
        c ∈ d :: rest ∧ isSeparator c = false :=
      ⟨List.mem_cons_of_mem _ (ih hw hc).1, (ih hw hc).2⟩
    rw [clusterWords] at hword
    cases hbreak : breakAt d rest with
    | separator =>
      rw [hbreak] at hword
      rcases List.mem_cons.1 hword with rfl | hword
      · simp at hc
      · exact later hword hc
    | after =>
      have hd : isSeparator d = false := by
        simpa [hbreak] using breakAt_eq_separator_iff d rest
      rw [hbreak] at hword
      rcases List.mem_cons.1 hword with rfl | hword
      · simp_all
      · exact later hword hc
    | none =>
      have hd : isSeparator d = false := by
        simpa [hbreak] using breakAt_eq_separator_iff d rest
      rw [hbreak] at hword
      cases hrest : clusterWords rest with
      | nil => simp_all
      | cons first more =>
        rw [hrest] at later
        simp only [hrest] at hword
        rcases List.mem_cons.1 hword with rfl | hword
        · rcases List.mem_cons.1 hc with rfl | hc
          · exact ⟨List.mem_cons_self, hd⟩
          · exact later List.mem_cons_self hc
        · exact later (List.mem_cons_of_mem _ hword) hc

theorem clusterWords_ne_nil (l : List Cluster) : clusterWords l ≠ [] := by
  fun_cases clusterWords l <;> simp

theorem clusterWords_of_separator {c : Cluster} (h : isSeparator c = true) (rest : List Cluster) :
    clusterWords (c :: rest) = [] :: clusterWords rest := by
  simp [clusterWords, breakAt, h]

/-- A cluster that is no separator starts the first word. -/
theorem exists_clusterWords_cons {c : Cluster} (h : isSeparator c = false) (rest : List Cluster) :
    ∃ word more, clusterWords (c :: rest) = (c :: word) :: more := by
  rw [clusterWords]
  cases hbreak : breakAt c rest with
  | separator => simp [(breakAt_eq_separator_iff c rest).1 hbreak] at h
  | after => exact ⟨_, _, rfl⟩
  | none => cases clusterWords rest <;> exact ⟨_, _, rfl⟩

/-- The words of clusters together hold the clusters that do not separate words. -/
theorem flatten_clusterWords (l : List Cluster) :
    (clusterWords l).flatten = l.filter fun c => !isSeparator c := by
  induction l with
  | nil => rfl
  | cons c rest ih =>
    cases hc : isSeparator c with
    | true => rw [clusterWords_of_separator hc, List.flatten_cons, ih]; simp [hc]
    | false =>
      have hnone := mt (breakAt_eq_separator_iff c rest).1 (by simp [hc])
      rw [clusterWords, List.filter_cons_of_pos (by simp [hc]), ← ih]
      cases hbreak : breakAt c rest with
      | separator => exact absurd hbreak hnone
      | after => rfl
      | none => cases clusterWords rest <;> rfl

/-- There are more words than separators. -/
theorem countP_isSeparator_lt (l : List Cluster) :
    l.countP isSeparator < (clusterWords l).length := by
  induction l with
  | nil => simp [clusterWords]
  | cons c rest ih =>
    cases hc : isSeparator c with
    | true => rw [clusterWords_of_separator hc, List.countP_cons_of_pos hc]; simpa using ih
    | false =>
      have hnone := mt (breakAt_eq_separator_iff c rest).1 (by simp [hc])
      rw [clusterWords, List.countP_cons_of_neg (by simp [hc])]
      cases hbreak : breakAt c rest with
      | separator => exact absurd hbreak hnone
      | after => exact Nat.lt_succ_of_lt ih
      | none =>
        cases hrest : clusterWords rest with
        | nil => exact absurd hrest (clusterWords_ne_nil rest)
        | cons word more => simpa [hrest] using ih

theorem words_of_plain {cs : List Char} (h : IsPlain cs) (hne : cs ≠ []) :
    words cs = clusterWords (cs.map fun c => [c]) := by
  unfold words
  split
  · exact absurd rfl hne
  · rw [clusters_of_plain h]

/-- The words of a plain text hold letters and digits of it, each a cluster. -/
theorem mem_of_mem_words {cs : List Char} {word : List Cluster} {cluster : Cluster}
    (h : IsPlain cs) (hword : word ∈ words cs) (hcluster : cluster ∈ word) :
    ∃ c ∈ cs, cluster = [c] ∧ c.isAlphanum = true := by
  cases cs with
  | nil => simp [words] at hword
  | cons d rest =>
    rw [words_of_plain h (by simp)] at hword
    obtain ⟨hmem, hsep⟩ := mem_of_mem_clusterWords hword hcluster
    obtain ⟨c, hc, rfl⟩ := List.mem_map.1 hmem
    have hplain := h c hc
    simp only [isSeparator, Bool.or_eq_false_iff, beq_eq_false_iff_ne] at hsep
    refine ⟨c, hc, rfl, ?_⟩
    simp_all [isIdentifierChar]

theorem alphanum_of_mem_flatten {cs : List Char} {word : List Cluster} {c : Char} (h : IsPlain cs)
    (hword : word ∈ words cs) (hc : c ∈ word.flatten) : c.isAlphanum = true := by
  obtain ⟨cluster, hcluster, hc⟩ := List.mem_flatten.1 hc
  obtain ⟨d, -, rfl, hd⟩ := mem_of_mem_words h hword hcluster
  rwa [List.mem_singleton.1 hc]

/-! ## Names in snake case -/

theorem smallWord_of_plain {cs : List Char} {word : List Cluster} (h : IsPlain cs)
    (hword : word ∈ words cs) : smallWord word = word.flatten.map Char.toLower :=
  toSmall_of_ascii fun _ hc =>
    ascii_of_isIdentifierChar (isIdentifierChar_of_isAlphanum (alphanum_of_mem_flatten h hword hc))

/-- Plain names in `snake_case` are made of small letters, digits and underscores. -/
theorem small_of_mem_snake {cs : List Char} (h : IsPlain cs) {c : Char} (hc : c ∈ snake cs) :
    isSmallChar c = true := by
  by_contra hsmall
  refine not_mem_joinPieces (by rintro rfl; exact hsmall (by decide)) (fun piece hpiece => ?_) hc
  obtain ⟨word, hword, rfl⟩ := List.mem_map.1 hpiece
  rw [smallWord_of_plain h hword]
  intro hmem
  obtain ⟨d, hd, rfl⟩ := List.mem_map.1 hmem
  exact hsmall (isSmallChar_toLower
    (isIdentifierChar_of_isAlphanum (alphanum_of_mem_flatten h hword hd)))

/-- The pieces of a plain name in `snake_case` are its words. -/
theorem pieces_snake {cs : List Char} (h : IsPlain cs) (hne : cs ≠ []) :
    pieces '_' (snake cs) = (words cs).map smallWord := by
  refine pieces_joinPieces ?_ fun piece hpiece hscore => ?_
  · rw [words_of_plain h hne]
    simpa using clusterWords_ne_nil _
  · obtain ⟨word, hword, rfl⟩ := List.mem_map.1 hpiece
    rw [smallWord_of_plain h hword] at hscore
    obtain ⟨c, hc, hlower⟩ := List.mem_map.1 hscore
    have halphanum := isAlphanum_toLower (alphanum_of_mem_flatten h hword hc)
    rw [hlower] at halphanum
    revert halphanum
    decide

/-- A plain name in `snake_case` starts with the character it starts with, made small. -/
theorem snake_cons {c : Char} {cs : List Char} (h : IsPlain (c :: cs)) :
    ∃ rest, snake (c :: cs) = c.toLower :: rest := by
  have hwords := words_of_plain h (List.cons_ne_nil c cs)
  rw [List.map_cons] at hwords
  by_cases hc : c = '_'
  · subst hc
    rw [clusterWords_of_separator (by decide)] at hwords
    rw [snake, hwords, List.map_cons]
    exact ⟨_, joinPieces_cons '_' (smallWord []) (by simpa using clusterWords_ne_nil _)⟩
  · have hplain := h c List.mem_cons_self
    have hsep : isSeparator [c] = false :=
      (kind_of_plain hplain).2.2.1.trans (beq_false_of_ne hc)
    obtain ⟨word, more, hmore⟩ := exists_clusterWords_cons hsep (cs.map fun c => [c])
    rw [hmore] at hwords
    have hfirst : smallWord ([c] :: word) = c.toLower :: word.flatten.map Char.toLower := by
      rw [smallWord_of_plain h (hwords ▸ List.mem_cons_self)]
      rfl
    -- the first word is a piece of its own, or the others follow it
    have hprefix : smallWord ([c] :: word) <+: snake (c :: cs) := by
      have hpieces : joinPieces '_' [smallWord ([c] :: word)] <+:
          joinPieces '_' (smallWord ([c] :: word) :: more.map smallWord) :=
        joinPieces_isPrefix (List.prefix_append [smallWord ([c] :: word)] (more.map smallWord))
      simpa [joinPieces, List.intercalate, snake, hwords] using hpieces
    obtain ⟨rest, hrest⟩ := hprefix
    exact ⟨_, by rw [← hrest, hfirst, List.cons_append]⟩

/-! ## Names in Pascal case -/

theorem capitalWord_of_plain {cs : List Char} {word : List Cluster} (h : IsPlain cs)
    (hword : word ∈ words cs) :
    capitalWord word = match word.flatten with
      | [] => []
      | c :: rest => c.toUpper :: rest.map Char.toLower := by
  cases word with
  | nil => rfl
  | cons cluster rest =>
    obtain ⟨c, -, rfl, -⟩ := mem_of_mem_words h hword List.mem_cons_self
    have hrest : toSmall rest.flatten = rest.flatten.map Char.toLower :=
      toSmall_of_ascii fun d hd => ascii_of_isIdentifierChar (isIdentifierChar_of_isAlphanum
        (alphanum_of_mem_flatten h hword (List.mem_append_right _ hd)))
    simp [capitalWord, hrest]

/-- Plain names in `PascalCase` are made of letters and digits. -/
theorem alphanum_of_mem_pascal {cs : List Char} (h : IsPlain cs) {c : Char} (hc : c ∈ pascal cs) :
    c.isAlphanum = true := by
  obtain ⟨word, hword, hc⟩ := List.mem_flatMap.1 hc
  have halphanum := fun d => alphanum_of_mem_flatten (c := d) h hword
  rw [capitalWord_of_plain h hword] at hc
  cases hflat : word.flatten with
  | nil => simp [hflat] at hc
  | cons d rest =>
    simp only [hflat, List.mem_cons, List.mem_map] at hc halphanum
    rcases hc with rfl | ⟨e, he, rfl⟩
    · exact isAlphanum_toUpper (halphanum d (.inl rfl))
    · exact isAlphanum_toLower (halphanum e (.inr he))

/-- A plain name in `PascalCase` starts with a digit or a capital. -/
theorem head_pascal {cs : List Char} (h : IsPlain cs) {c : Char} {rest : List Char}
    (hpascal : pascal cs = c :: rest) (hdigit : c.isDigit = false) : c.isUpper = true := by
  have hfirst (l : List (List Cluster)) (hl : ∀ word ∈ l, word ∈ words cs)
      (heq : l.flatMap capitalWord = c :: rest) : c.isUpper = true := by
    induction l with
    | nil => simp at heq
    | cons word more ih =>
      have hword := hl word List.mem_cons_self
      rw [List.flatMap_cons, capitalWord_of_plain h hword] at heq
      cases hflat : word.flatten with
      | nil => exact ih (fun w hw => hl w (List.mem_cons_of_mem _ hw)) (by simpa [hflat] using heq)
      | cons d tail =>
        obtain ⟨rfl, -⟩ := List.cons_eq_cons.1 (by simpa [hflat] using heq)
        exact isUpper_toUpper (alphanum_of_mem_flatten h hword (by simp [hflat])) hdigit
  exact hfirst (words cs) (fun _ hword => hword) hpascal

end ContentModels.Text
