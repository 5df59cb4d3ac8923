import Mathlib.Data.List.Basic
import ContentModels.Json.Document
import ContentModels.Proofs.Json.Reading

/-!
# Documents are read back

A document is read back from what it is written as with every part on a line of its own, at any
level of indentation. A list is read back if its items are, and a record if the values of its
entries are.

## Main definitions

* `Json.Takes` — a reader reads a document.
* `Json.Record.Fills` — the entries of an object fill in a record.

## Main statements

* `Json.takes_text`, `Json.takes_bool`, `Json.takes_optional`, `Json.takes_choice` — single values.
* `Json.takes_list` — lists.
* `Json.Record.takes_read` — records.
* `Json.Takes.run` — whole documents.
-/

namespace ContentModels.Json

open Reader

variable {α σ : Type}

/-! ## The layout -/

theorem isGaps_newLine (level : Nat) : IsGaps (Document.newLine level) := by
  intro c hc
  rcases List.mem_cons.1 hc with rfl | hc
  · rfl
  · rw [List.eq_of_mem_replicate hc]
    rfl

namespace Document

/-- What opens a document: a letter, a quote or a bracket. -/
theorem exists_prettyChars_eq_cons (d : Document) (level : Nat) :
    ∃ c cs, d.prettyChars level = c :: cs ∧ c ∈ ['n', 't', 'f', '"', '[', '\x7b'] := by
  unfold prettyChars
  split
  · exact ⟨'n', _, rfl, by simp⟩
  · next b =>
    cases b with
    | true => exact ⟨'t', _, rfl, by simp⟩
    | false => exact ⟨'f', _, rfl, by simp⟩
  all_goals exact ⟨_, _, rfl, by simp⟩

theorem prettyItems_cons (level : Nat) (d : Document) (items : List Document) :
    prettyItems level (d :: items) = newLine level ++ d.prettyChars level ++
      items.flatMap fun e => ',' :: (newLine level ++ e.prettyChars level) := by
  induction items generalizing d with
  | nil => simp [prettyItems]
  | cons e items ih => simp [prettyItems, ih]

/-- An entry on a line of its own. -/
def entryChars (level : Nat) (e : String × Document) : List Char :=
  newLine level ++ writtenChars e.1.toList ++ ':' :: ' ' :: e.2.prettyChars level

/-- What comes before an entry of an object: a comma, unless it is the first one. -/
def separator (first : Bool) : List Char := if first then [] else [',']

/-- The entries of an object, or those that are left of them. -/
def entriesChars (level : Nat) (first : Bool) : List (String × Document) → List Char
  | [] => []
  | e :: rest => separator first ++ entryChars level e ++ entriesChars level false rest

theorem prettyEntries_cons (level : Nat) (e : String × Document)
    (entries : List (String × Document)) :
    prettyEntries level (e :: entries) = entryChars level e ++ entriesChars level false entries := by
  induction entries generalizing e with
  | nil => simp [prettyEntries, entryChars, entriesChars]
  | cons f rest ih => simp [prettyEntries, entryChars, entriesChars, separator, ih]

theorem length_le_length_entriesChars (level : Nat) (first : Bool)
    (entries : List (String × Document)) :
    entries.length ≤ (entriesChars level first entries).length := by
  induction entries generalizing first with
  | nil => simp
  | cons e rest ih =>
    have hrest := ih false
    simp only [entriesChars, entryChars, newLine, List.length_append, List.length_cons]
    omega

end Document

open Document

/-- What opens a document is no blank and closes nothing. -/
theorem isGap_of_opens {c : Char} (hc : c ∈ ['n', 't', 'f', '"', '[', '\x7b']) :
    isGap c = false ∧ c ≠ ']' := by
  revert c
  rw [← List.forall_iff_forall_mem]
  decide

/-- A reader reads a document behind blanks, at any level of indentation. -/
def Takes (p : Reader α) (d : Document) (a : α) : Prop :=
  ∀ level gaps, IsGaps gaps → Reads p (gaps ++ d.prettyChars level) a

/-- What is read may be put into something else. -/
theorem Takes.map {β : Type} {p : Reader α} {d : Document} {a : α} {g : α → β} (h : Takes p d a) :
    Takes (do return g (← p)) d (g a) := by
  intro level gaps hgaps
  exact (h level gaps hgaps).bind_nil (reads_pure (g a))

/-! ## Single values -/

theorem takes_text (expected : String) (s : String) : Takes (text expected) (.text s) s := by
  intro level gaps hgaps
  refine .start_bind hgaps (c := '"') rfl ?_
  exact .drop_bind (reads_string s)

theorem takes_bool (b : Bool) : Takes Reader.bool (.bool b) b := by
  intro level gaps hgaps
  cases b with
  | true =>
    refine .start_bind hgaps (c := 't') rfl ?_
    exact .drop_bind ((reads_finishWord "rue".toList).bind_nil (reads_pure true))
  | false =>
    refine .start_bind hgaps (c := 'f') rfl ?_
    exact .drop_bind ((reads_finishWord "alse".toList).bind_nil (reads_pure false))

/-- Nothing is read back as nothing, and a text as one. -/
theorem takes_optional (value : Option String) :
    Takes (Reader.optional Reader.text) (.ofOption value) value := by
  intro level gaps hgaps
  cases value with
  | none =>
    refine .gap_bind hgaps (c := 'n') rfl ?_
    exact .drop_bind ((reads_finishWord "ull".toList).bind_nil (reads_pure none))
  | some s =>
    refine .gap_bind hgaps (c := '"') rfl ?_
    exact (takes_text "a string" s level [] isGaps_nil).bind_nil (reads_pure (some s))

/-- One of several names is read back. -/
theorem takes_choice {known : List (String × α)} {name : String} {value : α}
    (h : known.lookup name = some value) : Takes (choice known) (.text name) value := by
  intro level gaps hgaps
  refine .gap_bind hgaps (c := '"') rfl ?_
  refine (takes_text "variant identifier" name level [] isGaps_nil).bind_nil ?_
  rw [h]
  exact reads_pure value

/-! ## Lists -/

section Lists

variable {gaps : List Char} {c : Char}

/-- A list starts with an item unless it ends. -/
theorem hasElement_first (hgaps : IsGaps gaps) (hc : isGap c = false) (hend : c ≠ ']')
    (cs : List Char) : hasElement true (gaps ++ c :: cs) = .ok (true, c :: cs) := by
  rw [hasElement, bind_of_ok (gap_append hgaps hc cs)]
  simp [hend]

/-- A list goes on behind a comma. -/
theorem hasElement_comma (hgaps : IsGaps gaps) (hc : isGap c = false) (hend : c ≠ ']')
    (cs : List Char) : hasElement false (',' :: (gaps ++ c :: cs)) = .ok (true, c :: cs) := by
  rw [hasElement, bind_of_ok (gap_cons (c := ',') rfl _)]
  simp only [Char.reduceEq, if_false, if_true, Bool.false_eq_true, drop_bind_cons]
  rw [bind_of_ok (gap_append hgaps hc cs)]
  simp

theorem hasElement_end (hgaps : IsGaps gaps) (first : Bool) (cs : List Char) :
    hasElement first (gaps ++ ']' :: cs) = .ok (false, ']' :: cs) := by
  rw [hasElement, bind_of_ok (gap_append hgaps rfl cs)]
  rfl

theorem endList_close (cs : List Char) : endList (']' :: cs) = .ok ((), cs) := by
  rw [endList, bind_of_ok (gap_cons (c := ']') rfl cs)]
  rfl

/-- Reads an item behind a comma, or sees the end of a list. -/
def itemStep (p : Reader α) : Reader (Option α) := do
  if ← hasElement false then return some (← p) else return none

theorem elements_eq (p : Reader α) : elements p = do
    if !(← hasElement true) then return []
    let first ← p
    return first :: (← repeatUntil (itemStep p)) := rfl

variable {p : Reader α} {doc : α → Document}

theorem reads_itemStep {a : α} (h : Takes p (doc a) a) (level : Nat) :
    Reads (itemStep p) (',' :: (newLine level ++ (doc a).prettyChars level)) (some a) := by
  intro after
  obtain ⟨c, cs, hd, hc⟩ := (doc a).exists_prettyChars_eq_cons level
  obtain ⟨hgap, hend⟩ := isGap_of_opens hc
  have hcomma := hasElement_comma (isGaps_newLine level) hgap hend (cs ++ after)
  have hitem : p (c :: (cs ++ after)) = .ok (a, after) := by
    simpa [hd] using h level [] isGaps_nil after
  simp only [hd, List.cons_append, List.append_assoc, itemStep]
  rw [bind_of_ok hcomma, if_pos rfl, bind_of_ok hitem]
  rfl

/-- The items of a list are read back up to its end. -/
theorem elements_items {l : List α} (h : ∀ a ∈ l, Takes p (doc a) a) (level : Nat)
    (hgaps : IsGaps gaps) (after : List Char) :
    elements p (prettyItems level (l.map doc) ++ (gaps ++ ']' :: after)) =
      .ok (l, ']' :: after) := by
  cases l with
  | nil =>
    rw [elements_eq, List.map_nil, prettyItems, List.nil_append,
      bind_of_ok (hasElement_end hgaps true after)]
    rfl
  | cons a l =>
    have hend : itemStep p (gaps ++ ']' :: after) = .ok (none, ']' :: after) := by
      rw [itemStep, bind_of_ok (hasElement_end hgaps false after)]
      rfl
    have hmore := repeatUntil_of_reads
      (fun b hb => reads_itemStep (h b (List.mem_cons_of_mem _ hb)) level) (by simp) hend
    obtain ⟨c, cs, hd, hc⟩ := (doc a).exists_prettyChars_eq_cons level
    obtain ⟨hgap, hopens⟩ := isGap_of_opens hc
    generalize hrest : (l.flatMap fun b => ',' :: (newLine level ++ (doc b).prettyChars level)) ++
      (gaps ++ ']' :: after) = rest at hmore
    have htext : prettyItems level ((a :: l).map doc) ++ (gaps ++ ']' :: after) =
        newLine level ++ c :: (cs ++ rest) := by
      rw [List.map_cons, prettyItems_cons, List.flatMap_map, hd, ← hrest]
      simp
    have hitem : p (c :: (cs ++ rest)) = .ok (a, rest) := by
      simpa [hd] using h a List.mem_cons_self level [] isGaps_nil rest
    rw [htext, elements_eq, bind_of_ok (hasElement_first (isGaps_newLine level) hgap hopens _)]
    simp only [Bool.not_true, Bool.false_eq_true, if_false]
    rw [bind_of_ok hitem, bind_of_ok hmore]
    simp

/-- A list is read back if its items are. -/
theorem takes_list {l : List α} (h : ∀ a ∈ l, Takes p (doc a) a) :
    Takes (list p) (.array (l.map doc)) l := by
  intro level gaps hgaps
  obtain ⟨tail, htail, hread⟩ : ∃ tail, (Document.array (l.map doc)).prettyChars level = '[' :: tail ∧
      ∀ after, elements p (tail ++ after) = .ok (l, ']' :: after) := by
    cases l with
    | nil => exact ⟨[']'], rfl, elements_items h (level + 1) isGaps_nil⟩
    | cons a l =>
      refine ⟨prettyItems (level + 1) ((a :: l).map doc) ++ newLine level ++ [']'], rfl, ?_⟩
      intro after
      simpa using elements_items h (level + 1) (isGaps_newLine level) after
  rw [htail]
  refine .start_bind hgaps (c := '[') rfl (.drop_bind ?_)
  intro after
  rw [bind_of_ok (hread after), bind_of_ok (endList_close after)]
  rfl

end Lists

/-! ## Records -/

section Keys

variable {gaps : List Char}

theorem hasKey_quote (hgaps : IsGaps gaps) (first : Bool) (cs : List Char) :
    hasKey first (separator first ++ (gaps ++ '"' :: cs)) = .ok (true, '"' :: cs) := by
  cases first with
  | true =>
    rw [hasKey, separator, if_pos rfl, List.nil_append, bind_of_ok (gap_append hgaps rfl cs)]
    rfl
  | false =>
    rw [hasKey, separator, if_neg Bool.false_ne_true, List.singleton_append,
      bind_of_ok (gap_cons (c := ',') rfl _)]
    simp only [Char.reduceEq, if_false, if_true, Bool.false_eq_true, drop_bind_cons]
    rw [bind_of_ok (gap_append hgaps rfl cs)]
    rfl

theorem hasKey_end (hgaps : IsGaps gaps) (first : Bool) (cs : List Char) :
    hasKey first (gaps ++ '\x7d' :: cs) = .ok (false, '\x7d' :: cs) := by
  rw [hasKey, bind_of_ok (gap_append hgaps rfl cs)]
  rfl

theorem endObject_close (cs : List Char) : endObject ('\x7d' :: cs) = .ok ((), cs) := by
  rw [endObject, bind_of_ok (gap_cons (c := '\x7d') rfl cs)]
  rfl

theorem colon_cons (cs : List Char) : colon (':' :: cs) = .ok ((), cs) := by
  rw [colon, bind_of_ok (gap_cons (c := ':') rfl cs)]
  rfl

end Keys

namespace Record

variable {r : Record σ} {known : List String} {value value' : σ}

/-- The entries of an object fill in a record, one field each. -/
inductive Fills (r : Record σ) : List (String × Document) → σ → σ → Prop
  | nil (value : σ) : Fills r [] value value
  | cons {key : String} {d : Document} {entries : List (String × Document)} {field : Field σ}
      {value next value' : σ} (hfield : r.fields.find? (fun f => f.name == key) = some field)
      (hread : Takes (field.read value) d next) (hrest : Fills r entries next value') :
      Fills r ((key, d) :: entries) value value'

theorem Fills.append {l m : List (String × Document)} {next : σ} (hl : Fills r l value next)
    (hm : Fills r m next value') : Fills r (l ++ m) value value' := by
  induction hl with
  | nil => exact hm
  | cons hfield hread _ ih => exact .cons hfield hread (ih hm)

/-- An entry is read back as the value of its field. -/
theorem reads_entry {key : String} {d : Document} {field : Field σ}
    (hfield : r.fields.find? (fun f => f.name == key) = some field)
    (hnew : known.contains key = false) (hread : Takes (field.read value) d value')
    (first : Bool) (level : Nat) : Reads ( r.entry? first known value)
      (separator first ++ entryChars level (key, d)) (some (key :: known, value')) := by
  intro after
  have htext : separator first ++ entryChars level (key, d) ++ after = separator first ++
      (newLine level ++ '"' :: ((key.toList.flatMap writtenChar ++ ['"']) ++
        ':' :: ([' '] ++ d.prettyChars level ++ after))) := by
    simp [entryChars, writtenChars]
  have hblank : IsGaps [' '] := by simp [IsGaps, isGap]
  rw [htext, Record.entry?, bind_of_ok (hasKey_quote (isGaps_newLine level) first _)]
  simp only [Bool.not_true, Bool.false_eq_true, if_false, drop_bind_cons]
  rw [bind_of_ok (reads_string key _), hfield]
  simp only [hnew, Bool.false_eq_true, if_false]
  rw [bind_of_ok (colon_cons _), bind_of_ok (hread level _ hblank _)]
  rfl

/-- The entries of an object are read back up to its end, if no key comes twice. -/
theorem entries_of_fills {entries : List (String × Document)} (h : Fills r entries value value')
    (hnodup : (entries.map Prod.fst).Nodup) (hnew : ∀ e ∈ entries, known.contains e.1 = false)
    (level : Nat) (first : Bool) {gaps : List Char} (hgaps : IsGaps gaps) (after : List Char)
    {fuel : Nat} (hfuel : entries.length < fuel) :
    r.entries fuel first known value (entriesChars level first entries ++ (gaps ++ '\x7d' :: after)) =
      .ok (((entries.map Prod.fst).reverse ++ known, value'), '\x7d' :: after) := by
  induction h generalizing first fuel known with
  | nil value =>
    obtain ⟨fuel, rfl⟩ := Nat.exists_eq_add_one.2 hfuel
    have hend : r.entry? first known value (gaps ++ '\x7d' :: after) =
        .ok (none, '\x7d' :: after) := by
      rw [Record.entry?, bind_of_ok (hasKey_end hgaps first after)]
      rfl
    rw [Record.entries, entriesChars, List.nil_append, bind_of_ok hend]
    rfl
  | @cons key d entries _ _ _ _ hfield hread hrest ih =>
    obtain ⟨fuel, rfl⟩ := Nat.exists_eq_add_one.2 (Nat.zero_lt_of_lt hfuel)
    obtain ⟨hkey, hnodup⟩ := List.nodup_cons.1 hnodup
    have hentry := reads_entry hfield (hnew _ List.mem_cons_self) hread first level
    have hlater : ∀ e ∈ entries, (key :: known).contains e.1 = false := by
      intro e he
      have hne : e.1 ≠ key := fun heq => hkey (List.mem_map.2 ⟨e, he, heq⟩)
      have hold := hnew e (List.mem_cons_of_mem _ he)
      rw [List.contains_cons, beq_false_of_ne hne, hold, Bool.or_self]
    rw [Record.entries, entriesChars, List.append_assoc, bind_of_ok (hentry _)]
    dsimp only
    rw [ih hnodup hlater false (by simpa using hfuel)]
    simp

/-- A record is read back if its entries fill it in and none that it cannot do without is
missing. -/
theorem takes_read {entries : List (String × Document)}
    (h : Fills r entries r.initial value') (hnodup : (entries.map Prod.fst).Nodup)
    (hall : ∀ f ∈ r.fields, f.required = true → f.name ∈ entries.map Prod.fst) :
    Takes r.read (.object entries) value' := by
  intro level gaps hgaps
  obtain ⟨blank, tail, htail, hblank, hentries⟩ : ∃ blank tail,
      (Document.object entries).prettyChars level = '\x7b' :: tail ∧ IsGaps blank ∧
        tail = entriesChars (level + 1) true entries ++ (blank ++ ['\x7d']) := by
    cases entries with
    | nil => exact ⟨[], ['\x7d'], rfl, isGaps_nil, rfl⟩
    | cons e rest =>
      refine ⟨newLine level, _, rfl, isGaps_newLine level, ?_⟩
      simp [prettyEntries_cons, entriesChars, separator]
  have hmissing : r.fields.find? (fun f => f.required &&
      !((entries.map Prod.fst).reverse ++ []).contains f.name) = none := by
    refine List.find?_eq_none.2 fun f hf => ?_
    simpa using hall f hf
  rw [htail]
  refine .start_bind hgaps (c := '\x7b') rfl (.drop_bind ?_)
  intro after
  have hfuel : entries.length < (tail ++ after).length + 1 := by
    have hlength := length_le_length_entriesChars (level + 1) true entries
    simp only [hentries, List.length_append]
    omega
  have hread : r.entries ((tail ++ after).length + 1) true [] r.initial (tail ++ after) =
      .ok (((entries.map Prod.fst).reverse ++ [], value'), '\x7d' :: after) := by
    have hnone : ∀ e ∈ entries, [].contains e.1 = false := by simp
    simpa [hentries] using entries_of_fills h hnodup hnone (level + 1) true hblank after hfuel
  rw [get_bind_apply, bind_of_ok hread]
  simp only [hmissing]
  rw [bind_of_ok (endObject_close after)]
  rfl

end Record

/-! ## Whole documents -/

/-- A document that a reader takes is read back. -/
theorem Takes.run {p : Reader α} {d : Document} {a : α} (h : Takes p d a) :
    Reader.run p d.pretty = .ok a := by
  have hread : p (d.prettyChars 0) = .ok (a, []) := by
    simpa using h 0 [] isGaps_nil []
  simp only [Reader.run, pretty, String.toList_ofList]
  rw [bind_of_ok hread]
  rfl

end ContentModels.Json
