import DisplayLayout.Proofs.Line.Quiet
import DisplayLayout.Proofs.Numeric.Decimal
import DisplayLayout.Proofs.Yaml.Quoted

/-!
# What the rows of a tree say

The rows of a tree are silent but for two kinds of texts that it can hold. The
code behind a tag is written line by line as it is, and an item of a sequence
can look like the identifier of a page. So the rows of a tree with plain keys
say what its texts say, one after the other (`Yaml.says_itemRows`).
-/

namespace DisplayLayout

open Text

/-! ## What rows say -/

namespace Line

/-- What rows say, without the rows that say nothing. -/
def said (rows : List String) : List Line := (rows.map classify).filter (· ≠ .other)

/-- Rows of one line each, and what they say. -/
structure Says (rows : List String) (lines : List Line) : Prop where
  oneLine : ∀ row ∈ rows, OneLine row
  said_eq : said rows = lines

theorem said_append (rows more : List String) : said (rows ++ more) = said rows ++ said more := by
  rw [said, List.map_append, List.filter_append]
  rfl

theorem Says.append {rows more : List String} {ls ms : List Line} (h : Says rows ls)
    (hmore : Says more ms) : Says (rows ++ more) (ls ++ ms) where
  oneLine := List.forall_mem_append.2 ⟨h.oneLine, hmore.oneLine⟩
  said_eq := by rw [said_append, h.said_eq, hmore.said_eq]

theorem said_of_silent {rows : List String} (h : ∀ row ∈ rows, Silent row) : said rows = [] := by
  rw [said, List.filter_eq_nil_iff, List.forall_mem_map]
  intro row hrow
  rw [(h row hrow).classify_eq]
  decide

theorem says_of_silent {rows : List String} (h : ∀ row ∈ rows, Silent row) : Says rows [] where
  oneLine := fun row hrow => (h row hrow).oneLine
  said_eq := said_of_silent h

theorem Says.cons {row : String} {rows : List String} {ls : List Line} (h : Silent row)
    (hrows : Says rows ls) : Says (row :: rows) ls :=
  (says_of_silent (List.forall_mem_singleton.2 h)).append hrows

/-- A row says nothing, or it is among what is said. -/
theorem Says.classify_mem {rows : List String} {ls : List Line} (h : Says rows ls) {row : String}
    (hrow : row ∈ rows) : classify row = .other ∨ classify row ∈ ls := by
  by_cases hother : classify row = .other
  · exact Or.inl hother
  · right
    rw [← h.said_eq, said, List.mem_filter]
    exact ⟨List.mem_map.2 ⟨row, hrow, rfl⟩, by simpa using hother⟩

/-- Rows that say nothing are silent. -/
theorem Says.silent {rows : List String} (h : Says rows []) : ∀ row ∈ rows, Silent row := by
  intro row hrow
  rcases h.classify_mem hrow with hother | hmem
  · exact ⟨h.oneLine row hrow, hother⟩
  · exact absurd hmem List.not_mem_nil

/-- Rows that say nothing but draw calls are quiet. -/
theorem Says.quiet {rows : List String} {ls : List Line} (h : Says rows ls)
    (hls : ∀ line ∈ ls, line.saysNothing = true) : ∀ row ∈ rows, Quiet row := by
  intro row hrow
  refine ⟨h.oneLine row hrow, ?_⟩
  rcases h.classify_mem hrow with hother | hmem
  · rw [hother]
    rfl
  · exact hls _ hmem

/-- Indentation by spaces does not change what rows say. -/
theorem classify_spaces (n : Nat) (row : String) : classify (spaces n ++ row) = classify row := by
  refine classify_indent (isBlank_of_spaces ?_) row
  simp [spaces]

theorem Silent.spaces {row : String} (h : Silent row) (n : Nat) : Silent (spaces n ++ row) where
  oneLine := oneLine_append.2 ⟨oneLine_spaces n, h.oneLine⟩
  classify_eq := by rw [classify_spaces, h.classify_eq]

theorem classify_blank {row : String} (h : isBlankText row = true) : classify row = .other := by
  have htrim : trimChars row.toList = [] := by
    have := trimChars_append_left (List.all_eq_true.1 h) []
    rwa [List.append_nil] at this
  rw [classify, htrim]
  rfl

/-! ## Rows with a dash -/

/-- A row with a dash starts a page only if an identifier follows. -/
theorem classify_dash {rest : String} (h : ¬"id:".toList <+: rest.toList) :
    classify ("- " ++ rest) = .other := by
  have htrim : trimChars ("- " ++ rest).toList = "-".toList ++ dropTrailingBlanks (' ' :: rest.toList) := by
    rw [String.toList_append]
    exact trimChars_lead (by decide : "-".toList.head?.any (!isBlank ·) = true) (by decide) _
  have hid : ¬"- id:".toList <+: "-".toList ++ dropTrailingBlanks (' ' :: rest.toList) := by
    intro hpre
    have hall : "- id:".toList <+: "-".toList ++ ' ' :: rest.toList :=
      hpre.trans ((List.prefix_append_right_inj _).2 (prefix_dropTrailingBlanks _))
    exact h ((List.prefix_append_right_inj "- ".toList).1 hall)
  generalize dropTrailingBlanks (' ' :: rest.toList) = more at htrim hid
  have hcomment : commentBody? ("-".toList ++ more) = none := rfl
  have hdraw : draw? ("-".toList ++ more) = none := rfl
  have hpage : pageIndex? ("-".toList ++ more) = none := by
    refine pageIndex?_eq_none hid (Or.inr fun lead hlead => ?_)
    rw [List.filter_append]
    have hclash : ∀ l ∈ headerLeads, clash l ("-".toList.filter (!isBlank ·)) = true := by decide
    exact not_prefix_append_of_clash (hclash lead hlead) _
  rw [classify]
  simp only [htrim, hcomment, hpage, hdraw]
  rfl

theorem silent_dash {rest : String} (h : ¬"id:".toList <+: rest.toList) (hrest : OneLine rest) :
    Silent ("- " ++ rest) :=
  ⟨oneLine_append.2 ⟨by decide, hrest⟩, classify_dash h⟩

end Line

namespace Yaml

open Line

/-! ## Scalars -/

theorem oneLine_quoted (s : String) : OneLine (quoted s) :=
  fun hmem => absurd (isPlainChar_of_mem_quoted hmem) (by decide)

theorem oneLine_textScalar (s : String) : OneLine (textScalar s) := by
  rw [textScalar]
  split
  · exact oneLine_quoted s
  · next hplain =>
    intro hm
    simp only [needsQuotes, Bool.or_eq_true, not_or, Bool.not_eq_true', Bool.not_eq_false] at hplain
    have hchar := List.all_eq_true.1 hplain.1.1.1.1.1.1.1.1.2 _ hm
    exact absurd hchar (by decide)

theorem isNumberChar_of_mem_text {n : Number} {c : Char} (h : c ∈ n.text.toList) :
    Numeric.isNumberChar c = true := by
  cases n with
  | int n =>
    rcases Numeric.mem_toString_int h with hdigit | rfl
    · exact Numeric.isNumberChar_of_isDigit hdigit
    · decide
  | float x => exact Numeric.isNumberChar_of_mem_render h

theorem oneLine_number (n : Number) : OneLine n.text :=
  fun h => absurd (isNumberChar_of_mem_text h) (by decide)

theorem oneLine_inlineText (j : Json) : OneLine (inlineText j) := by
  cases j with
  | null => decide
  | bool b => cases b <;> decide
  | number n => exact oneLine_number n
  | string s => exact oneLine_textScalar s
  | object entries => exact (by decide : OneLine "\x7b\x7d")
  | array items =>
    rw [inlineText, oneLine_append, oneLine_append]
    refine ⟨⟨by decide, oneLine_join (by decide) ?_⟩, by decide⟩
    rw [List.forall_mem_map]
    intro item _
    cases item with
    | number n => exact oneLine_number n
    | _ => exact (by decide : OneLine "")

/-! ## Keys -/

/-- What stands before the value of an entry. -/
def entryLead (key : String) : String := textScalar key ++ ":"

/-- Words with points between them. A draw call is the only row that a text of these can start. -/
def isKey (key : String) : Bool :=
  key.toList.all (fun c => isWordChar c || c == '.') && !"it.".toList.isPrefixOf key.toList

/-- Characters that stand in a key as it is written, quotes included. -/
def isKeyChar (c : Char) : Bool := isWordChar c || c == '.' || c == '"'

theorem isBlank_eq_false_of_isKeyChar {c : Char} (h : isKeyChar c = true) : isBlank c = false := by
  simp only [isKeyChar, Bool.or_eq_true, beq_iff_eq] at h
  rcases h with (hword | rfl) | rfl
  · exact isBlank_eq_false_of_isWordChar hword
  · decide
  · decide

/-- A character of a key needs no escape. -/
theorem escapeChar_of_isKey {c : Char} (h : isWordChar c = true ∨ c = '.') : escapeChar c = [c] := by
  rcases h with hword | rfl
  · have hnat := toNat_of_isWordChar hword
    have hne : ∀ d : Char, isWordChar d = false → c ≠ d := fun d hd => ne_of_isWordChar hword hd
    rw [escapeChar, if_neg (hne _ (by decide)), if_neg (hne _ (by decide)),
      if_neg (hne _ (by decide)), if_neg (hne _ (by decide)), if_neg (by omega), if_neg (by omega)]
  · decide

/-- A scalar that is quoted starts with the quote. -/
theorem head?_quoted (s : String) : (quoted s).toList.head? = some '"' := by
  rw [toList_quoted]
  rfl

theorem isKeyChar_of_mem_textScalar {key : String} (h : isKey key = true) {c : Char}
    (hc : c ∈ (textScalar key).toList) : isKeyChar c = true := by
  rw [isKey, Bool.and_eq_true, List.all_eq_true] at h
  have hkey : ∀ d ∈ key.toList, isWordChar d = true ∨ d = '.' := fun d hd => by simpa using h.1 d hd
  have hchar : ∀ d ∈ key.toList, isKeyChar d = true := fun d hd => by
    rw [isKeyChar, Bool.or_eq_true]
    exact Or.inl (h.1 d hd)
  rw [textScalar] at hc
  split at hc
  · rw [toList_quoted, List.mem_cons, List.mem_append, List.mem_singleton, List.mem_flatMap] at hc
    rcases hc with rfl | ⟨d, hd, hc⟩ | rfl
    · decide
    · rw [escapeChar_of_isKey (hkey d hd), List.mem_singleton] at hc
      exact hc ▸ hchar d hd
    · decide
  · exact hchar c hc

theorem colon_notMem_key {key : String} (h : isKey key = true) : ':' ∉ (textScalar key).toList :=
  fun hm => absurd (isKeyChar_of_mem_textScalar h hm) (by decide)

/-- Only the identifier itself is written as one. -/
theorem textScalar_ne_id {key : String} (h : key ≠ "id") : textScalar key ≠ "id" := by
  rw [textScalar]
  split
  · intro hquoted
    have hhead := head?_quoted key
    rw [hquoted] at hhead
    exact absurd hhead (by decide)
  · exact h

theorem toList_entryLead (key : String) : (entryLead key).toList = (textScalar key).toList ++ [':'] :=
  String.toList_append

theorem mem_entryLead {key : String} (h : isKey key = true) {c : Char}
    (hc : c ∈ (entryLead key).toList) : isKeyChar c = true ∨ c = ':' := by
  rw [toList_entryLead, List.mem_append, List.mem_singleton] at hc
  exact hc.imp_left (isKeyChar_of_mem_textScalar h)

theorem notMem_entryLead {key : String} (h : isKey key = true) {c : Char} (hc : isKeyChar c = false)
    (hcolon : c ≠ ':') : c ∉ (entryLead key).toList := by
  intro hm
  rcases mem_entryLead h hm with hchar | rfl
  · rw [hc] at hchar
    cases hchar
  · exact hcolon rfl

theorem colon_mem_entryLead (key : String) : ':' ∈ (entryLead key).toList := by
  rw [toList_entryLead]
  exact List.mem_append_right _ (List.mem_singleton.2 rfl)

/-- Two texts clash if each of them has a character that the other one has not. -/
theorem clash_of_mem {a b : List Char} {c d : Char} (hca : c ∈ a) (hcb : c ∉ b) (hdb : d ∈ b)
    (hda : d ∉ a) : clash a b = true := by
  simp only [clash, Bool.and_eq_true, Bool.not_eq_true', ← Bool.not_eq_true,
    List.isPrefixOf_iff_prefix]
  exact ⟨fun hpre => hcb (hpre.subset hca), fun hpre => hda (hpre.subset hdb)⟩

/-- Two texts clash if the first character of one is not in the other. -/
theorem clash_of_head {c : Char} {a b : List Char} (hc : c ∉ b) (hne : b ≠ []) :
    clash (c :: a) b = true := by
  simp only [clash, Bool.and_eq_true, Bool.not_eq_true', ← Bool.not_eq_true,
    List.isPrefixOf_iff_prefix]
  refine ⟨fun hpre => hc (hpre.subset List.mem_cons_self), fun hpre => ?_⟩
  rw [List.prefix_cons_iff] at hpre
  rcases hpre with rfl | ⟨b, rfl, -⟩
  · exact hne rfl
  · exact hc List.mem_cons_self

theorem settles_entryLead {key : String} (h : isKey key = true) :
    settles (entryLead key).toList = true := by
  have hcolon := colon_mem_entryLead key
  have hne : (entryLead key).toList ≠ [] := List.ne_nil_of_mem hcolon
  have hheader : ∀ lead ∈ headerLeads, '(' ∈ lead ∧ ':' ∉ lead := by decide
  simp only [settles, Bool.and_eq_true, Bool.or_eq_true]
  refine ⟨⟨⟨⟨⟨⟨?_, ?_⟩, ?_⟩, ?_⟩, ?_⟩, ?_⟩, Or.inr (List.all_eq_true.2 fun lead hl => ?_)⟩
  · rw [List.head?_eq_some_head hne, Option.any_some, Bool.not_eq_true']
    rcases mem_entryLead h (List.head_mem hne) with hchar | hchar
    · exact isBlank_eq_false_of_isKeyChar hchar
    · rw [hchar]
      decide
  · rw [toList_entryLead, List.getLast?_concat]
    decide
  · simpa using notMem_entryLead h (c := '\n') (by decide) (by decide)
  · exact clash_of_head (notMem_entryLead h (by decide) (by decide)) hne
  · exact clash_of_head (notMem_entryLead h (by decide) (by decide)) hne
  · exact clash_of_head (notMem_entryLead h (by decide) (by decide)) hne
  · refine clash_of_mem (hheader lead hl).1 (fun hm => ?_) (List.mem_filter.2 ⟨hcolon, by decide⟩)
      (hheader lead hl).2
    exact notMem_entryLead h (by decide) (by decide) (List.mem_filter.1 hm).1

theorem opens_entryLead {key : String} (h : isKey key = true) : opens (entryLead key) = true :=
  opens_of_settles (settles_entryLead h)

/-- The row of an entry is silent. -/
theorem silent_entry {key rest : String} (h : isKey key = true) (hrest : OneLine rest) :
    Silent (entryLead key ++ rest) := by
  refine silent_of_lead (opens_entryLead h) ?_ hrest
  rw [trimChars_of_settles (settles_entryLead h), clash, Bool.and_eq_true, Bool.not_eq_true',
    Bool.not_eq_true', ← Bool.not_eq_true, ← Bool.not_eq_true, List.isPrefixOf_iff_prefix,
    List.isPrefixOf_iff_prefix]
  constructor
  · intro hpre
    rw [isKey, Bool.and_eq_true, Bool.not_eq_true', ← Bool.not_eq_true, List.isPrefixOf_iff_prefix] at h
    rw [toList_entryLead, List.prefix_concat_iff, textScalar] at hpre
    rcases hpre with hall | hpre
    · have hlast := congrArg List.getLast? hall
      rw [List.getLast?_concat] at hlast
      exact absurd hlast (by decide)
    · -- A key in quotes starts with one, and any other key starts no draw call.
      split at hpre
      · have hhead := head?_quoted key
        obtain ⟨rest, hrest⟩ := hpre
        have hi : ("it.".toList ++ rest).head? = some 'i' := rfl
        rw [← hrest, hi] at hhead
        exact absurd hhead (by decide)
      · exact h.2 hpre
  · exact fun hpre => absurd (hpre.subset (colon_mem_entryLead key)) (by decide)

/-- The row of an entry is silent with a dash, too, unless it is an identifier. -/
theorem silent_dash_entry {key rest : String} (h : isKey key = true) (hid : key ≠ "id")
    (hrest : OneLine rest) : Silent ("- " ++ (entryLead key ++ rest)) := by
  refine silent_dash (fun hpre => textScalar_ne_id hid ?_)
    (oneLine_append.2 ⟨oneLine_of_opens (opens_entryLead h), hrest⟩)
  have hcolon := colon_notMem_key h
  rw [String.toList_append, toList_entryLead, List.append_assoc] at hpre
  rw [← String.toList_inj]
  generalize (textScalar key).toList = k at hcolon hpre
  -- The colon of `id:` is that behind the key, so the key has two characters.
  match k with
  | [] => simp [List.cons_prefix_cons] at hpre
  | [a] => simp [List.cons_prefix_cons] at hpre
  | [a, b] =>
    simp [List.cons_prefix_cons] at hpre ⊢
    exact ⟨hpre.1.symm, hpre.2.symm⟩
  | a :: b :: c :: k => simp_all [List.cons_prefix_cons]

/-! ## The texts of a tree -/

/-- A text of a tree, as the value of a key or as an item of a sequence. -/
inductive Held where
  | value (s : String)
  | item (s : String)
deriving DecidableEq, Repr

/-- What a text of a tree says: the lines of code behind a tag speak for themselves, and without a
tag an item can be the identifier of a page. -/
def Held.said : Held → List Line
  | value s => ((code? s).map fun code => Line.said (Text.lines code)).getD []
  | item s => match code? s with
    | some code => Line.said (Text.lines code)
    | none => ((Line.after? "id:page_" s.toList).bind fun n =>
        Numeric.readWord32? (String.ofList n)).toList.map Line.pageHeader

mutual

/-- The texts of the value of a key, in order. -/
def texts : Json → List Held
  | .string s => [.value s]
  | .object entries => entriesTexts entries
  | .array items => itemsTexts items
  | _ => []

/-- The texts of entries. -/
def entriesTexts : List (String × Json) → List Held
  | [] => []
  | (_, j) :: rest => texts j ++ entriesTexts rest

/-- The texts of an item. -/
def itemTexts : Json → List Held
  | .string s => [.item s]
  | .object entries => entriesTexts entries
  | _ => []

/-- The texts of items. -/
def itemsTexts : List Json → List Held
  | [] => []
  | j :: rest => itemTexts j ++ itemsTexts rest

/-- Whether the keys of the value of a key are plain. -/
def isTree : Json → Bool
  | .object entries => areEntries entries
  | .array items => areItems items
  | _ => true

/-- Whether the keys of entries are plain. -/
def areEntries : List (String × Json) → Bool
  | [] => true
  | (key, j) :: rest => isKey key && isTree j && areEntries rest

/-- Whether the keys of an item are plain. An item is no sequence of texts or trees. -/
def isItem : Json → Bool
  | .object entries => (entries.head?.all fun e => e.1 != "id") && areEntries entries
  | .array items => isFlow items
  | _ => true

/-- Whether the keys of items are plain. -/
def areItems : List Json → Bool
  | [] => true
  | j :: rest => isItem j && areItems rest

end

section Lists

variable {entries : List (String × Json)} {items : List Json}

@[simp] theorem texts_string (s : String) : texts (.string s) = [.value s] := rfl

@[simp] theorem itemTexts_string (s : String) : itemTexts (.string s) = [.item s] := rfl

@[simp] theorem texts_object : texts (.object entries) = entries.flatMap fun e => texts e.2 := by
  rw [texts]
  induction entries with
  | nil => rfl
  | cons e entries ih => rw [entriesTexts, List.flatMap_cons, ih]

@[simp] theorem itemTexts_object :
    itemTexts (.object entries) = entries.flatMap fun e => texts e.2 := by
  rw [← texts_object, itemTexts, texts]

@[simp] theorem texts_array : texts (.array items) = items.flatMap itemTexts := by
  rw [texts]
  induction items with
  | nil => rfl
  | cons j items ih => rw [itemsTexts, List.flatMap_cons, ih]

@[simp] theorem isTree_object :
    isTree (.object entries) = entries.all fun e => isKey e.1 && isTree e.2 := by
  rw [isTree]
  induction entries with
  | nil => rfl
  | cons e entries ih => rw [areEntries, List.all_cons, ih]

@[simp] theorem isItem_object : isItem (.object entries)
    = ((entries.head?.all fun e => e.1 != "id") && isTree (.object entries)) := by
  rw [isItem, isTree]

@[simp] theorem isTree_array : isTree (.array items) = items.all isItem := by
  rw [isTree]
  induction items with
  | nil => rfl
  | cons j items ih => rw [areItems, List.all_cons, ih]

end Lists

/-! ## The rows of a tree -/

/-- The row of a line of code. -/
def codeRow (indent : Nat) (line : String) : Row := if isBlankText line then ⟨0, ""⟩ else ⟨indent, line⟩

theorem oneLine_codeRow {line : String} (h : OneLine line) (indent : Nat) :
    OneLine (codeRow indent line).text := by
  by_cases hblank : isBlankText line = true
  · rw [codeRow, if_pos hblank]
    decide
  · rw [codeRow, if_neg hblank]
    exact oneLine_append.2 ⟨oneLine_spaces indent, h⟩

theorem classify_codeRow (indent : Nat) (line : String) :
    classify (codeRow indent line).text = classify line := by
  by_cases hblank : isBlankText line = true
  · rw [codeRow, if_pos hblank, classify_blank hblank]
    decide
  · rw [codeRow, if_neg hblank]
    exact classify_spaces indent line

/-- The lines of code say in a tree what they say on their own. -/
theorem says_codeRows (indent : Nat) (code : String) :
    Says ((codeRows indent code).map Row.text) (Line.said (Text.lines code)) := by
  have hrows : (codeRows indent code).map Row.text
      = (Text.lines code).map fun line => (codeRow indent line).text := List.map_map
  rw [hrows]
  refine ⟨?_, ?_⟩
  · rw [List.forall_mem_map]
    intro line hline
    exact oneLine_codeRow (oneLine_of_mem_lines hline) indent
  · have hmap : ((Text.lines code).map fun line => (codeRow indent line).text).map classify
        = (Text.lines code).map classify := by
      rw [List.map_map]
      refine List.map_congr_left fun line _ => ?_
      rw [Function.comp_apply, classify_codeRow]
    rw [Line.said, Line.said, hmap]

theorem silent_row {r : Row} (h : Silent r.body) : Silent r.text := h.spaces r.indent

theorem mem_of_hasPair {a b : Char} {cs : List Char} (h : hasPair a b cs = true) : b ∈ cs := by
  induction cs with
  | nil => cases h
  | cons c cs ih =>
    cases cs with
    | nil => cases h
    | cons d cs =>
      simp only [hasPair, Bool.or_eq_true, Bool.and_eq_true, beq_iff_eq] at h
      rcases h with ⟨-, rfl⟩ | h
      · exact List.mem_cons_of_mem _ List.mem_cons_self
      · exact List.mem_cons_of_mem _ (ih h)

theorem hasPair_eq_false {a b : Char} {cs : List Char} (h : b ∉ cs) : hasPair a b cs = false := by
  rw [← Bool.not_eq_true]
  exact fun hpair => h (mem_of_hasPair hpair)

/-- The characters of a natural number as it is read: digits, behind a plus at most. -/
theorem exists_digits_of_readWord32? {cs : List Char} {n : Nat}
    (h : Numeric.readWord32? (String.ofList cs) = some n) :
    (∀ c ∈ cs, c.isDigit = true ∨ c = '+') ∧ ∃ front d, cs = front ++ [d] ∧ d.isDigit = true := by
  have hdigits : ∀ {ds : List Char} {k : Nat}, Numeric.readDigits? ds = some k →
      (∀ c ∈ ds, c.isDigit = true) ∧ ∃ front d, ds = front ++ [d] ∧ d.isDigit = true := by
    intro ds k hk
    rw [Numeric.readDigits?] at hk
    split at hk
    · cases hk
    split at hk
    · next hne hall =>
      have hall := List.all_eq_true.1 hall
      rw [List.isEmpty_iff] at hne
      exact ⟨hall, ds.dropLast, ds.getLast hne, (List.dropLast_concat_getLast hne).symm,
        hall _ (List.getLast_mem hne)⟩
    · cases hk
  rw [Numeric.readWord32?, Option.filter_eq_some_iff, String.toList_ofList] at h
  have hread := h.1
  unfold Numeric.readUnsigned? at hread
  split at hread
  · obtain ⟨hall, front, d, rfl, hd⟩ := hdigits hread
    refine ⟨?_, '+' :: front, d, rfl, hd⟩
    rw [List.forall_mem_cons]
    exact ⟨Or.inr rfl, fun c hc => Or.inl (hall c hc)⟩
  · obtain ⟨hall, hlast⟩ := hdigits hread
    exact ⟨fun c hc => Or.inl (hall c hc), hlast⟩

theorem looksNumeric_eq_false {s : String} {cs : List Char} (hs : s.toList = 'i' :: 'd' :: ':' :: cs) :
    looksNumeric s = false := by
  -- The words that are read as numbers have no colon, and all other numbers begin otherwise.
  have hcolon : ∀ word : String, ':' ∉ word.toList →
      String.ofList (('i' :: 'd' :: ':' :: cs).map Char.toLower) ≠ word := by
    intro word hword heq
    refine hword ?_
    rw [← heq, String.toList_ofList]
    exact List.mem_map.2 ⟨':', by simp, by decide⟩
  have hfloat : Numeric.readFloat? (String.ofList ('i' :: 'd' :: ':' :: cs)) = none := by
    rw [Numeric.readFloat?, String.toList_ofList]
    show Numeric.readMagnitude? false ('i' :: 'd' :: ':' :: cs) = none
    unfold Numeric.readMagnitude?
    split
    · next h => exact absurd h (hcolon "inf" (by decide))
    · next h => exact absurd h (hcolon "infinity" (by decide))
    · next h => exact absurd h (hcolon "nan" (by decide))
    · rfl
  have hbody : dropSign s.toList = 'i' :: 'd' :: ':' :: cs := by
    rw [hs]
    rfl
  rw [looksNumeric, hbody, hfloat]
  rfl

/-- The characters of a page as it is written: those of its lead, the digits and a plus. -/
def isPageChar (c : Char) : Bool := "id:page_".toList.contains c || c.isDigit || c == '+'

theorem isPlainChar_of_isPageChar {c : Char} (h : isPageChar c = true) : isPlainChar c = true := by
  have hlead : "id:page_".toList.all isPlainChar = true := by decide
  simp only [isPageChar, Bool.or_eq_true, List.contains_iff_mem, beq_iff_eq] at h
  rcases h with (hmem | hdigit) | rfl
  · exact List.all_eq_true.1 hlead c hmem
  · have hrange := toNat_of_isWordChar (isWordChar_of_isDigit hdigit)
    simp only [isPlainChar, Bool.and_eq_true, decide_eq_true_eq]
    omega
  · decide

/-- The identifier of a page is written without quotes. -/
theorem needsQuotes_pageId {cs : List Char} {n : Nat}
    (h : Numeric.readWord32? (String.ofList cs) = some n) {s : String}
    (hs : s.toList = "id:page_".toList ++ cs) : needsQuotes s = false := by
  obtain ⟨hdigits, front, d, rfl, hd⟩ := exists_digits_of_readWord32? h
  have hcons : s.toList = 'i' :: 'd' :: ':' :: ("page_".toList ++ (front ++ [d])) := hs
  have hlast : s.toList.getLast? = some d := by
    rw [hs, ← List.append_assoc, List.getLast?_concat]
  have hchars : ∀ c ∈ s.toList, isPageChar c = true := by
    intro c hc
    rw [hs, List.mem_append] at hc
    simp only [isPageChar, Bool.or_eq_true, List.contains_iff_mem, beq_iff_eq, or_assoc]
    exact hc.imp_right (hdigits c)
  have hnot : ∀ c, isPageChar c = false → c ∉ s.toList := by
    intro c hother hc
    rw [hchars c hc] at hother
    cases hother
  have hplain : s.toList.all isPlainChar = true :=
    List.all_eq_true.2 fun c hc => isPlainChar_of_isPageChar (hchars c hc)
  -- It ends in a digit, and so neither in a blank nor in a colon.
  have hdne : ∀ c : Char, c.isDigit = false → d ≠ c := by
    rintro c hc rfl
    rw [hc] at hd
    cases hd
  have hreserved : reservedWords.contains (Text.lower s) = false := by
    have hcolon : ∀ word ∈ reservedWords, ':' ∉ word.toList := by decide
    rw [← Bool.not_eq_true, List.contains_iff_mem]
    intro hmem
    refine hcolon _ hmem ?_
    rw [Text.lower, String.toList_ofList, hcons]
    exact List.mem_map.2 ⟨':', by simp, by decide⟩
  rw [needsQuotes, hplain, hlast, hasPair_eq_false (hnot ' ' (by decide)),
    hasPair_eq_false (hnot '#' (by decide)), hreserved, looksNumeric_eq_false hcons, hcons]
  simp [hdne]
  decide

/-- Among the characters that need no quotes the space is the only blank. -/
theorem eq_space_of_isBlank {c : Char} (hplain : isPlainChar c = true) (h : isBlank c = true) :
    c = ' ' := by
  simp only [isPlainChar, Bool.and_eq_true, decide_eq_true_eq] at hplain
  simp only [isBlank, Bool.or_eq_true, Bool.and_eq_true, decide_eq_true_eq, beq_iff_eq] at h
  refine Char.toNat_inj.1 ?_
  have : ' '.toNat = 32 := rfl
  omega

/-- An identifier that needs no quotes has no blanks at its ends. -/
theorem trimChars_of_needsQuotes {s : String} (h : needsQuotes s = false) {id : List Char}
    (hs : s.toList = "id:".toList ++ id) : trimChars id = id := by
  have hcons : s.toList = 'i' :: 'd' :: ':' :: id := hs
  simp only [needsQuotes, Bool.or_eq_false_iff, Bool.not_eq_false'] at h
  obtain ⟨⟨⟨⟨⟨⟨⟨⟨⟨-, hchars⟩, -⟩, hlast⟩, -⟩, hpair⟩, -⟩, -⟩, -⟩, -⟩ := h
  have hspace : ∀ c ∈ id, isBlank c = true → c = ' ' := by
    intro c hc
    refine eq_space_of_isBlank (List.all_eq_true.1 hchars c ?_)
    rw [hs]
    exact List.mem_append_right _ hc
  refine trimChars_eq_self (fun c hc => ?_) (fun c hc => ?_)
  · rw [← Bool.not_eq_true]
    intro hblank
    obtain ⟨more, rfl⟩ := List.head?_eq_some_iff.1 hc
    rw [hspace c List.mem_cons_self hblank] at hcons
    rw [hcons] at hpair
    simp [hasPair] at hpair
  · rw [← Bool.not_eq_true]
    intro hblank
    obtain ⟨front, rfl⟩ := List.getLast?_eq_some_iff.1 hc
    rw [hspace c (List.mem_append_right _ (List.mem_singleton.2 rfl)) hblank, ← List.append_assoc] at hs
    rw [hs, List.getLast?_concat] at hlast
    cases hlast

/-- An item without a tag says what it says as the identifier of a page. -/
theorem classify_textItem {s : String} (h : code? s = none) :
    [classify ("- " ++ textScalar s)].filter (· ≠ .other) = (Held.item s).said := by
  rw [Held.said, h]
  dsimp only
  by_cases hquotes : needsQuotes s = true
  · have hother : classify ("- " ++ textScalar s) = .other := by
      rw [textScalar, if_pos hquotes]
      refine classify_dash ?_
      rw [quoted, String.toList_ofList]
      simp
    have hnone : ((after? "id:page_" s.toList).bind fun n => Numeric.readWord32? (String.ofList n))
        = none := by
      rw [Option.eq_none_iff_forall_ne_some]
      intro n hn
      obtain ⟨cs, hcs, hread⟩ := Option.bind_eq_some_iff.1 hn
      rw [needsQuotes_pageId hread (after?_eq_some_iff.1 hcs)] at hquotes
      cases hquotes
    rw [hother, hnone]
    rfl
  · rw [textScalar, if_neg hquotes]
    rw [Bool.not_eq_true] at hquotes
    by_cases hid : "id:".toList <+: s.toList
    · obtain ⟨id, hid⟩ := hid
      have hrow : "- " ++ s = "" ++ ("- id:" ++ String.ofList id) := by
        rw [← String.toList_inj]
        simp [← hid]
      have hafter : after? "id:page_" s.toList = after? "page_" id := by
        rw [← hid]
        rfl
      rw [hrow, classify_id (by decide), String.toList_ofList,
        trimChars_of_needsQuotes hquotes hid.symm, hafter]
      cases (after? "page_" id).bind fun n => Numeric.readWord32? (String.ofList n) <;> rfl
    · have hlead : ¬"id:page_".toList <+: s.toList := fun hpre =>
        hid (List.IsPrefix.trans (by decide) hpre)
      rw [classify_dash hid, after?_eq_none hlead]
      rfl

theorem says_textItem (indent : Nat) {s : String} (h : code? s = none) :
    Says [Row.text ⟨indent, "- " ++ textScalar s⟩] (Held.item s).said where
  oneLine := by
    rw [List.forall_mem_singleton]
    exact oneLine_append.2 ⟨oneLine_spaces indent, oneLine_append.2 ⟨by decide, oneLine_textScalar s⟩⟩
  said_eq := by
    rw [← classify_textItem h, Line.said, List.map_singleton, Row.text, classify_spaces]

/-- What code behind a tag says. -/
theorem said_of_code {s code : String} (h : code? s = some code) :
    (Held.value s).said = Line.said (Text.lines code) ∧ (Held.item s).said = Line.said (Text.lines code) := by
  rw [Held.said, Held.said, h]
  exact ⟨rfl, rfl⟩

/-- The body of an entry, with its lead apart. -/
theorem entryBody {body rest : String} (h : body = ":" ++ rest) (key : String) :
    textScalar key ++ body = entryLead key ++ rest := by
  rw [entryLead, h, String.append_assoc]

theorem entryBody_inline (key : String) (j : Json) :
    textScalar key ++ ": " ++ inlineText j = entryLead key ++ (" " ++ inlineText j) := by
  rw [entryBody (by decide : ": " = ":" ++ " "), String.append_assoc]

/-- An entry on one line says nothing. -/
theorem exists_inlineRow {indent : Nat} {key : String} {j : Json}
    (h : entryRows indent key j = [⟨indent, textScalar key ++ ": " ++ inlineText j⟩]) :
    ∃ rest more, entryRows indent key j = ⟨indent, entryLead key ++ rest⟩ :: more ∧ OneLine rest
      ∧ Says (more.map Row.text) [] := by
  refine ⟨" " ++ inlineText j, [], ?_, ?_, says_of_silent (List.forall_mem_nil _)⟩
  · rw [h, entryBody_inline]
  · exact oneLine_append.2 ⟨by decide, oneLine_inlineText j⟩

theorem itemsTexts_of_isFlow {items : List Json} (h : isFlow items = true) : itemsTexts items = [] := by
  induction items with
  | nil => rfl
  | cons j items ih =>
    rw [isFlow, List.all_cons, Bool.and_eq_true] at h
    cases j with
    | number n => exact ih h.2
    | _ => cases h.1

/-- The row of a scalar or of a sequence on one line, as an item. -/
theorem says_inlineItem (indent : Nat) {j : Json} (h : ¬"id:".toList <+: (inlineText j).toList) :
    Says [Row.text ⟨indent, "- " ++ inlineText j⟩] [] :=
  says_of_silent (List.forall_mem_singleton.2 (silent_row (silent_dash h (oneLine_inlineText j))))

theorem silent_code : Silent "- !lambda |-" := by decide

theorem silent_emptyItem : Silent "- \x7b\x7d" := by decide

mutual

/-- The row of a key, and what is said below it. -/
theorem exists_entryRows (indent : Nat) (key : String) : (j : Json) → isTree j = true →
    ∃ rest more, entryRows indent key j = ⟨indent, entryLead key ++ rest⟩ :: more ∧ OneLine rest
      ∧ Says (more.map Row.text) ((texts j).flatMap Held.said)
  | .string s, _ => by
    rw [texts, List.flatMap_singleton]
    cases hcode : code? s with
    | some code =>
      rw [(said_of_code hcode).1]
      refine ⟨" !lambda |-", codeRows (indent + 2) code, ?_, by decide, says_codeRows (indent + 2) code⟩
      rw [entryRows, hcode]
      dsimp only
      rw [entryBody (by decide : ": !lambda |-" = ":" ++ " !lambda |-")]
    | none =>
      rw [Held.said, hcode]
      refine exists_inlineRow ?_
      rw [entryRows, hcode]
      rfl
  | .object entries, h => by
    rw [texts, entryRows]
    by_cases hempty : entries.isEmpty = true
    · rw [if_pos hempty, List.isEmpty_iff.1 hempty, entryBody (by decide : _ = ":" ++ " \x7b\x7d")]
      exact ⟨_, [], rfl, by decide, says_of_silent (List.forall_mem_nil _)⟩
    · rw [if_neg hempty]
      exact ⟨"", _, by rw [entryLead, String.append_empty], by decide,
        says_entriesRows (indent + 2) entries h⟩
  | .array items, h => by
    by_cases hflow : isFlow items = true
    · rw [texts, itemsTexts_of_isFlow hflow]
      refine exists_inlineRow ?_
      rw [entryRows, if_pos hflow]
    · rw [texts, entryRows, if_neg hflow]
      exact ⟨"", _, by rw [entryLead, String.append_empty], by decide,
        says_itemsRows (indent + 2) items h⟩
  | .null, _ => exists_inlineRow (by simp only [entryRows])
  | .bool b, _ => exists_inlineRow (by simp only [entryRows])
  | .number n, _ => exists_inlineRow (by simp only [entryRows])

theorem says_entriesRows (indent : Nat) : (entries : List (String × Json)) →
    areEntries entries = true →
    Says ((entriesRows indent entries).map Row.text) ((entriesTexts entries).flatMap Held.said)
  | [], _ => says_of_silent (List.forall_mem_nil _)
  | (key, j) :: rest, h => by
    simp only [areEntries, Bool.and_eq_true] at h
    obtain ⟨⟨hkey, hj⟩, hrest⟩ := h
    obtain ⟨tail, more, hrows, htail, hmore⟩ := exists_entryRows indent key j hj
    rw [entriesRows, entriesTexts, hrows, List.map_append, List.flatMap_append, List.map_cons]
    exact (hmore.cons (silent_row (silent_entry hkey htail))).append (says_entriesRows indent rest hrest)

/-- **An item says what its texts say.** -/
theorem says_itemRows (indent : Nat) : (j : Json) → isItem j = true →
    Says ((itemRows indent j).map Row.text) ((itemTexts j).flatMap Held.said)
  | .string s, _ => by
    rw [itemTexts, List.flatMap_singleton, itemRows]
    cases hcode : code? s with
    | some code =>
      rw [(said_of_code hcode).2]
      exact (says_codeRows (indent + 2) code).cons (silent_row silent_code)
    | none => exact says_textItem indent hcode
  | .object entries, h => by
    rw [isItem, Bool.and_eq_true] at h
    obtain ⟨hhead, hentries⟩ := h
    match entries with
    | [] => exact says_of_silent (List.forall_mem_singleton.2 (silent_row silent_emptyItem))
    | (key, j) :: rest =>
      -- The row of the first entry has the dash, the others stand below it.
      simp only [areEntries, Bool.and_eq_true] at hentries
      obtain ⟨⟨hkey, hj⟩, hrest⟩ := hentries
      have hid : key ≠ "id" := by simpa using hhead
      obtain ⟨tail, more, hrows, htail, hmore⟩ := exists_entryRows (indent + 2) key j hj
      have hitem : itemRows indent (.object ((key, j) :: rest))
          = ⟨indent, "- " ++ (entryLead key ++ tail)⟩ :: (more ++ entriesRows (indent + 2) rest) := by
        rw [itemRows, entriesRows, hrows]
        rfl
      rw [hitem, itemTexts, entriesTexts, List.map_cons, List.map_append, List.flatMap_append]
      exact (hmore.append (says_entriesRows (indent + 2) rest hrest)).cons
        (silent_row (silent_dash_entry hkey hid htail))
  | .array items, h => by
    have hflow : isFlow items = true := h
    rw [itemRows, if_pos hflow]
    refine says_inlineItem indent ?_
    rw [inlineText, String.append_assoc, String.toList_append]
    simp
  | .null, _ => says_inlineItem indent (by decide)
  | .bool b, _ => says_inlineItem indent (by cases b <;> decide)
  | .number n, _ => says_inlineItem indent fun hpre =>
      absurd (isNumberChar_of_mem_text (hpre.subset (by decide : ':' ∈ "id:".toList))) (by decide)

theorem says_itemsRows (indent : Nat) : (items : List Json) → areItems items = true →
    Says ((itemsRows indent items).map Row.text) ((itemsTexts items).flatMap Held.said)
  | [], _ => says_of_silent (List.forall_mem_nil _)
  | j :: rest, h => by
    rw [areItems, Bool.and_eq_true] at h
    rw [itemsRows, itemsTexts, List.map_append, List.flatMap_append]
    exact (says_itemRows indent j h.1).append (says_itemsRows indent rest h.2)

end

/-- The rows of an entry say what the texts of its value say. -/
theorem says_entryRows (indent : Nat) {key : String} (hkey : isKey key = true) (j : Json)
    (hj : isTree j = true) :
    Says ((entryRows indent key j).map Row.text) ((texts j).flatMap Held.said) := by
  obtain ⟨tail, more, hrows, htail, hmore⟩ := exists_entryRows indent key j hj
  rw [hrows, List.map_cons]
  exact hmore.cons (silent_row (silent_entry hkey htail))

end Yaml

end DisplayLayout
