import DisplayLayout.Proofs.Yaml.Scalar

/-!
# A document comes from one tree only

Indentation alone holds the rows of a tree together. An entry or an item is one
row and the rows further in below it, and the next one begins where a row stands
as far out again; so equal rows come apart in the same places (`Yaml.Block.split`).
What a row starts is told by its characters: a dash, a key, or a tree on one line.
From both it follows, down the tree, that two trees with the same document are
equal (`Yaml.document_inj`).
-/

namespace DisplayLayout.Yaml

open Text

variable {leaves : List Json} {indent : Nat}

/-! ## Rows and their texts -/

/-- A row that can be told from its text. -/
structure Row.Clear (r : Row) : Prop where
  oneLine : OneLine r.body
  head?_ne : r.body.toList.head? ≠ some ' '

/-- The indentation of a row ends where its body starts. -/
theorem Row.text_inj {r r' : Row} (h : r.Clear) (h' : r'.Clear) (heq : r.text = r'.text) : r = r' := by
  have hspaces : ∀ r : Row, r.Clear →
      r.text.toList.takeWhile (· == ' ') = List.replicate r.indent ' ' := by
    intro r hr
    rw [Row.text, String.toList_append, spaces, String.toList_ofList]
    refine takeWhile_append_stop (fun c hc => ?_) fun c hc => ?_
    · rw [List.eq_of_mem_replicate hc]
      rfl
    · rw [beq_eq_false_iff_ne]
      rintro rfl
      exact hr.head?_ne hc
  have hindent : r.indent = r'.indent := by
    have hlength := congrArg List.length (hspaces r h)
    rw [heq, hspaces r' h', List.length_replicate, List.length_replicate] at hlength
    exact hlength.symm
  rw [Row.text, Row.text, hindent, String.append_right_inj] at heq
  obtain ⟨n, body⟩ := r
  obtain ⟨n', body'⟩ := r'
  rw [Row.mk.injEq]
  exact ⟨hindent, heq⟩

/-- Rows that stand at an indentation or further in. -/
def Within (indent : Nat) (rows : List Row) : Prop := ∀ r ∈ rows, indent ≤ r.indent ∧ r.Clear

theorem Within.mono {inner : Nat} {rows : List Row} (h : Within inner rows) (hle : indent ≤ inner) :
    Within indent rows := fun r hr => ⟨hle.trans (h r hr).1, (h r hr).2⟩

theorem Within.append {rows more : List Row} (h : Within indent rows) (hmore : Within indent more) :
    Within indent (rows ++ more) := List.forall_mem_append.2 ⟨h, hmore⟩

/-- Rows of which the first one stands furthest out. -/
structure Opens (indent : Nat) (rows : List Row) : Prop where
  starts : ∃ body more, rows = ⟨indent, body⟩ :: more
  within : Within indent rows

/-- A row, and rows below it that stand further in. -/
inductive Block (indent : Nat) : List Row → Prop
  | intro {body : String} {below : List Row} (clear : Row.Clear ⟨indent, body⟩)
      (within : Within (indent + 1) below) : Block indent (⟨indent, body⟩ :: below)

theorem Block.opens {rows : List Row} (h : Block indent rows) : Opens indent rows := by
  cases h with
  | intro clear within =>
    refine ⟨⟨_, _, rfl⟩, ?_⟩
    rw [Within, List.forall_mem_cons]
    exact ⟨⟨Nat.le_refl _, clear⟩, within.mono (Nat.le_succ _)⟩

theorem Opens.append {rows more : List Row} (h : Opens indent rows) (hmore : Within indent more) :
    Opens indent (rows ++ more) := by
  obtain ⟨body, below, rfl⟩ := h.starts
  exact ⟨⟨body, below ++ more, rfl⟩, h.within.append hmore⟩

/-- **Where one block ends the next one begins,** so equal rows have equal blocks. -/
theorem Block.split {rows rows' more more' : List Row} (h : Block indent rows)
    (h' : Block indent rows') (hmore : ∀ r ∈ more.head?, r.indent ≤ indent)
    (hmore' : ∀ r ∈ more'.head?, r.indent ≤ indent) (heq : rows ++ more = rows' ++ more') :
    rows = rows' ∧ more = more' := by
  have hbelow : ∀ {below more : List Row}, Within (indent + 1) below →
      (∀ r ∈ more.head?, r.indent ≤ indent) →
      (below ++ more).takeWhile (fun r => decide (indent < r.indent)) = below := by
    intro below more hwithin hmore
    refine takeWhile_append_stop (fun r hr => ?_) fun r hr => ?_
    · exact decide_eq_true (hwithin r hr).1
    · exact decide_eq_false (Nat.not_lt.2 (hmore r hr))
  have hrows : rows = rows' := by
    cases h with
    | intro _ hwithin =>
      cases h' with
      | intro _ hwithin' =>
        rw [List.cons_append, List.cons_append, List.cons.injEq] at heq
        rw [heq.1, ← hbelow hwithin hmore, heq.2, hbelow hwithin' hmore']
  subst hrows
  exact ⟨rfl, List.append_cancel_left heq⟩

/-! ## The dash of an item -/

theorem dashFirst_cons (body : String) (more : List Row) (inner : Nat) :
    dashFirst indent (⟨inner, body⟩ :: more) = ⟨indent, "- " ++ body⟩ :: more := rfl

/-- The dash takes the place of the indentation. -/
theorem dashFirst_inj {rows rows' : List Row} (h : Opens (indent + 2) rows)
    (h' : Opens (indent + 2) rows') (heq : dashFirst indent rows = dashFirst indent rows') :
    rows = rows' := by
  obtain ⟨body, more, rfl⟩ := h.starts
  obtain ⟨body', more', rfl⟩ := h'.starts
  rw [dashFirst_cons, dashFirst_cons, List.cons.injEq, Row.mk.injEq, String.append_right_inj] at heq
  rw [heq.1.2, heq.2]

theorem block_dashFirst {rows : List Row} (h : Opens (indent + 2) rows) :
    Block indent (dashFirst indent rows) := by
  obtain ⟨body, more, rfl⟩ := h.starts
  have hwithin := List.forall_mem_cons.1 h.within
  rw [dashFirst_cons]
  refine .intro ⟨?_, ?_⟩ fun r hr => ⟨Nat.le_of_succ_le (hwithin.2 r hr).1, (hwithin.2 r hr).2⟩
  · exact oneLine_append.2 ⟨by decide, hwithin.1.2.oneLine⟩
  · rw [String.toList_append]
    simp

/-! ## Entries and items -/

/-- An entry: its value on the row of the key, or below it. -/
theorem entryRows_eq (indent : Nat) (key : String) {j : Json}
    (hcode : ∀ s, j = .string s → code? s = none) :
    entryRows indent key j = if isInline j = true then [⟨indent, textScalar key ++ ": " ++ inlineText j⟩]
      else ⟨indent, textScalar key ++ ":"⟩ :: rows (indent + 2) j := by
  cases j with
  | string s =>
    rw [entryRows, hcode s rfl]
    rfl
  | object entries =>
    rw [entryRows, isInline, rows, mapRows]
    by_cases hempty : entries.isEmpty = true
    · rw [if_pos hempty, if_pos hempty, inlineText, String.append_assoc]
      rfl
    · rw [if_neg hempty, if_neg hempty, if_neg hempty]
  | array items =>
    rw [entryRows, isInline, rows, sequenceRows]
    by_cases hflow : isFlow items = true
    · rw [if_pos hflow, if_pos hflow]
    · have hempty : ¬items.isEmpty = true := by
        intro hempty
        rw [List.isEmpty_iff.1 hempty] at hflow
        exact hflow rfl
      rw [if_neg hflow, if_neg hflow, if_neg hempty]
  | _ => simp only [entryRows, isInline, if_true]

/-- An item: a tree on one line, or one that starts behind the dash. -/
theorem itemRows_eq (indent : Nat) {j : Json} (hcode : ∀ s, j = .string s → code? s = none) :
    itemRows indent j = dashFirst indent
      (if isInline j = true then [⟨indent + 2, inlineText j⟩] else rows (indent + 2) j) := by
  cases j with
  | string s =>
    rw [itemRows, hcode s rfl]
    rfl
  | object entries =>
    rw [itemRows, isInline, rows, mapRows]
    by_cases hempty : entries.isEmpty = true
    · rw [if_pos hempty, if_pos hempty, inlineText]
      rfl
    · rw [if_neg hempty, if_neg hempty, if_neg hempty]
  | array items =>
    rw [itemRows, isInline, rows, sequenceRows]
    by_cases hflow : isFlow items = true
    · rw [if_pos hflow, if_pos hflow]
      rfl
    · have hempty : ¬items.isEmpty = true := by
        intro hempty
        rw [List.isEmpty_iff.1 hempty] at hflow
        exact hflow rfl
      rw [if_neg hflow, if_neg hflow, if_neg hempty]
  | _ => simp only [itemRows, isInline, if_true, dashFirst]

/-! ## Where rows stand -/

/-- No leaf is written as a block of code. -/
theorem Legible.code?_leaf (hleg : Legible leaves) {j : Json} (hj : j.leaves ⊆ leaves) :
    ∀ s, j = .string s → code? s = none := by
  rintro s rfl
  exact hleg.code?_eq s (hj List.mem_cons_self)

/-- The row of a key is clear. -/
theorem clear_entry (indent : Nat) (key : String) {rest : String} (hrest : OneLine rest) :
    Row.Clear ⟨indent, textScalar key ++ rest⟩ := by
  obtain ⟨c, cs, hcs, hspace, -⟩ := exists_head_textScalar key
  refine ⟨oneLine_append.2 ⟨oneLine_textScalar key, hrest⟩, ?_⟩
  rw [String.toList_append, hcs]
  simpa using hspace

theorem clear_inlineText (hleg : Legible leaves) {j : Json} (hj : j.leaves ⊆ leaves) (indent : Nat) :
    Row.Clear ⟨indent, inlineText j⟩ := by
  refine ⟨oneLine_inlineText j, ?_⟩
  show (inlineText j).toList.head? ≠ some ' '
  cases j with
  | null => decide
  | bool b => cases b <;> decide
  | number n =>
    obtain ⟨c, cs, hcs, hc⟩ := exists_head_number (hleg.isNumeral n (hj List.mem_cons_self))
    show n.text.toList.head? ≠ some ' '
    rw [hcs, List.head?_cons]
    rintro ⟨⟩
    exact absurd hc (by decide)
  | string s =>
    obtain ⟨c, cs, hcs, hspace, -⟩ := exists_head_textScalar s
    show (textScalar s).toList.head? ≠ some ' '
    rw [hcs]
    simpa using hspace
  | array items =>
    show ("[" ++ join ", " (items.map inlineText.scalarItem) ++ "]").toList.head? ≠ some ' '
    rw [String.append_assoc, String.toList_append]
    simp
  | object entries => exact (by decide : "\x7b\x7d".toList.head? ≠ some ' ')

theorem block_entryRows (hleg : Legible leaves) {j : Json} (hj : j.leaves ⊆ leaves) (key : String)
    (hrows : Within (indent + 2) (rows (indent + 2) j)) : Block indent (entryRows indent key j) := by
  rw [entryRows_eq indent key (hleg.code?_leaf hj)]
  by_cases hin : isInline j = true
  · rw [if_pos hin, String.append_assoc]
    refine .intro (clear_entry indent key ?_) (List.forall_mem_nil _)
    exact oneLine_append.2 ⟨by decide, oneLine_inlineText j⟩
  · rw [if_neg hin]
    exact .intro (clear_entry indent key (by decide)) (hrows.mono (Nat.le_succ _))

theorem block_itemRows (hleg : Legible leaves) {j : Json} (hj : j.leaves ⊆ leaves)
    (hrows : Opens (indent + 2) (rows (indent + 2) j)) : Block indent (itemRows indent j) := by
  rw [itemRows_eq indent (hleg.code?_leaf hj)]
  refine block_dashFirst ?_
  by_cases hin : isInline j = true
  · rw [if_pos hin]
    exact (Block.intro (clear_inlineText hleg hj _) (List.forall_mem_nil _)).opens
  · rwa [if_neg hin]

theorem opens_singleton {body : String} (h : Row.Clear ⟨indent, body⟩) :
    Opens indent [⟨indent, body⟩] := (Block.intro h (List.forall_mem_nil _)).opens

mutual

/-- **The first row of a tree stands furthest out,** and all rows are clear. -/
theorem opens_rows (hleg : Legible leaves) (indent : Nat) : (j : Json) → j.leaves ⊆ leaves →
    Opens indent (rows indent j)
  | .object [], h => opens_singleton (clear_inlineText hleg h indent)
  | .object ((key, j) :: rest), h => by
    have hparts := List.append_subset.1 h
    rw [rows, mapRows, if_neg (by simp), entriesRows]
    have hblock := block_entryRows hleg hparts.1 key (opens_rows hleg (indent + 2) j hparts.1).within
    exact hblock.opens.append (within_entriesRows hleg indent rest hparts.2)
  | .array [], h => opens_singleton (clear_inlineText hleg h indent)
  | .array (j :: rest), h => by
    have hparts := List.append_subset.1 h
    rw [rows, sequenceRows, if_neg (by simp), itemsRows]
    have hblock := block_itemRows hleg hparts.1 (opens_rows hleg (indent + 2) j hparts.1)
    exact hblock.opens.append (within_itemsRows hleg indent rest hparts.2)
  | .null, h => opens_singleton (clear_inlineText hleg h indent)
  | .bool _, h => opens_singleton (clear_inlineText hleg h indent)
  | .number _, h => opens_singleton (clear_inlineText hleg h indent)
  | .string _, h => opens_singleton (clear_inlineText hleg h indent)

theorem within_entriesRows (hleg : Legible leaves) (indent : Nat) : (entries : List (String × Json)) →
    Json.entryLeaves entries ⊆ leaves → Within indent (entriesRows indent entries)
  | [], _ => List.forall_mem_nil _
  | (key, j) :: rest, h => by
    have hparts := List.append_subset.1 h
    have hblock := block_entryRows hleg hparts.1 key (opens_rows hleg (indent + 2) j hparts.1).within
    rw [entriesRows]
    exact hblock.opens.within.append (within_entriesRows hleg indent rest hparts.2)

theorem within_itemsRows (hleg : Legible leaves) (indent : Nat) : (items : List Json) →
    Json.itemLeaves items ⊆ leaves → Within indent (itemsRows indent items)
  | [], _ => List.forall_mem_nil _
  | j :: rest, h => by
    have hparts := List.append_subset.1 h
    have hblock := block_itemRows hleg hparts.1 (opens_rows hleg (indent + 2) j hparts.1)
    rw [itemsRows]
    exact hblock.opens.within.append (within_itemsRows hleg indent rest hparts.2)

end

/-! ## How rows start -/

/-- A row that starts an entry: a key, its colon, and a value behind a space or none at all. -/
theorem exists_entryHead (hleg : Legible leaves) {j : Json} (hj : j.leaves ⊆ leaves) (indent : Nat)
    (key : String) : ∃ rest below, entryRows indent key j
      = ⟨indent, entryLead key ++ rest⟩ :: below ∧ endsKey rest.toList = true := by
  rw [entryRows_eq indent key (hleg.code?_leaf hj)]
  by_cases hin : isInline j = true
  · rw [if_pos hin]
    refine ⟨" " ++ inlineText j, [], ?_, ?_⟩
    · rw [entryBody_inline]
    · rw [String.toList_append]
      rfl
  · rw [if_neg hin]
    refine ⟨"", rows (indent + 2) j, ?_, rfl⟩
    rw [entryLead, String.append_empty]

theorem splitKey?_entryHead (key : String) {rest : String} (hrest : endsKey rest.toList = true) :
    splitKey? (entryLead key ++ rest).toList = some (key.toList, rest.toList) := by
  rw [String.toList_append, toList_entryLead, List.append_assoc]
  exact splitKey?_entry key hrest

theorem exists_itemHead (hleg : Legible leaves) {j : Json} (hj : j.leaves ⊆ leaves) (indent : Nat) :
    ∃ rest below, itemRows indent j = ⟨indent, "- " ++ rest⟩ :: below := by
  have hopens := opens_rows hleg (indent + 2) j hj
  rw [itemRows_eq indent (hleg.code?_leaf hj)]
  by_cases hin : isInline j = true
  · rw [if_pos hin]
    exact ⟨_, _, rfl⟩
  · rw [if_neg hin]
    obtain ⟨body, more, hrows⟩ := hopens.starts
    rw [hrows]
    exact ⟨_, _, rfl⟩

/-- A key does not look like a dash. -/
theorem entryLead_ne_dash (key rest rest' : String) : entryLead key ++ rest ≠ "- " ++ rest' := by
  obtain ⟨c, cs, hcs, -, hc⟩ := exists_head_textScalar key
  intro h
  have hchars := congrArg (fun s : String => s.toList.head?) h
  simp only [String.toList_append, toList_entryLead, hcs, List.cons_append, List.head?_cons] at hchars
  have hdash : c = '-' := Option.some.inj hchars
  subst hdash
  rcases hc with hquote | hind
  · exact absurd hquote (by decide)
  · exact hind (by decide)

/-- The rows of a tree: one line, entries, or items. -/
theorem rows_cases (indent : Nat) (j : Json) :
    (isInline j = true ∧ rows indent j = [⟨indent, inlineText j⟩])
      ∨ (∃ e rest, j = .object (e :: rest)) ∨ ∃ item rest, j = .array (item :: rest) := by
  cases j with
  | object entries =>
    cases entries with
    | nil => exact Or.inl ⟨rfl, rfl⟩
    | cons e rest => exact Or.inr (Or.inl ⟨e, rest, rfl⟩)
  | array items =>
    cases items with
    | nil => exact Or.inl ⟨rfl, rfl⟩
    | cons item rest => exact Or.inr (Or.inr ⟨item, rest, rfl⟩)
  | _ => exact Or.inl ⟨rfl, rfl⟩

/-- The first row of entries. -/
theorem exists_objectHead (hleg : Legible leaves) {key : String} {j : Json}
    {rest : List (String × Json)} (h : Json.entryLeaves ((key, j) :: rest) ⊆ leaves) (indent : Nat) :
    ∃ tail below, rows indent (.object ((key, j) :: rest))
      = ⟨indent, entryLead key ++ tail⟩ :: below ∧ endsKey tail.toList = true := by
  obtain ⟨tail, below, hhead, htail⟩ := exists_entryHead hleg (List.append_subset.1 h).1 indent key
  refine ⟨tail, below ++ entriesRows indent rest, ?_, htail⟩
  rw [rows, mapRows, if_neg (by simp), entriesRows, hhead, List.cons_append]

/-- The first row of items. -/
theorem exists_arrayHead (hleg : Legible leaves) {j : Json} {rest : List Json}
    (h : Json.itemLeaves (j :: rest) ⊆ leaves) (indent : Nat) :
    ∃ tail below, rows indent (.array (j :: rest)) = ⟨indent, "- " ++ tail⟩ :: below := by
  obtain ⟨tail, below, hhead⟩ := exists_itemHead hleg (List.append_subset.1 h).1 indent
  refine ⟨tail, below ++ itemsRows indent rest, ?_⟩
  rw [rows, sequenceRows, if_neg (by simp), itemsRows, hhead, List.cons_append]

/-- The first row of entries or items starts something. -/
theorem exists_lead (hleg : Legible leaves) {j : Json} (hj : j.leaves ⊆ leaves)
    (hkind : (∃ e rest, j = .object (e :: rest)) ∨ ∃ item rest, j = .array (item :: rest))
    (indent : Nat) : ∃ body below, rows indent j = ⟨indent, body⟩ :: below ∧ isLead body = true := by
  rcases hkind with ⟨⟨key, value⟩, rest, rfl⟩ | ⟨item, rest, rfl⟩
  · obtain ⟨tail, below, hhead, htail⟩ := exists_objectHead hleg hj indent
    refine ⟨_, below, hhead, ?_⟩
    rw [isLead, splitKey?_entryHead key htail, Option.isSome_some, Bool.or_true]
  · obtain ⟨tail, below, hhead⟩ := exists_arrayHead hleg hj indent
    refine ⟨_, below, hhead, ?_⟩
    rw [isLead, String.toList_append, Bool.or_eq_true]
    left
    exact List.isPrefixOf_iff_prefix.2 (List.prefix_append _ _)

/-- A tree on one line has not the rows of entries or items. -/
theorem rows_ne_inline (hleg : Legible leaves) {j j' : Json} (hj : j.leaves ⊆ leaves)
    (hj' : j'.leaves ⊆ leaves) (hin : isInline j = true)
    (hkind : (∃ e rest, j' = .object (e :: rest)) ∨ ∃ item rest, j' = .array (item :: rest))
    (indent : Nat) : rows indent j' ≠ [⟨indent, inlineText j⟩] := by
  obtain ⟨body, below, hhead, hlead⟩ := exists_lead hleg hj' hkind indent
  intro h
  rw [hhead, List.cons.injEq, Row.mk.injEq] at h
  rw [h.1.2, isLead_inlineText hleg hj hin] at hlead
  cases hlead

/-! ## Equal rows, equal trees -/

/-- A tree on one line is the only one with its row. -/
theorem eq_of_rows_inline (hleg : Legible leaves) {a b : Json} (ha : a.leaves ⊆ leaves)
    (hb : b.leaves ⊆ leaves) (hin : isInline a = true) (hrows : rows indent a = [⟨indent, inlineText a⟩])
    (h : rows indent a = rows indent b) : a = b := by
  rcases rows_cases indent b with ⟨hin', hrows'⟩ | hkind
  · rw [hrows, hrows', List.cons.injEq, Row.mk.injEq] at h
    exact inlineText_inj hleg ha hb hin hin' h.1.2
  · exact absurd (h.symm.trans hrows) (rows_ne_inline hleg ha hb hin hkind indent)

/-- Only entries have the rows of entries. -/
theorem exists_object_of_rows (hleg : Legible leaves) {e : String × Json} {rest : List (String × Json)}
    {b : Json} (ha : (Json.object (e :: rest)).leaves ⊆ leaves) (hb : b.leaves ⊆ leaves)
    (h : rows indent (.object (e :: rest)) = rows indent b) :
    ∃ others, b = .object others ∧ entriesRows indent (e :: rest) = entriesRows indent others := by
  rcases rows_cases indent b with ⟨hin, hrows⟩ | ⟨e', rest', rfl⟩ | ⟨item, rest', rfl⟩
  · exact absurd (h.trans hrows) (rows_ne_inline hleg hb ha hin (Or.inl ⟨e, rest, rfl⟩) indent)
  · exact ⟨e' :: rest', rfl, h⟩
  · obtain ⟨tail, below, hhead, -⟩ := exists_objectHead hleg ha indent
    obtain ⟨tail', below', hhead'⟩ := exists_arrayHead hleg hb indent
    rw [hhead, hhead', List.cons.injEq, Row.mk.injEq] at h
    exact absurd h.1.2 (entryLead_ne_dash _ _ _)

/-- Only items have the rows of items. -/
theorem exists_array_of_rows (hleg : Legible leaves) {item : Json} {rest : List Json} {b : Json}
    (ha : (Json.array (item :: rest)).leaves ⊆ leaves) (hb : b.leaves ⊆ leaves)
    (h : rows indent (.array (item :: rest)) = rows indent b) :
    ∃ others, b = .array others ∧ itemsRows indent (item :: rest) = itemsRows indent others := by
  rcases rows_cases indent b with ⟨hin, hrows⟩ | ⟨e', rest', rfl⟩ | ⟨item', rest', rfl⟩
  · exact absurd (h.trans hrows) (rows_ne_inline hleg hb ha hin (Or.inr ⟨item, rest, rfl⟩) indent)
  · obtain ⟨tail, below, hhead⟩ := exists_arrayHead hleg ha indent
    obtain ⟨tail', below', hhead', -⟩ := exists_objectHead hleg hb indent
    rw [hhead, hhead', List.cons.injEq, Row.mk.injEq] at h
    exact absurd h.1.2.symm (entryLead_ne_dash _ _ _)
  · exact ⟨item' :: rest', rfl, h⟩

/-- Equal entries have equal keys; their values are equal, or have equal rows. -/
theorem entryRows_inj (hleg : Legible leaves) {key key' : String} {j j' : Json} (hj : j.leaves ⊆ leaves)
    (hj' : j'.leaves ⊆ leaves) (h : entryRows indent key j = entryRows indent key' j') :
    key = key' ∧ (j = j' ∨ rows (indent + 2) j = rows (indent + 2) j') := by
  have hkey : key = key' := by
    obtain ⟨tail, below, hhead, htail⟩ := exists_entryHead hleg hj indent key
    obtain ⟨tail', below', hhead', htail'⟩ := exists_entryHead hleg hj' indent key'
    rw [hhead, hhead', List.cons.injEq, Row.mk.injEq] at h
    have hsplit := splitKey?_entryHead key htail
    rw [h.1.2, splitKey?_entryHead key' htail'] at hsplit
    exact (String.toList_inj.1 (congrArg Prod.fst (Option.some.inj hsplit))).symm
  subst hkey
  refine ⟨rfl, ?_⟩
  rw [entryRows_eq indent key (hleg.code?_leaf hj), entryRows_eq indent key (hleg.code?_leaf hj')] at h
  -- A value on the row of its key leaves a space behind the colon, any other value leaves nothing.
  have hspace : ∀ t : String, textScalar key ++ ": " ++ t ≠ textScalar key ++ ":" := by
    intro t ht
    rw [String.append_assoc, String.append_right_inj] at ht
    have hchars : ':' :: ' ' :: t.toList = [':'] := by
      rw [← String.toList_inj, String.toList_append] at ht
      exact ht
    cases hchars
  by_cases hin : isInline j = true
  · by_cases hin' : isInline j' = true
    · rw [if_pos hin, if_pos hin', List.cons.injEq, Row.mk.injEq, String.append_right_inj] at h
      exact Or.inl (inlineText_inj hleg hj hj' hin hin' h.1.2)
    · rw [if_pos hin, if_neg hin', List.cons.injEq, Row.mk.injEq] at h
      exact absurd h.1.2 (hspace _)
  · by_cases hin' : isInline j' = true
    · rw [if_neg hin, if_pos hin', List.cons.injEq, Row.mk.injEq] at h
      exact absurd h.1.2.symm (hspace _)
    · rw [if_neg hin, if_neg hin', List.cons.injEq] at h
      exact Or.inr h.2

/-- Equal items are equal trees, or have equal rows behind the dash. -/
theorem itemRows_inj (hleg : Legible leaves) {j j' : Json} (hj : j.leaves ⊆ leaves)
    (hj' : j'.leaves ⊆ leaves) (h : itemRows indent j = itemRows indent j') :
    j = j' ∨ rows (indent + 2) j = rows (indent + 2) j' := by
  have hopens : ∀ {j : Json}, j.leaves ⊆ leaves → Opens (indent + 2)
      (if isInline j = true then [⟨indent + 2, inlineText j⟩] else rows (indent + 2) j) := by
    intro j hj
    by_cases hin : isInline j = true
    · rw [if_pos hin]
      exact opens_singleton (clear_inlineText hleg hj _)
    · rw [if_neg hin]
      exact opens_rows hleg _ j hj
  rw [itemRows_eq indent (hleg.code?_leaf hj), itemRows_eq indent (hleg.code?_leaf hj')] at h
  have hvalue := dashFirst_inj (hopens hj) (hopens hj') h
  by_cases hin : isInline j = true
  · by_cases hin' : isInline j' = true
    · rw [if_pos hin, if_pos hin', List.cons.injEq, Row.mk.injEq] at hvalue
      exact Or.inl (inlineText_inj hleg hj hj' hin hin' hvalue.1.2)
    · rw [if_pos hin, if_neg hin'] at hvalue
      have hkind := (rows_cases (indent + 2) j').resolve_left fun h => hin' h.1
      exact absurd hvalue.symm (rows_ne_inline hleg hj hj' hin hkind _)
  · by_cases hin' : isInline j' = true
    · rw [if_neg hin, if_pos hin'] at hvalue
      have hkind := (rows_cases (indent + 2) j).resolve_left fun h => hin h.1
      exact absurd hvalue (rows_ne_inline hleg hj' hj hin' hkind _)
    · rw [if_neg hin, if_neg hin'] at hvalue
      exact Or.inr hvalue

/-- The rows behind an entry start no further in than the entry. -/
theorem head?_entriesRows (hleg : Legible leaves) (indent : Nat) {entries : List (String × Json)}
    (h : Json.entryLeaves entries ⊆ leaves) :
    ∀ r ∈ (entriesRows indent entries).head?, r.indent ≤ indent := by
  cases entries with
  | nil => exact fun r hr => absurd hr (by simp [entriesRows])
  | cons e rest =>
    obtain ⟨tail, below, hhead, -⟩ := exists_objectHead hleg h indent
    rw [rows, mapRows, if_neg (by simp)] at hhead
    rw [hhead]
    rintro r ⟨⟩
    exact Nat.le_refl _

theorem head?_itemsRows (hleg : Legible leaves) (indent : Nat) {items : List Json}
    (h : Json.itemLeaves items ⊆ leaves) :
    ∀ r ∈ (itemsRows indent items).head?, r.indent ≤ indent := by
  cases items with
  | nil => exact fun r hr => absurd hr (by simp [itemsRows])
  | cons j rest =>
    obtain ⟨tail, below, hhead⟩ := exists_arrayHead hleg h indent
    rw [rows, sequenceRows, if_neg (by simp)] at hhead
    rw [hhead]
    rintro r ⟨⟩
    exact Nat.le_refl _

theorem within_rows (hleg : Legible leaves) {j : Json} (hj : j.leaves ⊆ leaves) :
    Within indent (rows indent j) := (opens_rows hleg indent j hj).within

mutual

/-- **Trees with equal rows are equal.** -/
theorem rows_inj (hleg : Legible leaves) (indent : Nat) : (a b : Json) → a.leaves ⊆ leaves →
    b.leaves ⊆ leaves → rows indent a = rows indent b → a = b
  | .object (e :: rest), b, ha, hb, h => by
    obtain ⟨others, rfl, hrows⟩ := exists_object_of_rows hleg ha hb h
    rw [entriesRows_inj hleg indent (e :: rest) others ha hb hrows]
  | .array (item :: rest), b, ha, hb, h => by
    obtain ⟨others, rfl, hrows⟩ := exists_array_of_rows hleg ha hb h
    rw [itemsRows_inj hleg indent (item :: rest) others ha hb hrows]
  | .object [], b, ha, hb, h => eq_of_rows_inline hleg ha hb rfl rfl h
  | .array [], b, ha, hb, h => eq_of_rows_inline hleg ha hb rfl rfl h
  | .null, b, ha, hb, h => eq_of_rows_inline hleg ha hb rfl rfl h
  | .bool _, b, ha, hb, h => eq_of_rows_inline hleg ha hb rfl rfl h
  | .number _, b, ha, hb, h => eq_of_rows_inline hleg ha hb rfl rfl h
  | .string _, b, ha, hb, h => eq_of_rows_inline hleg ha hb rfl rfl h

theorem entriesRows_inj (hleg : Legible leaves) (indent : Nat) : (entries others : List (String × Json)) →
    Json.entryLeaves entries ⊆ leaves → Json.entryLeaves others ⊆ leaves →
    entriesRows indent entries = entriesRows indent others → entries = others
  | [], [], _, _, _ => rfl
  | [], (key, j) :: rest, _, hb, h => by
    obtain ⟨tail, below, hhead, -⟩ := exists_entryHead hleg (List.append_subset.1 hb).1 indent key
    rw [entriesRows, entriesRows, hhead] at h
    cases h
  | (key, j) :: rest, [], ha, _, h => by
    obtain ⟨tail, below, hhead, -⟩ := exists_entryHead hleg (List.append_subset.1 ha).1 indent key
    rw [entriesRows, entriesRows, hhead] at h
    cases h
  | (key, j) :: rest, (key', j') :: rest', ha, hb, h => by
    obtain ⟨hj, hmore⟩ := List.append_subset.1 ha
    obtain ⟨hj', hmore'⟩ := List.append_subset.1 hb
    rw [entriesRows, entriesRows] at h
    obtain ⟨hentry, hrest⟩ := Block.split (block_entryRows hleg hj key (within_rows hleg hj))
      (block_entryRows hleg hj' key' (within_rows hleg hj')) (head?_entriesRows hleg indent hmore)
      (head?_entriesRows hleg indent hmore') h
    obtain ⟨hkey, hvalue⟩ := entryRows_inj hleg hj hj' hentry
    have hvalue : j = j' := hvalue.elim id (rows_inj hleg (indent + 2) j j' hj hj')
    rw [hkey, hvalue, entriesRows_inj hleg indent rest rest' hmore hmore' hrest]

theorem itemsRows_inj (hleg : Legible leaves) (indent : Nat) : (items others : List Json) →
    Json.itemLeaves items ⊆ leaves → Json.itemLeaves others ⊆ leaves →
    itemsRows indent items = itemsRows indent others → items = others
  | [], [], _, _, _ => rfl
  | [], j :: rest, _, hb, h => by
    obtain ⟨tail, below, hhead⟩ := exists_itemHead hleg (List.append_subset.1 hb).1 indent
    rw [itemsRows, itemsRows, hhead] at h
    cases h
  | j :: rest, [], ha, _, h => by
    obtain ⟨tail, below, hhead⟩ := exists_itemHead hleg (List.append_subset.1 ha).1 indent
    rw [itemsRows, itemsRows, hhead] at h
    cases h
  | j :: rest, j' :: rest', ha, hb, h => by
    obtain ⟨hj, hmore⟩ := List.append_subset.1 ha
    obtain ⟨hj', hmore'⟩ := List.append_subset.1 hb
    rw [itemsRows, itemsRows] at h
    obtain ⟨hitem, hrest⟩ := Block.split (block_itemRows hleg hj (opens_rows hleg _ j hj))
      (block_itemRows hleg hj' (opens_rows hleg _ j' hj')) (head?_itemsRows hleg indent hmore)
      (head?_itemsRows hleg indent hmore') h
    have hvalue : j = j' := (itemRows_inj hleg hj hj' hitem).elim id
      (rows_inj hleg (indent + 2) j j' hj hj')
    rw [hvalue, itemsRows_inj hleg indent rest rest' hmore hmore' hrest]

end

/-! ## Documents -/

theorem texts_inj {rows rows' : List Row} (h : Within indent rows) (h' : Within indent rows')
    (heq : rows.map Row.text = rows'.map Row.text) : rows = rows' := by
  induction rows generalizing rows' with
  | nil => exact (List.map_eq_nil_iff.1 heq.symm).symm
  | cons r rows ih =>
    cases rows' with
    | nil => cases heq
    | cons r' rows' =>
      rw [List.map_cons, List.map_cons, List.cons.injEq] at heq
      rw [Within, List.forall_mem_cons] at h h'
      rw [Row.text_inj h.1.2 h'.1.2 heq.1, ih h.2 h'.2 heq.2]

/-- Clear rows come back from the text that they are joined to. -/
theorem rows_of_join {rows rows' : List Row} (h : Opens indent rows) (h' : Opens indent rows')
    (heq : Text.join "\n" (rows.map Row.text) = Text.join "\n" (rows'.map Row.text)) : rows = rows' := by
  have hsplit : ∀ {rows : List Row}, Opens indent rows →
      splitOn '\n' (Text.join "\n" (rows.map Row.text)).toList
        = (rows.map Row.text).map String.toList := by
    intro rows hrows
    obtain ⟨body, more, hcons⟩ := hrows.starts
    refine splitOn_join (by simp [hcons]) (List.forall_mem_map.2 fun r hr => ?_)
    exact oneLine_append.2 ⟨oneLine_spaces _, (hrows.within r hr).2.oneLine⟩
  have htexts : rows.map Row.text = rows'.map Row.text := by
    have hpieces := hsplit h
    rw [heq, hsplit h'] at hpieces
    have hinj : Function.Injective String.toList := fun _ _ => String.toList_inj.1
    exact (List.map_injective_iff.2 hinj hpieces).symm
  exact texts_inj h.within h'.within htexts

/-- **A document comes from one tree only.** Two trees that are written as the same text are
equal, with the kinds of all scalars and the order of all keys and items. -/
theorem document_inj {a b : Json} (hleg : Legible (a.leaves ++ b.leaves))
    (h : document a = document b) : a = b := by
  have ha : a.leaves ⊆ a.leaves ++ b.leaves := List.subset_append_left _ _
  have hb : b.leaves ⊆ a.leaves ++ b.leaves := List.subset_append_right _ _
  rw [document, document, String.append_left_inj] at h
  exact rows_inj hleg 0 a b ha hb (rows_of_join (opens_rows hleg 0 a ha) (opens_rows hleg 0 b hb) h)

/-- Keys and texts that need quotes, items within items, and one as an integer and as a fraction. -/
def mixedTree : Json :=
  .object [("on", .array [.array [.string "1", .null], .object [("a: b", .bool true), ("", .array [])]]),
    ("size", .array [.nat 1, .number (.float (.ofInt 1))]), ("name", .string "- \"x\"\n")]

theorem document_inj_mixed :
    Legible (mixedTree.leaves ++ mixedTree.leaves) ∧ document mixedTree = document mixedTree
      ∧ mixedTree = mixedTree := by
  have hleg : Legible (mixedTree.leaves ++ mixedTree.leaves) := legible_of_isLegible (by decide +kernel)
  exact ⟨hleg, rfl, document_inj hleg rfl⟩

end DisplayLayout.Yaml
