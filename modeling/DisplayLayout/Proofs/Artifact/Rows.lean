import DisplayLayout.Proofs.Recovery.Run

/-!
# The rows of an artifact

The text of sections is the rows of the sections with a blank one between them
(`Section.renderAll_eq`). A reader passes over sections of silent rows, so only
the last section of an artifact has something to say. The rows of declarations
are silent unless they copy a text that has a line feed (`Section.IsSilentRow`).
-/

namespace DisplayLayout

open Text

namespace Text

theorem unlines_cons (row : String) (rows : List String) :
    unlines (row :: rows) = row ++ "\n" ++ unlines rows := by
  rw [unlines, List.map_cons, String.join_cons]
  rfl

theorem unlines_append (rows more : List String) :
    unlines (rows ++ more) = unlines rows ++ unlines more := by
  induction rows with
  | nil => simp [unlines, String.join]
  | cons row rows ih =>
    rw [List.cons_append, unlines_cons, unlines_cons, ih]
    simp only [String.append_assoc]

/-- Rows are taken apart one by one, whatever follows them. -/
theorem splitOn_unlines_append (rows : List String) (rest : List Char) :
    splitOn '\n' ((unlines rows).toList ++ rest)
      = (rows.flatMap fun row => splitOn '\n' row.toList) ++ splitOn '\n' rest := by
  induction rows with
  | nil => rfl
  | cons row rows ih =>
    have hchars : (unlines (row :: rows)).toList ++ rest
        = row.toList ++ '\n' :: ((unlines rows).toList ++ rest) := by
      rw [unlines_cons]
      simp
    rw [hchars, splitOn_append_sep, ih, List.flatMap_cons, List.append_assoc]

/-- Rows that are joined by line feeds, and one more at the end. -/
theorem join_append_break {rows : List String} (h : rows ≠ []) :
    join "\n" rows ++ "\n" = unlines rows := by
  induction rows with
  | nil => exact absurd rfl h
  | cons row rows ih =>
    cases rows with
    | nil => simp [join, unlines]
    | cons next rows =>
      have ih := ih (List.cons_ne_nil _ _)
      rw [join] at ih ⊢
      rw [String.intercalate_cons_cons, String.append_assoc, ih, ← unlines_cons]

end Text

namespace Section

/-- The rows of sections, with a blank one between them. -/
def rows (sections : List Section) : List String :=
  ((sections.map render).intersperse [""]).flatten

@[simp] theorem rows_singleton (s : Section) : rows [s] = s.render := by simp [rows]

theorem rows_cons_cons (s t : Section) (sections : List Section) :
    rows (s :: t :: sections) = s.render ++ "" :: rows (t :: sections) := by
  simp [rows]

theorem renderAll_eq {sections : List Section} (h : sections ≠ []) :
    renderAll sections = Text.unlines (rows sections) := by
  rw [renderAll]
  induction sections with
  | nil => exact absurd rfl h
  | cons s sections ih =>
    have hs : Text.join "\n" s.render ++ "\n" = Text.unlines s.render :=
      Text.join_append_break (List.cons_ne_nil _ _)
    cases sections with
    | nil => rw [List.map_singleton, Text.join, String.intercalate_singleton, hs, rows_singleton]
    | cons t sections =>
      have ih := ih (List.cons_ne_nil _ _)
      have hblank : "\n\n" = "\n" ++ "\n" := by decide
      rw [Text.join, List.map_cons] at ih ⊢
      rw [List.map_cons, String.intercalate_cons_cons, String.append_assoc, ih, hblank,
        ← String.append_assoc, hs, rows_cons_cons, Text.unlines_append, Text.unlines_cons,
        String.empty_append, String.append_assoc]

theorem rows_concat {sections : List Section} (h : sections ≠ []) (last : Section) :
    rows (sections ++ [last]) = rows sections ++ "" :: last.render := by
  induction sections with
  | nil => exact absurd rfl h
  | cons s sections ih =>
    cases sections with
    | nil => rw [List.singleton_append, rows_cons_cons, rows_singleton, rows_singleton]
    | cons t sections =>
      have ih := ih (List.cons_ne_nil _ _)
      rw [List.cons_append] at ih ⊢
      rw [List.cons_append, rows_cons_cons, ih, rows_cons_cons, List.append_assoc, List.cons_append]

/-- A section of rows that say nothing. -/
def Silent (s : Section) : Prop := ∀ row ∈ s.render, Line.Silent row

theorem silent_rows {sections : List Section} (h : ∀ s ∈ sections, s.Silent) :
    ∀ row ∈ rows sections, Line.Silent row := by
  induction sections with
  | nil => exact fun row hrow => absurd hrow List.not_mem_nil
  | cons s sections ih =>
    have hs := h s List.mem_cons_self
    have ih := ih fun t ht => h t (List.mem_cons_of_mem _ ht)
    cases sections with
    | nil =>
      rw [rows_singleton]
      exact hs
    | cons t sections =>
      have hblank : Line.Silent "" := by decide
      rw [rows_cons_cons]
      intro row hrow
      rcases List.mem_append.1 hrow with hrow | hrow
      · exact hs row hrow
      · rcases List.mem_cons.1 hrow with rfl | hrow
        · exact hblank
        · exact ih row hrow

end Section

/-! ## Rows of declarations -/

namespace Section

/-- The leads of rows that declare identifiers: at the head of an entry, or in it. -/
def idLeads : List String := ["  - id: ", "    id: "]

/-- The identifier that a row declares. -/
def declaredId? (row : String) : Option String :=
  (idLeads.findSome? (Line.after? · row.toList)).map String.ofList

/-- A lead of rows that declare nothing. -/
def isPlain (lead : String) : Bool :=
  "  ".toList.isPrefixOf lead.toList && !lead.toList.contains '\n'
    && idLeads.all fun id => Line.clash id.toList lead.toList

/-- A row that begins with two blanks, stands on one line unless it is `Raw`, and declares nothing
but what is `Named`. -/
structure IsRow (Raw Named : String → Prop) (row : String) : Prop where
  indented : "  ".toList <+: row.toList
  plain : OneLine row ∨ Raw row
  named : ∀ id, declaredId? row = some id → Named id

/-- A lead of rows that neither declare nor say anything. -/
def isSilentLead (lead : String) : Bool :=
  isPlain lead && Line.opens lead && Line.clash "it.".toList (trimChars lead.toList)

/-- A row that says nothing either, but for what stands behind a line feed in a `Raw` one. -/
structure IsSilentRow (Raw Named : String → Prop) (row : String) : Prop extends IsRow Raw Named row where
  classify_eq : Line.classify row = .other

theorem IsSilentRow.silent {Raw Named : String → Prop} {row : String} (h : IsSilentRow Raw Named row)
    (hraw : Raw row → OneLine row) : Line.Silent row :=
  ⟨h.plain.elim id hraw, h.classify_eq⟩

section Rows

variable {Raw Named : String → Prop} {lead rest : String}

theorem declaredId?_append (h : isPlain lead = true) (rest : String) :
    declaredId? (lead ++ rest) = none := by
  simp only [isPlain, Bool.and_eq_true, List.all_eq_true] at h
  have hnone : idLeads.findSome? (Line.after? · (lead ++ rest).toList) = none := by
    rw [List.findSome?_eq_none_iff]
    intro id hid
    rw [String.toList_append]
    exact Line.after?_of_clash (h.2 id hid) _
  rw [declaredId?, hnone]
  rfl

theorem indented_append (h : isPlain lead = true) (rest : String) :
    "  ".toList <+: (lead ++ rest).toList := by
  simp only [isPlain, Bool.and_eq_true] at h
  rw [String.toList_append]
  exact (List.isPrefixOf_iff_prefix.1 h.1.1).trans (List.prefix_append _ _)

/-- A row behind a lead that declares nothing. -/
theorem isSilentRow_of_isPlain (h : isPlain lead = true)
    (hplain : OneLine (lead ++ rest) ∨ Raw (lead ++ rest))
    (hother : Line.classify (lead ++ rest) = .other) : IsSilentRow Raw Named (lead ++ rest) where
  indented := indented_append h rest
  plain := hplain
  named id hid := by
    rw [declaredId?_append h] at hid
    cases hid
  classify_eq := hother

/-- A row with a text that may have line feeds. -/
theorem isSilentRow_raw (h : isSilentLead lead = true) (hraw : Raw (lead ++ rest)) :
    IsSilentRow Raw Named (lead ++ rest) := by
  simp only [isSilentLead, Bool.and_eq_true] at h
  obtain ⟨⟨hplain, hopens⟩, hdraw⟩ := h
  exact isSilentRow_of_isPlain hplain (Or.inr hraw) (Line.classify_eq_other hopens hdraw rest)

/-- A row with a text on one line. -/
theorem isSilentRow_append (h : isSilentLead lead = true) (hrest : OneLine rest) :
    IsSilentRow Raw Named (lead ++ rest) := by
  simp only [isSilentLead, Bool.and_eq_true] at h
  obtain ⟨⟨hplain, hopens⟩, hdraw⟩ := h
  have hsilent : Line.Silent (lead ++ rest) := Line.silent_of_lead hopens hdraw hrest
  exact isSilentRow_of_isPlain hplain (Or.inl hsilent.oneLine) hsilent.classify_eq

/-- A row that is fixed. -/
theorem isSilentRow_fixed {row : String} (h : isSilentLead row = true) :
    IsSilentRow Raw Named row := by
  rw [← String.append_empty (s := row)]
  exact isSilentRow_append h (by decide)

theorem declaredId?_idRow (h : lead ∈ idLeads) (id : String) : declaredId? (lead ++ id) = some id := by
  have hafter : Line.after? lead (lead ++ id).toList = some id.toList :=
    Line.after?_eq_some_iff.2 String.toList_append
  have hfound : idLeads.findSome? (Line.after? · (lead ++ id).toList) = some id.toList := by
    simp only [idLeads, List.mem_cons, List.not_mem_nil, or_false] at h
    rcases h with rfl | rfl
    · rw [idLeads, List.findSome?_cons, hafter]
    · have hother : Line.after? "  - id: " ("    id: " ++ id).toList = none := by
        rw [String.toList_append]
        exact Line.after?_of_clash (by decide) _
      rw [idLeads, List.findSome?_cons, hother, List.findSome?_cons, hafter]
  rw [declaredId?, hfound, Option.map_some, String.ofList_toList]

/-- A row that declares an identifier. -/
theorem isSilentRow_id (h : lead ∈ idLeads) {id : String} (hsilent : Line.Silent (lead ++ id))
    (hnamed : Named id) : IsSilentRow Raw Named (lead ++ id) where
  indented := by
    have hlead : ∀ lead ∈ idLeads, "  ".toList <+: lead.toList := by decide
    rw [String.toList_append]
    exact (hlead lead h).trans (List.prefix_append _ _)
  plain := Or.inl hsilent.oneLine
  named other hother := by
    rw [declaredId?_idRow h] at hother
    exact Option.some.inj hother ▸ hnamed
  classify_eq := hsilent.classify_eq

/-- A row inside of an entry that declares its identifier. -/
theorem isSilentRow_ownId {id : String} (hid : OneLine id) (hnamed : Named id) :
    IsSilentRow Raw Named ("    id: " ++ id) :=
  isSilentRow_id (by decide) (Line.silent_of_lead (by decide) (by decide) hid) hnamed

end Rows

end Section

end DisplayLayout
