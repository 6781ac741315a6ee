import DisplayLayout.Text.Basic
import Mathlib.Data.List.DropRight

/-!
# Lines and trimming

A text that is put together from rows comes apart into the same rows, as long
as none of them holds a line feed (`lines_unlines`). Blanks at the ends of a
line do not show once it is trimmed, so neither indentation nor a carriage
return before the line feed matters to a reader that trims.
-/

namespace DisplayLayout.Text

/-! ## Texts on one line -/

/-- A text without a line feed. -/
def OneLine (s : String) : Prop := '\n' ∉ s.toList

instance (s : String) : Decidable (OneLine s) := inferInstanceAs (Decidable ('\n' ∉ s.toList))

@[simp] theorem oneLine_append {s t : String} : OneLine (s ++ t) ↔ OneLine s ∧ OneLine t := by
  simp [OneLine, not_or]

@[simp] theorem oneLine_ofList {cs : List Char} : OneLine (String.ofList cs) ↔ '\n' ∉ cs := by
  simp [OneLine]

@[simp] theorem oneLine_spaces (n : Nat) : OneLine (spaces n) := by
  rw [spaces, oneLine_ofList, List.mem_replicate]
  rintro ⟨_, h⟩
  exact absurd h (by decide)

theorem notMem_join {c : Char} {sep : String} {parts : List String} (hsep : c ∉ sep.toList)
    (h : ∀ s ∈ parts, c ∉ s.toList) : c ∉ (join sep parts).toList := by
  induction parts with
  | nil => exact List.not_mem_nil
  | cons s rest ih =>
    have hs : c ∉ s.toList := h s List.mem_cons_self
    have hrest : c ∉ (join sep rest).toList := ih fun t ht => h t (List.mem_cons_of_mem _ ht)
    rw [join] at hrest ⊢
    cases rest with
    | nil => rwa [String.intercalate_singleton]
    | cons t rest =>
      rw [String.intercalate_cons_cons, String.toList_append, String.toList_append, List.mem_append,
        List.mem_append, not_or, not_or]
      exact ⟨⟨hs, hsep⟩, hrest⟩

theorem oneLine_join {sep : String} {parts : List String} (hsep : OneLine sep)
    (h : ∀ s ∈ parts, OneLine s) : OneLine (join sep parts) := notMem_join hsep h

/-! ## Taking rows apart -/

/-- Parts that are read one by one are read together. -/
theorem mapM_eq_pure {m : Type → Type} [Monad m] [LawfulMonad m] {α β : Type} {read : α → m β}
    {f : α → β} {parts : List α} (h : ∀ a ∈ parts, read a = pure (f a)) :
    parts.mapM read = pure (parts.map f) := by
  induction parts with
  | nil => exact List.mapM_nil
  | cons a parts ih =>
    obtain ⟨ha, hparts⟩ := List.forall_mem_cons.1 h
    rw [List.mapM_cons, ha, ih hparts, pure_bind, pure_bind, List.map_cons]

/-- Nothing is taken of what begins where a condition fails. -/
theorem takeWhile_append_of_head {α : Type} {p : α → Bool} {rest : List α}
    (hstop : ∀ x ∈ rest.head?, p x = false) (inside : List α) :
    (inside ++ rest).takeWhile p = inside.takeWhile p := by
  have hnone : rest.takeWhile p = [] := by
    cases rest with
    | nil => rfl
    | cons x rest => exact List.takeWhile_cons_of_neg (by simp [hstop x rfl])
  rw [List.takeWhile_append, hnone]
  split
  · next hall => rw [List.append_nil, (List.takeWhile_prefix p).eq_of_length hall]
  · rfl

/-- What is taken while a condition holds ends where it fails first. -/
theorem takeWhile_append_stop {α : Type} {p : α → Bool} {inside rest : List α}
    (hinside : ∀ x ∈ inside, p x = true) (hstop : ∀ x ∈ rest.head?, p x = false) :
    (inside ++ rest).takeWhile p = inside := by
  rw [takeWhile_append_of_head hstop, List.takeWhile_eq_self_iff.2 hinside]

/-- What is taken stands before the first element that fails. -/
theorem takeWhile_append_cons {α : Type} {p : α → Bool} {inside : List α}
    (hinside : ∀ x ∈ inside, p x = true) {x : α} (hx : p x = false) (rest : List α) :
    (inside ++ x :: rest).takeWhile p = inside :=
  takeWhile_append_stop hinside fun _ hy => Option.some.inj hy ▸ hx

/-- What is left begins with the first element that fails. -/
theorem dropWhile_append_cons {α : Type} {p : α → Bool} {inside : List α}
    (hinside : ∀ x ∈ inside, p x = true) {x : α} (hx : p x = false) (rest : List α) :
    (inside ++ x :: rest).dropWhile p = x :: rest := by
  rw [List.dropWhile_append_of_pos hinside, List.dropWhile_cons_of_neg (Bool.not_eq_true _ ▸ hx)]

/-- A separator that does not come again tells what stands before it and what behind it. -/
theorem append_sep_inj {sep : Char} {front front' behind behind' : List Char} (h : sep ∉ behind)
    (h' : sep ∉ behind') (heq : front ++ sep :: behind = front' ++ sep :: behind') :
    front = front' ∧ behind = behind' := by
  have hback : behind.reverse ++ sep :: front.reverse
      = behind'.reverse ++ sep :: front'.reverse := by
    simpa using congrArg List.reverse heq
  have hstop : ∀ {cs : List Char}, sep ∉ cs → ∀ c ∈ cs.reverse, (c != sep) = true := by
    intro cs hcs c hc
    rw [bne_iff_ne]
    exact ne_of_mem_of_not_mem (List.mem_reverse.1 hc) hcs
  have hbehind := congrArg (List.takeWhile (· != sep)) hback
  rw [takeWhile_append_stop (hstop h) (by simp), takeWhile_append_stop (hstop h') (by simp),
    List.reverse_inj] at hbehind
  subst hbehind
  exact ⟨List.append_cancel_right heq, rfl⟩

theorem splitOn_eq_singleton {sep : Char} {cs : List Char} (h : sep ∉ cs) :
    splitOn sep cs = [cs] := by
  induction cs with
  | nil => rfl
  | cons c cs ih =>
    rw [List.mem_cons, not_or] at h
    rw [splitOn, if_neg (Ne.symm h.1), ih h.2]

theorem splitOn_ne_nil (sep : Char) (cs : List Char) : splitOn sep cs ≠ [] := by
  cases cs with
  | nil => simp [splitOn]
  | cons c cs =>
    rw [splitOn]
    split
    · simp
    · split <;> simp

/-- A separator takes a text apart, wherever it stands. -/
theorem splitOn_append_sep (sep : Char) (cs rest : List Char) :
    splitOn sep (cs ++ sep :: rest) = splitOn sep cs ++ splitOn sep rest := by
  induction cs with
  | nil => rw [List.nil_append, splitOn, splitOn, if_pos rfl, List.singleton_append]
  | cons c cs ih =>
    obtain ⟨first, others, hfirst⟩ := List.exists_cons_of_ne_nil (splitOn_ne_nil sep cs)
    rw [List.cons_append, splitOn, splitOn, ih, hfirst]
    by_cases hc : c = sep
    · rw [if_pos hc, if_pos hc]
      rfl
    · rw [if_neg hc, if_neg hc]
      rfl

theorem splitOn_append_cons {sep : Char} {cs : List Char} (h : sep ∉ cs) (rest : List Char) :
    splitOn sep (cs ++ sep :: rest) = cs :: splitOn sep rest := by
  rw [splitOn_append_sep, splitOn_eq_singleton h, List.singleton_append]

theorem splitFirst?_append {mark : Char} {word : List Char} (h : mark ∉ word) (rest : List Char) :
    splitFirst? mark (word ++ mark :: rest) = some (word, rest) := by
  have hword : ∀ c ∈ word, decide (c ≠ mark) = true := by
    intro c hc
    exact decide_eq_true fun heq => h (heq ▸ hc)
  rw [splitFirst?, dropWhile_append_cons hword (by simp), takeWhile_append_cons hword (by simp)]

theorem splitLast?_append {mark : Char} {word : List Char} (h : mark ∉ word) (front : List Char) :
    splitLast? mark (front ++ mark :: word) = some (front, word) := by
  have hword : ∀ c ∈ word.reverse, decide (c ≠ mark) = true := by
    intro c hc
    exact decide_eq_true fun heq => h (heq ▸ List.mem_reverse.1 hc)
  have hback : (front ++ mark :: word).reverse = word.reverse ++ mark :: front.reverse := by
    rw [List.reverse_append, List.reverse_cons, List.append_assoc, List.singleton_append]
  rw [splitLast?, hback, dropWhile_append_cons hword (by simp),
    takeWhile_append_cons hword (by simp)]
  simp only [List.reverse_reverse]

/-- A text in which every part stands behind a separator is taken apart into these parts. -/
theorem splitOn_flatMap {sep : Char} {first : List Char} {parts : List (List Char)}
    (hfirst : sep ∉ first) (h : ∀ part ∈ parts, sep ∉ part) :
    splitOn sep (first ++ parts.flatMap (sep :: ·)) = first :: parts := by
  induction parts generalizing first with
  | nil => rw [List.flatMap_nil, List.append_nil, splitOn_eq_singleton hfirst]
  | cons part parts ih =>
    have hpart := ih (h part List.mem_cons_self) fun p hp => h p (List.mem_cons_of_mem _ hp)
    rw [List.flatMap_cons, List.cons_append, splitOn_append_cons hfirst, hpart]

/-- No piece holds the separator. -/
theorem not_mem_of_mem_splitOn {sep : Char} {cs piece : List Char} (h : piece ∈ splitOn sep cs) :
    sep ∉ piece := by
  induction cs generalizing piece with
  | nil => simp_all [splitOn]
  | cons c cs ih =>
    rw [splitOn] at h
    by_cases hc : c = sep
    · rw [if_pos hc, List.mem_cons] at h
      rcases h with rfl | h
      · exact List.not_mem_nil
      · exact ih h
    · rw [if_neg hc] at h
      cases hs : splitOn sep cs with
      | nil => exact absurd hs (splitOn_ne_nil sep cs)
      | cons first others =>
        rw [hs] at h ih
        rw [List.mem_cons] at h
        rcases h with rfl | h
        · rw [List.mem_cons, not_or]
          exact ⟨Ne.symm hc, ih List.mem_cons_self⟩
        · exact ih (List.mem_cons_of_mem _ h)

theorem lineChars_append_break {cs : List Char} (h : '\n' ∉ cs) (rest : List Char) :
    lineChars (cs ++ '\n' :: rest) = dropReturn cs :: lineChars rest := by
  obtain ⟨first, others, hs⟩ := List.exists_cons_of_ne_nil (splitOn_ne_nil '\n' rest)
  simp [lineChars, splitOn_append_cons h, hs]

/-- A line as a reader of lines hands it on. -/
def lineOf (row : String) : String := String.ofList (dropReturn row.toList)

/-- **The lines of rows are the rows,** but for a carriage return at their ends. -/
theorem lines_unlines {rows : List String} (h : ∀ row ∈ rows, OneLine row) :
    lines (unlines rows) = rows.map lineOf := by
  induction rows with
  | nil => rfl
  | cons row rows ih =>
    have hrow : OneLine row := h row List.mem_cons_self
    have ih := ih fun r hr => h r (List.mem_cons_of_mem _ hr)
    rw [lines, unlines] at ih ⊢
    have hcs : (String.join ((row :: rows).map (· ++ "\n"))).toList
        = row.toList ++ '\n' :: (String.join (rows.map (· ++ "\n"))).toList := by
      simp [String.join_cons]
    rw [hcs, lineChars_append_break hrow, List.map_cons, ih]
    rfl

/-- No line of a text holds a line feed. -/
theorem oneLine_of_mem_lines {s line : String} (h : line ∈ lines s) : OneLine line := by
  obtain ⟨cs, hcs, rfl⟩ := List.mem_map.1 h
  rw [oneLine_ofList]
  rw [lineChars, List.mem_append] at hcs
  rcases hcs with hcs | hcs
  · obtain ⟨piece, hpiece, rfl⟩ := List.mem_map.1 hcs
    have hp := not_mem_of_mem_splitOn (List.dropLast_subset _ hpiece)
    rw [dropReturn]
    split
    · exact fun hm => hp (List.dropLast_subset _ hm)
    · exact hp
  · have hm := List.mem_of_mem_filter hcs
    rw [Option.mem_toList] at hm
    exact not_mem_of_mem_splitOn (List.mem_of_getLast? hm)

/-- A text on one line is its only line. -/
theorem lines_of_oneLine {s : String} (h : OneLine s) : ∀ line ∈ lines s, line = s := by
  intro line hline
  obtain ⟨cs, hcs, rfl⟩ := List.mem_map.1 hline
  have hsplit : splitOn '\n' s.toList = [s.toList] := splitOn_eq_singleton h
  rw [lineChars, hsplit] at hcs
  have hcs : cs = s.toList := by simpa using (List.mem_filter.1 hcs).1
  rw [hcs, String.ofList_toList]

/-- Rows that are joined by line feeds come apart again. -/
theorem splitOn_join {rows : List String} (hne : rows ≠ []) (h : ∀ row ∈ rows, OneLine row) :
    splitOn '\n' (join "\n" rows).toList = rows.map String.toList := by
  induction rows with
  | nil => exact absurd rfl hne
  | cons row rows ih =>
    have hrow : OneLine row := h row List.mem_cons_self
    have ih := fun hne => ih hne fun r hr => h r (List.mem_cons_of_mem _ hr)
    rw [join] at ih ⊢
    cases rows with
    | nil => rw [String.intercalate_singleton, splitOn_eq_singleton hrow, List.map_singleton]
    | cons next rows =>
      have hchars : ("\n".intercalate (row :: next :: rows)).toList
          = row.toList ++ '\n' :: ("\n".intercalate (next :: rows)).toList := by
        simp [String.intercalate_cons_cons]
      rw [hchars, splitOn_append_cons hrow, ih (List.cons_ne_nil _ _)]
      rfl

theorem mem_lines_join {rows : List String} (h : ∀ row ∈ rows, OneLine row) {line : String}
    (hline : line ∈ lines (join "\n" rows)) : ∃ row ∈ rows, line = row ∨ line = lineOf row := by
  by_cases hne : rows = []
  · subst hne
    have hempty : lines (join "\n" []) = [] := by decide
    rw [hempty] at hline
    exact absurd hline List.not_mem_nil
  obtain ⟨cs, hcs, rfl⟩ := List.mem_map.1 hline
  rw [lineChars, splitOn_join hne h, List.mem_append] at hcs
  rcases hcs with hcs | hcs
  · obtain ⟨ds, hds, rfl⟩ := List.mem_map.1 hcs
    obtain ⟨row, hrow, rfl⟩ := List.mem_map.1 (List.dropLast_subset _ hds)
    exact ⟨row, hrow, Or.inr rfl⟩
  · have hlast := List.mem_of_mem_filter hcs
    rw [Option.mem_toList] at hlast
    obtain ⟨row, hrow, rfl⟩ := List.mem_map.1 (List.mem_of_getLast? hlast)
    exact ⟨row, hrow, Or.inl (String.ofList_toList)⟩

/-! ## Leads -/

theorem hasLead_iff {lead s : String} : hasLead lead s = true ↔ lead.toList <+: s.toList :=
  List.isPrefixOf_iff_prefix

theorem hasLead_append (lead rest : String) : hasLead lead (lead ++ rest) = true := by
  rw [hasLead_iff, String.toList_append]
  exact List.prefix_append _ _

/-! ## Trimming -/

theorem dropTrailingBlanks_eq_rdropWhile (cs : List Char) :
    dropTrailingBlanks cs = cs.rdropWhile isBlank := rfl

theorem prefix_dropTrailingBlanks (cs : List Char) : dropTrailingBlanks cs <+: cs :=
  List.rdropWhile_prefix isBlank cs

theorem prefix_trimChars (cs : List Char) : trimChars cs <+: dropBlanks cs :=
  prefix_dropTrailingBlanks _

theorem mem_of_mem_trimChars {c : Char} {cs : List Char} (h : c ∈ trimChars cs) : c ∈ cs :=
  (List.dropWhile_sublist isBlank).subset ((prefix_trimChars cs).subset h)

/-- Blanks in front do not show in a trimmed text. -/
theorem trimChars_append_left {blanks : List Char} (h : ∀ c ∈ blanks, isBlank c = true)
    (cs : List Char) : trimChars (blanks ++ cs) = trimChars cs := by
  rw [trimChars, dropBlanks, List.dropWhile_append_of_pos h]
  rfl

/-- A blank at the end does not show in a trimmed text. -/
theorem trimChars_append_blank {c : Char} (h : isBlank c = true) (cs : List Char) :
    trimChars (cs ++ [c]) = trimChars cs := by
  rw [trimChars, trimChars, dropBlanks, dropBlanks, List.dropWhile_append]
  split
  · next hall =>
    rw [List.isEmpty_iff.1 hall]
    simp [List.dropWhile, h]
  · exact List.rdropWhile_concat_pos isBlank _ c h

/-- Blanks at the end do not show in a trimmed text. -/
theorem trimChars_append_right {blanks : List Char} (h : ∀ c ∈ blanks, isBlank c = true)
    (cs : List Char) : trimChars (cs ++ blanks) = trimChars cs := by
  induction blanks generalizing cs with
  | nil => rw [List.append_nil]
  | cons c blanks ih =>
    rw [List.append_cons, ih fun d hd => h d (List.mem_cons_of_mem _ hd),
      trimChars_append_blank (h c List.mem_cons_self)]

theorem trimChars_dropTrailingBlanks (cs : List Char) :
    trimChars (dropTrailingBlanks cs) = trimChars cs := by
  obtain ⟨blanks, hblanks⟩ := prefix_dropTrailingBlanks cs
  have hall : ∀ c ∈ blanks, isBlank c = true := by
    intro c hc
    have hback : cs.reverse.takeWhile isBlank = blanks.reverse := by
      have hsplit := congrArg List.reverse hblanks
      rw [List.reverse_append, dropTrailingBlanks, List.reverse_reverse] at hsplit
      have := List.takeWhile_append_dropWhile (p := isBlank) (l := cs.reverse)
      exact List.append_cancel_right (this.trans hsplit.symm)
    have hmem : c ∈ cs.reverse.takeWhile isBlank := hback ▸ List.mem_reverse.2 hc
    exact List.mem_takeWhile_imp hmem
  conv_rhs => rw [← hblanks]
  rw [trimChars_append_right hall]

theorem trimChars_dropReturn (cs : List Char) : trimChars (dropReturn cs) = trimChars cs := by
  rw [dropReturn]
  split
  · next h =>
    obtain ⟨front, rfl⟩ := List.getLast?_eq_some_iff.1 h
    rw [List.dropLast_concat, trimChars_append_blank (by decide)]
  · rfl

/-- A text that neither starts nor ends with a blank is trimmed. -/
theorem trimChars_eq_self {cs : List Char} (hhead : ∀ c ∈ cs.head?, isBlank c = false)
    (hlast : ∀ c ∈ cs.getLast?, isBlank c = false) : trimChars cs = cs := by
  cases cs with
  | nil => rfl
  | cons c cs =>
    have hc : isBlank c = false := hhead c rfl
    rw [trimChars, dropBlanks, List.dropWhile_cons_of_neg (by simp [hc]),
      dropTrailingBlanks_eq_rdropWhile, List.rdropWhile_eq_self_iff]
    intro hne
    rw [Bool.not_eq_true]
    exact hlast _ (List.getLast?_eq_getLast_of_ne_nil hne)

/-- A trimmed text does not start with a blank. -/
theorem isBlank_head_trimChars {cs : List Char} {c : Char} (h : (trimChars cs).head? = some c) :
    isBlank c = false := by
  obtain ⟨rest, hrest⟩ := prefix_trimChars cs
  have hhead : (dropBlanks cs).head? = some c := by
    rw [← hrest, List.head?_append, h]
    rfl
  have hnot := List.head?_dropWhile_not isBlank cs
  rw [dropBlanks] at hhead
  rw [hhead] at hnot
  simpa using hnot

/-- A trimmed text does not end with a blank. -/
theorem isBlank_getLast_trimChars {cs : List Char} {c : Char}
    (h : (trimChars cs).getLast? = some c) : isBlank c = false := by
  have hne : trimChars cs ≠ [] := by
    rintro hnil
    rw [hnil] at h
    exact absurd h (by simp)
  have hlast := List.rdropWhile_last_not isBlank (dropBlanks cs) hne
  rw [List.getLast?_eq_getLast_of_ne_nil hne] at h
  cases h
  rwa [Bool.not_eq_true] at hlast

/-- **Trimming twice is trimming once.** -/
theorem trimChars_trimChars (cs : List Char) : trimChars (trimChars cs) = trimChars cs :=
  trimChars_eq_self (fun _ h => isBlank_head_trimChars h) (fun _ h => isBlank_getLast_trimChars h)

/-- A blank in front of the pieces is gone once they are trimmed. -/
theorem map_trimChars_splitOn_cons {sep c : Char} (hsep : c ≠ sep) (hblank : isBlank c = true)
    (cs : List Char) : (splitOn sep (c :: cs)).map trimChars = (splitOn sep cs).map trimChars := by
  obtain ⟨piece, pieces, h⟩ := List.exists_cons_of_ne_nil (splitOn_ne_nil sep cs)
  have hpiece : trimChars (c :: piece) = trimChars piece :=
    trimChars_append_left (List.forall_mem_singleton.2 hblank) piece
  rw [splitOn, if_neg hsep, h, List.map_cons, List.map_cons, hpiece]

end DisplayLayout.Text
