import DisplayLayout.Line
import DisplayLayout.Proofs.Text.Lines

/-!
# Lines that say nothing

Most lines of an artifact are neither comments nor page headers, and their
first characters are enough to see it: a lead that clashes with every lead of a
comment and of a header settles what the line is, whatever stands behind it
(`quiet_of_lead`, `silent_of_lead`). A quiet line may still be a draw call,
which says nothing inside a widget; a silent one says nothing anywhere.
-/

namespace DisplayLayout.Line

open Text

/-! ## Leads that clash -/

/-- Neither of two leads goes on with the other. -/
def clash (a b : List Char) : Bool := !a.isPrefixOf b && !b.isPrefixOf a

theorem not_prefix_append_of_clash {a b : List Char} (h : clash a b = true) (rest : List Char) :
    ¬a <+: b ++ rest := by
  simp only [clash, Bool.and_eq_true, Bool.not_eq_true', ← Bool.not_eq_true,
    List.isPrefixOf_iff_prefix] at h
  intro hpre
  rcases List.prefix_or_prefix_of_prefix hpre (List.prefix_append b rest) with hab | hba
  · exact h.1 hab
  · exact h.2 hba

theorem after?_eq_some_iff {lead : String} {cs rest : List Char} :
    after? lead cs = some rest ↔ cs = lead.toList ++ rest := by
  rw [after?]
  generalize lead.toList = l
  induction l generalizing cs with
  | nil => simp [List.isPrefixOf?, eq_comm]
  | cons a l ih =>
    cases cs with
    | nil => simp [List.isPrefixOf?]
    | cons c cs =>
      by_cases h : a = c
      · subst h
        simp [List.isPrefixOf?, ih]
      · simp [List.isPrefixOf?, h, Ne.symm h]

theorem after?_append (lead : String) (rest : List Char) :
    after? lead (lead.toList ++ rest) = some rest :=
  after?_eq_some_iff.2 rfl

theorem after?_toList_append (lead s : String) :
    after? lead (lead ++ s).toList = some s.toList :=
  after?_eq_some_iff.2 String.toList_append

theorem after?_eq_none {lead : String} {cs : List Char} (h : ¬lead.toList <+: cs) :
    after? lead cs = none := by
  cases hc : after? lead cs with
  | none => rfl
  | some rest =>
    rw [after?_eq_some_iff] at hc
    exact absurd ⟨rest, hc.symm⟩ h

theorem after?_of_clash {lead : String} {b : List Char} (h : clash lead.toList b = true)
    (rest : List Char) : after? lead (b ++ rest) = none :=
  after?_eq_none (not_prefix_append_of_clash h rest)

/-! ## Page headers -/

/-- What a condition on the current page begins with, without blanks. -/
def headerLeads : List (List Char) :=
  ["if(", "\x7delseif("].flatMap fun lead =>
    pageSubjects.map fun subject => lead.toList ++ subject.toList

/-- A text that begins with no lead of a header starts no page. -/
theorem pageIndex?_eq_none {cs : List Char} (hid : ¬"- id:".toList <+: cs)
    (h : "it.".toList <+: cs ∨ ∀ lead ∈ headerLeads, ¬lead <+: cs.filter (!isBlank ·)) :
    pageIndex? cs = none := by
  rw [pageIndex?, after?_eq_none hid]
  rcases h with ⟨rest, rfl⟩ | h
  · have hit : after? "it." ("it.".toList ++ rest) = some rest := after?_eq_some_iff.2 rfl
    dsimp only
    rw [hit]
    rfl
  · have habsent : ∀ lead ∈ ["if(", "\x7delseif("], ∀ rest,
        after? lead (cs.filter (!isBlank ·)) = some rest →
          pageSubjects.findSome? (fun subject => after? subject rest) = none := by
      intro lead hlead rest hrest
      rw [List.findSome?_eq_none_iff]
      intro subject hsubject
      refine after?_eq_none ?_
      rintro ⟨more, rfl⟩
      refine h (lead.toList ++ subject.toList) ?_ ⟨more, ?_⟩
      · exact List.mem_flatMap.2 ⟨lead, hlead, List.mem_map.2 ⟨subject, hsubject, rfl⟩⟩
      · rw [after?_eq_some_iff.1 hrest, List.append_assoc]
    dsimp only
    split
    · rfl
    · cases hif : after? "if(" (cs.filter (!isBlank ·)) with
      | some rest =>
        show (pageSubjects.findSome? fun s => after? s rest).bind conditionIndex? = none
        rw [habsent _ (by simp) rest hif]
        rfl
      | none =>
        cases helse : after? "\x7delseif(" (cs.filter (!isBlank ·)) with
        | some rest =>
          show (pageSubjects.findSome? fun s => after? s rest).bind conditionIndex? = none
          rw [habsent _ (by simp) rest helse]
          rfl
        | none => rfl

/-! ## Quiet and silent lines -/

/-- Whether a line is no more than a draw call. -/
def saysNothing : Line → Bool
  | .draw _ => true
  | .other => true
  | _ => false

/-- A row of one line that says nothing inside a widget. -/
structure Quiet (row : String) : Prop where
  oneLine : OneLine row
  saysNothing : (classify row).saysNothing = true

/-- A row of one line that says nothing anywhere. -/
structure Silent (row : String) : Prop where
  oneLine : OneLine row
  classify_eq : classify row = .other

instance (row : String) : Decidable (Quiet row) :=
  decidable_of_iff (OneLine row ∧ (classify row).saysNothing = true)
    ⟨fun h => ⟨h.1, h.2⟩, fun h => ⟨h.oneLine, h.saysNothing⟩⟩

instance (row : String) : Decidable (Silent row) :=
  decidable_of_iff (OneLine row ∧ classify row = .other)
    ⟨fun h => ⟨h.1, h.2⟩, fun h => ⟨h.oneLine, h.classify_eq⟩⟩

theorem Silent.quiet {row : String} (h : Silent row) : Quiet row where
  oneLine := h.oneLine
  saysNothing := by
    rw [h.classify_eq]
    rfl

/-- What a line is depends on its trimmed text only. -/
theorem classify_congr {a b : String} (h : trimChars a.toList = trimChars b.toList) :
    classify a = classify b := by
  rw [classify, classify, h]

theorem classify_indent {blanks : String} (h : blanks.toList.all isBlank = true) (row : String) :
    classify (blanks ++ row) = classify row := by
  refine classify_congr ?_
  rw [String.toList_append, trimChars_append_left (List.all_eq_true.1 h)]

/-- A carriage return at the end of a row does not change what it says. -/
theorem classify_lineOf (row : String) : classify (lineOf row) = classify row := by
  refine classify_congr ?_
  rw [lineOf, String.toList_ofList, trimChars_dropReturn]

theorem oneLine_of_blanks {blanks : String} (h : blanks.toList.all (· == ' ') = true) :
    OneLine blanks := by
  intro hm
  exact absurd (List.all_eq_true.1 h _ hm) (by decide)

theorem isBlank_of_spaces {blanks : String} (h : blanks.toList.all (· == ' ') = true) :
    blanks.toList.all isBlank = true := by
  rw [List.all_eq_true] at h ⊢
  intro c hc
  rw [beq_iff_eq.1 (h c hc)]
  decide

/-- Indentation keeps a row quiet. -/
theorem Quiet.indent {blanks row : String} (h : Quiet row)
    (hblanks : blanks.toList.all (· == ' ') = true) : Quiet (blanks ++ row) where
  oneLine := oneLine_append.2 ⟨oneLine_of_blanks hblanks, h.oneLine⟩
  saysNothing := by
    rw [classify_indent (isBlank_of_spaces hblanks)]
    exact h.saysNothing

/-- Indentation keeps a row silent. -/
theorem Silent.indent {blanks row : String} (h : Silent row)
    (hblanks : blanks.toList.all (· == ' ') = true) : Silent (blanks ++ row) where
  oneLine := oneLine_append.2 ⟨oneLine_of_blanks hblanks, h.oneLine⟩
  classify_eq := by rw [classify_indent (isBlank_of_spaces hblanks), h.classify_eq]

/-- A row stays silent without the carriage return at its end. -/
theorem Silent.lineOf {blanks row : String} (h : Silent (blanks ++ row)) :
    Silent (blanks ++ lineOf row) := by
  have htrim : trimChars (blanks ++ Text.lineOf row).toList = trimChars (blanks ++ row).toList := by
    rw [String.toList_append, String.toList_append, Text.lineOf, String.toList_ofList, dropReturn]
    split
    · next hlast =>
      obtain ⟨front, hfront⟩ := List.getLast?_eq_some_iff.1 hlast
      rw [hfront, List.dropLast_concat, ← List.append_assoc, trimChars_append_blank (by decide)]
    · rfl
  refine ⟨?_, (classify_congr htrim).trans h.classify_eq⟩
  have hone := oneLine_append.1 h.oneLine
  refine oneLine_append.2 ⟨hone.1, ?_⟩
  rw [Text.lineOf, oneLine_ofList, dropReturn]
  split
  · exact fun hm => hone.2 (List.dropLast_subset _ hm)
  · exact hone.2

/-! ## Leads that settle a line -/

/-- A lead that starts neither a comment nor a page, whatever stands behind it. -/
def settles (lead : List Char) : Bool :=
  lead.head?.any (!isBlank ·) && lead.getLast?.any (!isBlank ·) && !lead.contains '\n'
    && clash "//".toList lead && clash "#".toList lead && clash "- id:".toList lead
    && ("it.".toList.isPrefixOf lead || headerLeads.all (clash · (lead.filter (!isBlank ·))))

/-- A lead that neither starts nor ends in a blank stays when the line is trimmed. -/
theorem trimChars_lead {lead : List Char} (hhead : lead.head?.any (!isBlank ·) = true)
    (hlast : lead.getLast?.any (!isBlank ·) = true) (rest : List Char) :
    trimChars (lead ++ rest) = lead ++ dropTrailingBlanks rest := by
  have hfront : dropBlanks (lead ++ rest) = lead ++ rest := by
    cases lead with
    | nil => simp at hhead
    | cons c cs => exact List.dropWhile_cons_of_neg (by simpa using hhead)
  have hback : lead.reverse.dropWhile isBlank = lead.reverse := by
    cases hl : lead.reverse with
    | nil => rfl
    | cons c cs =>
      rw [← List.head?_reverse, hl] at hlast
      exact List.dropWhile_cons_of_neg (by simpa using hlast)
  rw [trimChars, hfront, dropTrailingBlanks, dropTrailingBlanks, List.reverse_append,
    List.dropWhile_append]
  split
  · next hall =>
    rw [List.isEmpty_iff.1 hall, hback, List.reverse_reverse, List.reverse_nil, List.append_nil]
  · rw [List.reverse_append, List.reverse_reverse]

theorem exists_append_trimChars (cs : List Char) :
    ∃ before after, (∀ c ∈ before, isBlank c = true) ∧ cs = before ++ (trimChars cs ++ after) := by
  obtain ⟨after, hafter⟩ := prefix_trimChars cs
  refine ⟨cs.takeWhile isBlank, after, fun c hc => List.mem_takeWhile_imp hc, ?_⟩
  rw [hafter, dropBlanks, List.takeWhile_append_dropWhile]

/-- Whether a text, with any rest behind it, settles what a line is. -/
def opens (lead : String) : Bool := settles (trimChars lead.toList) && !lead.toList.contains '\n'

theorem oneLine_of_opens {lead : String} (h : opens lead = true) : OneLine lead := by
  rw [opens, Bool.and_eq_true, Bool.not_eq_true'] at h
  rw [OneLine]
  simpa using h.2

/-- A lead that settles a line has no blanks at its ends. -/
theorem trimChars_of_settles {lead : List Char} (h : settles lead = true) : trimChars lead = lead := by
  simp only [settles, Bool.and_eq_true] at h
  obtain ⟨⟨⟨⟨⟨⟨hhead, hlast⟩, -⟩, -⟩, -⟩, -⟩, -⟩ := h
  refine trimChars_eq_self (fun c hc => ?_) (fun c hc => ?_)
  · rw [hc] at hhead
    simpa using hhead
  · rw [hc] at hlast
    simpa using hlast

theorem opens_of_settles {lead : String} (h : settles lead.toList = true) : opens lead = true := by
  have hfeed := h
  simp only [settles, Bool.and_eq_true] at hfeed
  rw [opens, trimChars_of_settles h, h, hfeed.1.1.1.1.2]
  rfl

/-- What a line is that a lead settles: nothing, or what it is as a draw call. -/
theorem classify_of_settles {row : String} {core more : List Char} (h : settles core = true)
    (htrim : trimChars row.toList = core ++ more) :
    classify row = match draw? (core ++ more) with
      | some call => .draw call
      | none => .other := by
  simp only [settles, Bool.and_eq_true, Bool.or_eq_true] at h
  obtain ⟨⟨⟨⟨⟨⟨hhead, -⟩, -⟩, hslash⟩, hhash⟩, hid⟩, hheader⟩ := h
  have hne : (core ++ more).isEmpty = false := by
    cases core with
    | nil => simp at hhead
    | cons c cs => rfl
  have hcomment : commentBody? (core ++ more) = none := by
    rw [commentBody?, after?_of_clash hslash, after?_of_clash hhash]
    rfl
  have hpage : pageIndex? (core ++ more) = none := by
    refine pageIndex?_eq_none (not_prefix_append_of_clash hid more) ?_
    rcases hheader with hit | hall
    · exact Or.inl ((List.isPrefixOf_iff_prefix.1 hit).trans (List.prefix_append _ _))
    · refine Or.inr fun l hl => ?_
      rw [List.filter_append]
      exact not_prefix_append_of_clash (List.all_eq_true.1 hall l hl) _
  rw [classify]
  cases hdraw : draw? (core ++ more) with
  | none => simp only [htrim, hne, hcomment, hpage, hdraw, Bool.false_eq_true, if_false]
  | some call => simp only [htrim, hne, hcomment, hpage, hdraw, Bool.false_eq_true, if_false]

/-- The same of a lead that has blanks around it. -/
theorem classify_of_opens {lead : String} (h : opens lead = true) (rest : String) :
    ∃ more, classify (lead ++ rest) = match draw? (trimChars lead.toList ++ more) with
      | some call => .draw call
      | none => .other := by
  rw [opens, Bool.and_eq_true] at h
  obtain ⟨before, after, hbefore, hlead⟩ := exists_append_trimChars lead.toList
  have hcore := h.1
  -- Only the middle of the lead is known to stand at the beginning of the line.
  generalize trimChars lead.toList = core at hcore hlead ⊢
  have hends := hcore
  simp only [settles, Bool.and_eq_true] at hends
  obtain ⟨⟨⟨⟨⟨⟨hhead, hlast⟩, -⟩, -⟩, -⟩, -⟩, -⟩ := hends
  refine ⟨dropTrailingBlanks (after ++ rest.toList), classify_of_settles hcore ?_⟩
  rw [String.toList_append, hlead, List.append_assoc, List.append_assoc,
    trimChars_append_left hbefore, trimChars_lead hhead hlast]

/-- **A lead that settles a line makes it quiet.** -/
theorem quiet_of_lead {lead rest : String} (h : opens lead = true) (hrest : OneLine rest) :
    Quiet (lead ++ rest) where
  oneLine := oneLine_append.2 ⟨oneLine_of_opens h, hrest⟩
  saysNothing := by
    obtain ⟨more, hmore⟩ := classify_of_opens h rest
    rw [hmore]
    split <;> rfl

theorem classify_eq_other {lead : String} (h : opens lead = true)
    (hdraw : clash "it.".toList (trimChars lead.toList) = true) (rest : String) :
    classify (lead ++ rest) = .other := by
  obtain ⟨more, hmore⟩ := classify_of_opens h rest
  have hnone : draw? (trimChars lead.toList ++ more) = none := by
    rw [draw?, after?_of_clash hdraw]
    rfl
  rw [hmore, hnone]

/-- **A lead that settles a line and is no draw call makes it silent.** -/
theorem silent_of_lead {lead rest : String} (h : opens lead = true)
    (hdraw : clash "it.".toList (trimChars lead.toList) = true) (hrest : OneLine rest) :
    Silent (lead ++ rest) where
  oneLine := oneLine_append.2 ⟨oneLine_of_opens h, hrest⟩
  classify_eq := classify_eq_other h hdraw rest

/-! ## Draw calls -/

theorem ofComment_ne_draw (body : List Char) (call : DrawCall) : ofComment body ≠ .draw call := by
  unfold ofComment
  split
  · split <;> simp
  · split
    · unfold ofPageFact
      dsimp only
      split <;> simp
    · simp

/-- A line is a draw call only if its trimmed text reads as one. -/
theorem draw?_of_classify {row : String} {call : DrawCall} (h : classify row = .draw call) :
    draw? (trimChars row.toList) = some call := by
  unfold classify at h
  dsimp only at h
  split at h
  · cases h
  · split at h
    · exact absurd h (ofComment_ne_draw _ call)
    · split at h
      · cases h
      · split at h
        · next hdraw =>
          cases h
          exact hdraw
        · cases h

/-! ## Identifiers -/

/-- A row with an identifier starts a page if that is the identifier of one. -/
theorem classify_id {blanks : String} (hblanks : blanks.toList.all isBlank = true) (id : String) :
    classify (blanks ++ ("- id:" ++ id))
      = match (after? "page_" (trimChars id.toList)).bind
          fun n => Numeric.readWord32? (String.ofList n) with
        | some index => .pageHeader index
        | none => .other := by
  have htrim : trimChars ("- id:" ++ id).toList = "- id:".toList ++ dropTrailingBlanks id.toList := by
    rw [String.toList_append, trimChars_lead (by decide) (by decide)]
  have hcomment : commentBody? ("- id:".toList ++ dropTrailingBlanks id.toList) = none := rfl
  have hpage : pageIndex? ("- id:".toList ++ dropTrailingBlanks id.toList)
      = (after? "page_" (trimChars id.toList)).bind
          fun n => Numeric.readWord32? (String.ofList n) := by
    rw [pageIndex?, after?_eq_some_iff.2 rfl]
    dsimp only
    rw [trimChars_dropTrailingBlanks]
  have hdraw : draw? ("- id:".toList ++ dropTrailingBlanks id.toList) = none := rfl
  rw [classify_indent hblanks, classify]
  simp only [htrim, hcomment, hpage, hdraw]
  rfl

/-- An identifier that does not go on from `page_` starts no page. -/
theorem silent_id {blanks : String} (hblanks : blanks.toList.all (· == ' ') = true) {id : String}
    (hid : OneLine id) (hpage : ¬"page_".toList <+: trimChars id.toList) :
    Silent (blanks ++ ("- id:" ++ id)) where
  oneLine := by
    rw [oneLine_append, oneLine_append]
    exact ⟨oneLine_of_blanks hblanks, by decide, hid⟩
  classify_eq := by
    rw [classify_id (isBlank_of_spaces hblanks), after?_eq_none hpage]
    rfl

/-- A row with an identifier that does not go on from `page_`. -/
theorem silent_idRow {id : String} (hid : OneLine id)
    (hpage : ¬"page_".toList <+: trimChars id.toList) : Silent ("  - id: " ++ id) := by
  have hrow : "  - id: " ++ id = "  " ++ ("- id:" ++ (" " ++ id)) := by
    rw [← String.append_assoc, ← String.append_assoc]
    rfl
  rw [hrow]
  refine silent_id (by decide) (oneLine_append.2 ⟨by decide, hid⟩) ?_
  have hblank : ∀ c ∈ " ".toList, isBlank c = true := List.all_eq_true.1 (by decide)
  rwa [String.toList_append, trimChars_append_left hblank]

/-- A row with an identifier that begins in another way. -/
theorem silent_idRow_of_lead {lead rest : String}
    (hlead : (lead.toList.head?.any (!isBlank ·) && lead.toList.getLast?.any (!isBlank ·)
      && clash "page_".toList lead.toList && !lead.toList.contains '\n') = true)
    (hrest : OneLine rest) : Silent ("  - id: " ++ (lead ++ rest)) := by
  simp only [Bool.and_eq_true] at hlead
  obtain ⟨⟨⟨hhead, hlast⟩, hclash⟩, hfeed⟩ := hlead
  have hone : OneLine lead := by
    rw [OneLine]
    simpa using hfeed
  refine silent_idRow (oneLine_append.2 ⟨hone, hrest⟩) ?_
  rw [String.toList_append, trimChars_lead hhead hlast]
  exact not_prefix_append_of_clash hclash _

/-! ## Rows that are known -/

/-- The first two words of a text. -/
def opening (row : String) : String :=
  let cs := dropBlanks row.toList
  let rest := cs.dropWhile (!isBlank ·)
  String.ofList
    (cs.takeWhile (!isBlank ·) ++ (rest.takeWhile isBlank ++ (rest.dropWhile isBlank).takeWhile (!isBlank ·)))

theorem exists_opening_append (row : String) :
    ∃ rest, dropBlanks row.toList = (opening row ++ rest).toList := by
  let cs := dropBlanks row.toList
  let tail := cs.dropWhile (!isBlank ·)
  refine ⟨String.ofList ((tail.dropWhile isBlank).dropWhile (!isBlank ·)), ?_⟩
  rw [opening, String.toList_append, String.toList_ofList, String.toList_ofList, List.append_assoc,
    List.append_assoc, List.takeWhile_append_dropWhile, List.takeWhile_append_dropWhile,
    List.takeWhile_append_dropWhile]

/-- A row on one line whose first two words settle what it is. -/
def settlesRow (row : String) : Bool := opens (opening row) && !row.toList.contains '\n'

theorem oneLine_of_settlesRow {row : String} (h : settlesRow row = true) : OneLine row := by
  rw [settlesRow, Bool.and_eq_true, Bool.not_eq_true'] at h
  rw [OneLine]
  simpa using h.2

theorem classify_opening (row : String) : ∃ rest, classify row = classify (opening row ++ rest) := by
  obtain ⟨rest, hrest⟩ := exists_opening_append row
  refine ⟨rest, classify_congr ?_⟩
  rw [← hrest, trimChars, trimChars]
  simp only [dropBlanks, List.dropWhile_idempotent isBlank row.toList]

theorem quiet_of_settlesRow {row : String} (h : settlesRow row = true) : Quiet row := by
  obtain ⟨rest, hrest⟩ := classify_opening row
  obtain ⟨more, hmore⟩ := classify_of_opens (Bool.and_eq_true _ _ ▸ h).1 rest
  refine ⟨oneLine_of_settlesRow h, ?_⟩
  rw [hrest, hmore]
  split <;> rfl

/-- Whether characters are those of a row that is no comment, no header and no draw call. -/
def areSilent (cs : List Char) : Bool :=
  (commentBody? (trimChars cs)).isNone && (pageIndex? (trimChars cs)).isNone
    && (draw? (trimChars cs)).isNone && !cs.contains '\n'

-- A literal unifies with the text of its characters, which spares the kernel to decode it.
theorem silent_ofList {cs : List Char} (h : areSilent cs = true) : Silent (String.ofList cs) := by
  simp only [areSilent, Bool.and_eq_true, Option.isNone_iff_eq_none, Bool.not_eq_true'] at h
  obtain ⟨⟨⟨hcomment, hpage⟩, hdraw⟩, hfeed⟩ := h
  refine ⟨?_, ?_⟩
  · rw [oneLine_ofList]
    simpa using hfeed
  · rw [classify]
    simp only [String.toList_ofList, hcomment, hpage, hdraw]
    exact ite_self _

/-- A brace that closes a block does not yet go on with another page. -/
theorem quiet_brace : Quiet "\x7d" := by decide

end DisplayLayout.Line
