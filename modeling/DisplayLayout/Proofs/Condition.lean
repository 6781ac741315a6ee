import DisplayLayout.Condition
import DisplayLayout.Proofs.Lambda.Statement

/-!
# The check of a condition

The check of a visibility condition stands in the display lambda like the
conditions that start pages. It reads the state of a sensor, though, and no
sensor makes it look like a page (`Condition.quiet_guard`).
-/

namespace DisplayLayout

open Text

/-! ## A word in parentheses -/

/-- A word that ends at a parenthesis is found again in a text that goes on with it. -/
theorem prefix_of_closed {a b u v : List Char} (ha : ')' ∉ a) (hb : ')' ∉ b)
    (h : a ++ ')' :: u <+: b ++ ')' :: v) : u <+: v := by
  induction a generalizing b with
  | nil =>
    cases b with
    | nil => exact (List.cons_prefix_cons.1 h).2
    | cons d b =>
      rw [List.mem_cons, not_or] at hb
      exact absurd (List.cons_prefix_cons.1 h).1 hb.1
  | cons c a ih =>
    rw [List.mem_cons, not_or] at ha
    cases b with
    | nil => exact absurd (List.cons_prefix_cons.1 h).1.symm ha.1
    | cons d b =>
      rw [List.mem_cons, not_or] at hb
      exact ih ha.2 hb.2 (List.cons_prefix_cons.1 h).2

theorem clash_of_closed {a b u v : List Char} (ha : ')' ∉ a) (hb : ')' ∉ b)
    (h : Line.clash u v = true) : Line.clash (a ++ ')' :: u) (b ++ ')' :: v) = true := by
  simp only [Line.clash, Bool.and_eq_true, Bool.not_eq_true', ← Bool.not_eq_true,
    List.isPrefixOf_iff_prefix] at h ⊢
  exact ⟨fun hp => h.1 (prefix_of_closed ha hb hp), fun hp => h.2 (prefix_of_closed hb ha hp)⟩

theorem clash_append_left {l a b : List Char} (h : Line.clash a b = true) :
    Line.clash (l ++ a) (l ++ b) = true := by
  simp only [Line.clash, Bool.and_eq_true, Bool.not_eq_true', ← Bool.not_eq_true,
    List.isPrefixOf_iff_prefix, List.prefix_append_right_inj] at h ⊢
  exact h

theorem clash_append_right {a b : List Char} (h : Line.clash a b = true) (rest : List Char) :
    Line.clash a (b ++ rest) = true := by
  have hleft := Line.not_prefix_append_of_clash h rest
  simp only [Line.clash, Bool.and_eq_true, Bool.not_eq_true', ← Bool.not_eq_true,
    List.isPrefixOf_iff_prefix] at h ⊢
  exact ⟨hleft, fun hp => h.2 ((List.prefix_append b rest).trans hp)⟩

/-- The state of a sensor is not the number of the page, whatever the sensor is called. -/
theorem settles_if_state {word : String} (h : IsWordText word) :
    Line.settles ("if (id(" ++ word ++ ").state").toList = true := by
  have hfilter : word.toList.filter (!isBlank ·) = word.toList := by
    rw [List.filter_eq_self]
    intro c hc
    rw [isBlank_eq_false_of_isWordChar (h c hc)]
    rfl
  have hclose : ')' ∉ word.toList := fun hm => absurd (h _ hm) (by decide)
  have hfeed : '\n' ∉ word.toList := h.oneLine
  have hlead : ("if (id(" ++ word ++ ").state").toList
      = "if (id(".toList ++ (word.toList ++ ").state".toList) := by simp
  have hlast : ("if (id(".toList ++ (word.toList ++ ").state".toList)).getLast? = some 'e' := by
    rw [List.getLast?_append, List.getLast?_append]
    rfl
  have hcompact : ("if (id(".toList ++ (word.toList ++ ").state".toList)).filter (!isBlank ·)
      = "if(id(".toList ++ (word.toList ++ ").state".toList) := by
    rw [List.filter_append, List.filter_append, hfilter]
    rfl
  -- Only a check of the page begins alike, and its parenthesis goes on with a comparison.
  have hclosed : Line.clash ("display_page".toList ++ ')' :: "==".toList)
      (word.toList ++ ')' :: ".state".toList) = true :=
    clash_of_closed (by decide) hclose (by decide)
  have hpage : Line.clash "if(id(display_page)==".toList
      ("if(id(".toList ++ (word.toList ++ ").state".toList)) = true :=
    clash_append_left (l := "if(id(".toList) hclosed
  have hother : ∀ lead ∈ Line.headerLeads, lead ≠ "if(id(display_page)==".toList →
      Line.clash lead "if(id(".toList = true := by decide
  have hheaders : (Line.headerLeads.all
      (Line.clash · ("if(id(".toList ++ (word.toList ++ ").state".toList)))) = true := by
    rw [List.all_eq_true]
    intro lead hmem
    by_cases heq : lead = "if(id(display_page)==".toList
    · rw [heq]
      exact hpage
    · exact clash_append_right (hother lead hmem heq) _
  have hcontains : ("if (id(".toList ++ (word.toList ++ ").state".toList)).contains '\n' = false := by
    simp [hfeed]
  rw [hlead, Line.settles, hlast, hcompact, hheaders, hcontains]
  simp only [clash_append_right (show Line.clash "//".toList "if (id(".toList = true by decide),
    clash_append_right (show Line.clash "#".toList "if (id(".toList = true by decide),
    clash_append_right (show Line.clash "- id:".toList "if (id(".toList = true by decide),
    Bool.or_true, Bool.and_true]
  rfl

/-! ## Checks -/

namespace Condition

/-- What stands in front of the state that a check reads. -/
def checkLeads : List String := ["", "!", "(int) "]

/-- An expression on one line that reads the state of a sensor first. -/
def ReadsState (id expression : String) : Prop :=
  ∃ lead ∈ checkLeads, ∃ rest, OneLine rest ∧ expression = lead ++ ("id(" ++ id ++ ").state" ++ rest)

theorem ReadsState.lead {lead : String} (h : lead ∈ checkLeads) (id : String) :
    ReadsState id (lead ++ ("id(" ++ id ++ ").state")) :=
  ⟨lead, h, "", by decide, by simp⟩

theorem ReadsState.append {id expression tail : String} (h : ReadsState id expression)
    (htail : OneLine tail) : ReadsState id (expression ++ tail) := by
  obtain ⟨lead, hlead, rest, hrest, rfl⟩ := h
  exact ⟨lead, hlead, rest ++ tail, oneLine_append.2 ⟨hrest, htail⟩, by simp [String.append_assoc]⟩

theorem oneLine_operatorName (op : Operator) : OneLine op.name := by
  cases op <;> decide

theorem oneLine_literal (text : String) : OneLine (literal text) := by
  unfold literal
  dsimp only
  split
  · decide
  split
  · decide
  split
  · split
    · exact Numeric.oneLine_plainText _
    · decide
  · decide

theorem isWordText_sensorId (c : Condition) : IsWordText c.sensor.id :=
  Sensor.isWordText_id_of _ _

/-- A check reads the state of its sensor first. -/
theorem readsState_check (c : Condition) : ReadsState c.sensor.id c.check := by
  have hstate : ReadsState c.sensor.id ("id(" ++ c.sensor.id ++ ").state") := by
    have h := ReadsState.lead (by decide : "" ∈ checkLeads) c.sensor.id
    rwa [String.empty_append] at h
  have hnot : ReadsState c.sensor.id ("!" ++ ("id(" ++ c.sensor.id ++ ").state")) :=
    ReadsState.lead (by decide) _
  have hint : ReadsState c.sensor.id ("(int) " ++ ("id(" ++ c.sensor.id ++ ").state")) :=
    ReadsState.lead (by decide) _
  have hline : OneLine ("id(" ++ c.sensor.id ++ ").state") := by
    simp +decide only [oneLine_append, c.isWordText_sensorId.oneLine]
  unfold check
  dsimp only
  split
  · split
    · split <;> assumption
    · split <;> assumption
    · split <;> assumption
    · refine (((hint.append (by decide)).append (oneLine_operatorName _)).append (by decide)).append ?_
      split <;> decide
  · refine (((hstate.append ?_).append (by decide)).append (Lambda.oneLine_escape _)).append
      (by decide)
    split <;> decide
  · split
    · have hlow := (hstate.append (by decide : OneLine " >= ")).append (oneLine_literal (c.min.getD "0"))
      have hboth := (hlow.append (by decide : OneLine " && ")).append hline
      exact (hboth.append (by decide : OneLine " <= ")).append (oneLine_literal (c.max.getD "100"))
    · exact (((hstate.append (by decide)).append (oneLine_operatorName _)).append
        (by decide)).append (oneLine_literal _)

/-- **The guard of a condition starts no page.** -/
theorem quiet_guard (c : Condition) : Line.Quiet ("if (" ++ c.check ++ ") \x7b") := by
  obtain ⟨lead, hlead, rest, hrest, hcheck⟩ := c.readsState_check
  have hstate : IsWordText c.sensor.id := c.isWordText_sensorId
  have htail : OneLine (rest ++ ") \x7b") := oneLine_append.2 ⟨hrest, by decide⟩
  have hword : OneLine ("id(" ++ c.sensor.id ++ ").state" ++ (rest ++ ") \x7b")) := by
    simp +decide only [oneLine_append, hstate.oneLine, htail]
  rw [hcheck]
  simp only [checkLeads, List.mem_cons, List.not_mem_nil, or_false] at hlead
  rcases hlead with rfl | rfl | rfl
  · have hline : "if (" ++ ("" ++ ("id(" ++ c.sensor.id ++ ").state" ++ rest)) ++ ") \x7b"
        = "if (id(" ++ c.sensor.id ++ ").state" ++ (rest ++ ") \x7b") := by
      rw [← String.toList_inj]
      simp
    rw [hline]
    exact Line.quiet_of_lead (Line.opens_of_settles (settles_if_state hstate)) htail
  · have hline : "if (" ++ ("!" ++ ("id(" ++ c.sensor.id ++ ").state" ++ rest)) ++ ") \x7b"
        = "if (!" ++ ("id(" ++ c.sensor.id ++ ").state" ++ (rest ++ ") \x7b")) := by
      rw [← String.toList_inj]
      simp
    rw [hline]
    exact Line.quiet_of_lead (by decide) hword
  · have hline : "if (" ++ ("(int) " ++ ("id(" ++ c.sensor.id ++ ").state" ++ rest)) ++ ") \x7b"
        = "if ((int)" ++ (" " ++ ("id(" ++ c.sensor.id ++ ").state" ++ (rest ++ ") \x7b"))) := by
      rw [← String.toList_inj]
      simp
    rw [hline]
    exact Line.quiet_of_lead (by decide) (oneLine_append.2 ⟨by decide, hword⟩)

end Condition

end DisplayLayout
