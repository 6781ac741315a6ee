import DisplayLayout.Artifact.Basic
import DisplayLayout.Proofs.Marker.Codec

/-!
# Comment lines

A comment is written behind either lead at any indentation, and what it says is
read back: a marker (`classify_marker`) or a fact about a page
(`classify_fact`). Main statement: `classify_comment_line`.
-/

namespace DisplayLayout

namespace Line

/-- The marks that open a comment. -/
def IsCommentLead (lead : String) : Prop := lead = "//" ∨ lead = "#"

/-- A comment line. -/
def comment (indent : Nat) (lead body : String) : String :=
  Text.spaces indent ++ lead ++ " " ++ body

theorem mem_spaces {n : Nat} {c : Char} (h : c ∈ (Text.spaces n).toList) : c = ' ' := by
  rw [Text.spaces, String.toList_ofList] at h
  exact List.eq_of_mem_replicate h

theorem toList_comment (indent : Nat) (lead body : String) :
    (comment indent lead body).toList
      = (Text.spaces indent).toList ++ (lead.toList ++ ' ' :: body.toList) := by
  simp [comment]

/-- Neither lead nor indentation brings a line break with it. -/
theorem comment_unbroken (indent : Nat) {lead body : String} (hlead : IsCommentLead lead)
    (hbody : ∀ c ∈ body.toList, Marker.isBreak c = false) :
    ∀ c ∈ (comment indent lead body).toList, Marker.isBreak c = false := by
  intro c hc
  rw [toList_comment, List.mem_append, List.mem_append, List.mem_cons] at hc
  rcases hc with hc | hc | rfl | hc
  · rw [mem_spaces hc]
    decide
  · rcases hlead with rfl | rfl
    · exact Marker.unbroken_of_all (by decide) hc
    · exact Marker.unbroken_of_all (by decide) hc
  · decide
  · exact hbody c hc

/-- A comment line is taken by its body, if blanks neither start nor end that. -/
theorem classify_comment {indent : Nat} {lead body : String} (hlead : IsCommentLead lead)
    (hne : body.toList ≠ []) (hhead : ∀ c ∈ body.toList.head?, Text.isBlank c = false)
    (hlast : ∀ c ∈ body.toList.getLast?, Text.isBlank c = false) :
    classify (comment indent lead body) = ofComment body.toList := by
  have htrim : Text.trimChars (comment indent lead body).toList
      = lead.toList ++ ' ' :: body.toList := by
    rw [toList_comment, Text.trimChars_append_left]
    · refine Text.trimChars_eq_self ?_ ?_
      · intro c hc
        rcases hlead with rfl | rfl <;> cases hc <;> decide
      · intro c hc
        rw [← List.singleton_append, ← List.append_assoc,
          List.getLast?_append_of_ne_nil _ hne] at hc
        exact hlast c hc
    · intro c hc
      rw [mem_spaces hc]
      decide
  have hbody : Text.dropBlanks (' ' :: body.toList) = body.toList := by
    obtain ⟨c, cs, hcs⟩ := List.exists_cons_of_ne_nil hne
    have hc : Text.isBlank c = false := hhead c (by rw [hcs]; rfl)
    rw [Text.dropBlanks, List.dropWhile_cons_of_pos (by decide), hcs,
      List.dropWhile_cons_of_neg (by simp [hc])]
  rw [classify]
  simp only [htrim]
  rcases hlead with rfl | rfl
  · show ofComment (Text.dropBlanks (' ' :: body.toList)) = _
    rw [hbody]
  · show ofComment (Text.dropBlanks (' ' :: body.toList)) = _
    rw [hbody]

/-! ## Markers -/

theorem ofComment_render {m : Marker} (h : m.IsPlain) :
    ofComment m.render.toList = .marker m := by
  have hafter : (after? (Marker.leadKey ++ ":") m.render.toList).isSome := by
    rw [Marker.toList_render]
    rfl
  obtain ⟨rest, hrest⟩ := Option.isSome_iff_exists.1 hafter
  rw [ofComment, hrest]
  simp only [String.ofList_toList, Marker.read?_render h]

/-- **A marker is read back from its line.** -/
theorem classify_marker {indent : Nat} {lead : String} (hlead : IsCommentLead lead) {m : Marker}
    (h : m.IsPlain) : classify (comment indent lead m.render) = .marker m := by
  have hne : m.render.toList ≠ [] := by
    rw [Marker.toList_render]
    exact List.cons_ne_nil _ _
  rw [classify_comment hlead hne, ofComment_render h]
  · intro c hc
    rw [Marker.toList_render] at hc
    cases hc
    decide
  · exact fun c hc => Marker.isBlank_getLast?_render h hc

/-! ## Facts about a page -/

theorem toList_factText (fact : String × String) :
    (Page.factText fact).toList
      = "page:".toList ++ (fact.1.toList ++ ' ' :: (Marker.quote fact.2).toList) := by
  simp [Page.factText]

theorem getLast?_factText (fact : String × String) :
    (Page.factText fact).toList.getLast? = some '"' := by
  rw [toList_factText, ← List.singleton_append (x := ' '), ← List.append_assoc,
    ← List.append_assoc, List.getLast?_append_of_ne_nil _ (by simp [Marker.toList_quote]),
    Marker.getLast?_quote]

theorem factValue_quote (s : String) : factValue (Marker.quote s).toList = s := by
  have hhead : (Marker.quote s).toList.head? = some '"' := by
    rw [Marker.toList_quote]
    rfl
  have hlength : 2 ≤ (Marker.quote s).toList.length := by
    rw [Marker.toList_quote, List.length_append, List.length_cons, List.length_singleton]
    omega
  rw [factValue, if_pos ⟨hhead, Marker.getLast?_quote s, hlength⟩, String.ofList_toList,
    Marker.unquote_quote]

theorem ofComment_factText {key : String} (hkey : Text.isWord key.toList = true) (value : String) :
    ofComment (Page.factText (key, value)).toList = .pageFact key value := by
  have hnot : after? (Marker.leadKey ++ ":") (Page.factText (key, value)).toList = none := by
    rw [toList_factText]
    rfl
  have hrest : after? (pageKey ++ ":") (Page.factText (key, value)).toList
      = some (key.toList ++ ' ' :: (Marker.quote value).toList) := by
    rw [toList_factText]
    rfl
  have hall : ∀ c ∈ key.toList, (!Text.isBlank c) = true := fun c hc => by
    rw [Text.isBlank_eq_false_of_isWordChar ((Text.isWord_iff.1 hkey).2 c hc)]
    rfl
  have htake : (key.toList ++ ' ' :: (Marker.quote value).toList).takeWhile (!Text.isBlank ·)
      = key.toList := Text.takeWhile_append_cons hall (by decide) _
  have hdrop : (key.toList ++ ' ' :: (Marker.quote value).toList).dropWhile (!Text.isBlank ·)
      = ' ' :: (Marker.quote value).toList := Text.dropWhile_append_cons hall (by decide) _
  have htrim : Text.trimChars (' ' :: (Marker.quote value).toList)
      = (Marker.quote value).toList := by
    rw [← List.singleton_append, Text.trimChars_append_left (List.forall_mem_singleton.2 (by decide))]
    refine Text.trimChars_eq_self (fun c hc => ?_) (fun c hc => ?_)
    · rw [Marker.toList_quote] at hc
      cases hc
      decide
    · rw [Marker.getLast?_quote] at hc
      cases hc
      decide
  rw [ofComment, hnot, hrest]
  show ofPageFact (key.toList ++ ' ' :: (Marker.quote value).toList) = _
  rw [ofPageFact]
  simp only [htake, hdrop, htrim, hkey, if_true, String.ofList_toList, factValue_quote]

theorem factText_unbroken {key : String} (hkey : Text.isWord key.toList = true) (value : String) :
    ∀ c ∈ (Page.factText (key, value)).toList, Marker.isBreak c = false := by
  intro c hc
  rw [toList_factText, List.mem_append, List.mem_append, List.mem_cons] at hc
  rcases hc with hc | hc | rfl | hc
  · exact Marker.unbroken_of_all (by decide) hc
  · have hword := (Text.isWord_iff.1 hkey).2 c hc
    exact Marker.isBreak_eq_false_of_isBlank (Text.isBlank_eq_false_of_isWordChar hword)
  · decide
  · exact Marker.quote_unbroken hc

/-- **A fact about a page is read back from its line.** -/
theorem classify_fact {indent : Nat} {lead : String} (hlead : IsCommentLead lead) {key : String}
    (hkey : Text.isWord key.toList = true) (value : String) :
    classify (comment indent lead (Page.factText (key, value))) = .pageFact key value := by
  have hne : (Page.factText (key, value)).toList ≠ [] := by
    rw [toList_factText]
    exact List.cons_ne_nil _ _
  rw [classify_comment hlead hne, ofComment_factText hkey]
  · intro c hc
    rw [toList_factText] at hc
    cases hc
    decide
  · intro c hc
    rw [getLast?_factText] at hc
    cases hc
    decide

/-! ## The codec -/

theorem break_notMem {s : String} (h : ∀ c ∈ s.toList, Marker.isBreak c = false) :
    '\r' ∉ s.toList ∧ '\n' ∉ s.toList :=
  ⟨fun hc => absurd (h _ hc) (by decide), fun hc => absurd (h _ hc) (by decide)⟩

/-- **The codec of comment lines.** Whatever the values hold, a marker and a fact about a page are
each written on one line, at any indentation and behind either lead, and that line is read back as
the same marker, its fields in the same order, or the same fact. -/
theorem classify_comment_line (indent : Nat) {lead : String} (hlead : lead = "//" ∨ lead = "#") :
    (∀ m : Marker, m.IsPlain →
      let line := Text.spaces indent ++ lead ++ " " ++ m.render
      '\r' ∉ line.toList ∧ '\n' ∉ line.toList ∧ classify line = .marker m) ∧
    (∀ key value : String, Text.isWord key.toList = true →
      let line := Text.spaces indent ++ lead ++ " page:" ++ key ++ " " ++ Marker.quote value
      '\r' ∉ line.toList ∧ '\n' ∉ line.toList ∧ classify line = .pageFact key value) := by
  constructor
  · intro m hm
    obtain ⟨hreturn, hfeed⟩ :=
      break_notMem (comment_unbroken indent hlead fun _ => Marker.render_unbroken hm)
    exact ⟨hreturn, hfeed, classify_marker hlead hm⟩
  · intro key value hkey
    have hline : Text.spaces indent ++ lead ++ " page:" ++ key ++ " " ++ Marker.quote value
        = comment indent lead (Page.factText (key, value)) := by
      rw [← String.toList_inj]
      simp [comment, Page.factText]
    obtain ⟨hreturn, hfeed⟩ :=
      break_notMem (comment_unbroken indent hlead (factText_unbroken hkey value))
    rw [hline]
    exact ⟨hreturn, hfeed, classify_fact hlead hkey value⟩

/-- A marker with awkward values and the name of a page, both read back. -/
theorem classify_comment_line_awkward :
    classify "  // widget:label id:w_1 t:\"a \\\"b\\\": c\\n\" empty:\"\""
      = .marker ⟨"label", [("id", "w_1"), ("t", "a \"b\": c\n"), ("empty", "")]⟩ ∧
    classify "  // page:name \"C:\\\\\"" = .pageFact "name" "C:\\" := by
  obtain ⟨hmarker, hfact⟩ := classify_comment_line 2 (Or.inl rfl : "//" = "//" ∨ "//" = "#")
  have hm := hmarker ⟨"label", [("id", "w_1"), ("t", "a \"b\": c\n"), ("empty", "")]⟩
    ⟨by decide, by decide, by decide⟩
  have hf := hfact "name" "C:\\" (by decide)
  exact ⟨hm.2.2, hf.2.2⟩

end Line

end DisplayLayout
