import DisplayLayout.Proofs.Artifact.Emitted
import DisplayLayout.Proofs.Condition
import DisplayLayout.Proofs.Line.Comment
import DisplayLayout.Qr.Symbol
import Mathlib.Algebra.Group.Nat.Defs

/-!
# The display lambda is read back

A page is a branch on its index, the facts about it, and a block for each
widget: a marker and quiet statements behind it. So every page comes back with
its widgets, whatever the texts of the project are (`DisplayLambda.ofAnyText_compile`).
-/

namespace DisplayLayout

/-! ## Rows of a branch -/

theorem Text.spaces_zero : spaces 0 = "" := rfl

theorem Line.comment_zero (lead body : String) : comment 0 lead body = lead ++ " " ++ body := by
  rw [comment, Text.spaces_zero, String.empty_append]

/-- An index that stands before a closing parenthesis. -/
theorem Line.conditionIndex?_toString {index : Nat} (h : index ≤ Numeric.maxWord32)
    (rest : List Char) :
    conditionIndex? ((toString index).toList ++ ')' :: rest) = some index := by
  have hdigit : ∀ c ∈ (toString index).toList, c.isDigit = true :=
    fun c hc => Numeric.isDigit_of_mem_toString hc
  have hdrop : ((toString index).toList ++ ')' :: rest).dropWhile Char.isDigit = ')' :: rest :=
    Text.dropWhile_append_cons hdigit (by decide) rest
  have htake : ((toString index).toList ++ ')' :: rest).takeWhile Char.isDigit
      = (toString index).toList := Text.takeWhile_append_cons hdigit (by decide) rest
  rw [conditionIndex?, hdrop, htake, Numeric.readDigits?_toString, Option.filter_some,
    if_pos (by simpa using h)]
  rfl

/-- A numeral has no blanks. -/
theorem Numeric.filter_toString (n : Nat) :
    (toString n).toList.filter (!Text.isBlank ·) = (toString n).toList := by
  refine List.filter_eq_self.2 fun c hc => ?_
  rw [Text.isBlank_eq_false_of_isWordChar (Text.isWordChar_of_isDigit (isDigit_of_mem_toString hc))]
  rfl

theorem Line.pageIndex?_branch {index : Nat} (h : index ≤ Numeric.maxWord32) :
    pageIndex? ("if (currentPage == ".toList ++ ((toString index).toList ++ ") \x7b".toList))
      = some index := by
  let cs := "if (currentPage == ".toList ++ ((toString index).toList ++ ") \x7b".toList)
  have hid : after? "- id:" cs = none := rfl
  have hit : after? "it." cs = none := rfl
  have hcompact : cs.filter (!Text.isBlank ·)
      = "if(".toList ++ ("currentPage==".toList ++ ((toString index).toList ++ ")\x7b".toList)) := by
    rw [List.filter_append, List.filter_append, Numeric.filter_toString]
    rfl
  have hcondition : after? "if(" (cs.filter (!Text.isBlank ·))
      = some ("currentPage==".toList ++ ((toString index).toList ++ ")\x7b".toList)) :=
    after?_eq_some_iff.2 hcompact
  have hsubject : after? "currentPage=="
        ("currentPage==".toList ++ ((toString index).toList ++ ")\x7b".toList))
      = some ((toString index).toList ++ ")\x7b".toList) := after?_eq_some_iff.2 rfl
  rw [pageIndex?, hid]
  dsimp only
  rw [hit, if_neg (by decide), hcondition, Option.orElse_some, Option.bind_some, pageSubjects,
    List.findSome?_cons, hsubject]
  exact conditionIndex?_toString h _

theorem Line.oneLine_branch (index : Nat) :
    Text.OneLine ("if (currentPage == " ++ toString index ++ ") \x7b") := by
  rw [Text.oneLine_append, Text.oneLine_append]
  exact ⟨⟨by decide, Numeric.oneLine_toString_nat index⟩, by decide⟩

/-- The branch of a page is its header. -/
theorem Line.classify_branch {index : Nat} (h : index ≤ Numeric.maxWord32) :
    classify ("if (currentPage == " ++ toString index ++ ") \x7b") = .pageHeader index := by
  have hcs : ("if (currentPage == " ++ toString index ++ ") \x7b").toList
      = "if (currentPage == ".toList ++ ((toString index).toList ++ ") \x7b".toList) := by
    rw [String.toList_append, String.toList_append, List.append_assoc]
  have htrim : Text.trimChars ("if (currentPage == ".toList
        ++ ((toString index).toList ++ ") \x7b".toList))
      = "if (currentPage == ".toList ++ ((toString index).toList ++ ") \x7b".toList) := by
    refine Text.trimChars_eq_self (fun c hc => ?_) (fun c hc => ?_)
    · cases hc
      decide
    · rw [← List.append_assoc, List.getLast?_append_of_ne_nil _ (by decide)] at hc
      cases hc
      decide
  have hcomment : commentBody? ("if (currentPage == ".toList
      ++ ((toString index).toList ++ ") \x7b".toList)) = none := rfl
  rw [classify]
  simp only [hcs, htrim, hcomment, pageIndex?_branch h]
  rfl

/-- A call of `fill` is none of the draw calls that are read. -/
theorem Line.silent_fill {rest : String} (h : Text.OneLine rest) :
    Silent ("it.fill(" ++ rest) where
  oneLine := Text.oneLine_append.2 ⟨by decide, h⟩
  classify_eq := by
    obtain ⟨more, hmore⟩ := classify_of_opens (by decide : opens "it.fill(" = true) rest
    have hnone : draw? (Text.trimChars "it.fill(".toList ++ more) = none := by
      have hcall : after? "it." (Text.trimChars "it.fill(".toList ++ more)
          = some ("fill(".toList ++ more) := after?_eq_some_iff.2 rfl
      have hname : Text.splitFirst? '(' ("fill(".toList ++ more) = some ("fill".toList, more) := rfl
      rw [draw?, hcall, Option.bind_eq_bind, Option.bind_some, hname, Option.bind_eq_bind,
        Option.bind_some]
      dsimp only
      cases Text.splitLast? ')' more <;> rfl
    rw [hmore, hnone]

namespace DisplayLambda

open Recovery

/-! ## Blocks -/

theorem quiet_guarded (w : Widget) {body : List String} (h : ∀ line ∈ body, Line.Quiet line) :
    ∀ line ∈ guarded w body, Line.Quiet line := by
  rw [guarded]
  split
  · next c _ =>
    rw [List.cons_append, List.forall_mem_cons, List.forall_mem_append, List.forall_mem_singleton]
    exact ⟨c.quiet_guard, Lambda.quiet_map_indent h, Line.quiet_brace⟩
  · exact h

/-- **The block of a widget yields the widget.** -/
theorem yields_block [Qr.Encoder] {w : Widget} {k : Kind} (htype : w.type = k.tag)
    (hplaced : w.IsPlaced) (s : Surface) :
    Yields (block (w.view k.behaviour) (k.behaviour.direct (w.view k.behaviour) s).lines)
      [w.recovered] := by
  have hhead : "// " ++ (w.view k.behaviour).marker.render
      = Line.comment 0 "//" (w.view k.behaviour).marker.render := by
    rw [Line.comment_zero]
    rfl
  rw [block, hhead]
  refine Widget.yields_marker htype hplaced 0 (Or.inl rfl) (quiet_guarded w ?_)
  exact k.quiet_direct _ s

/-! ## Pages -/

theorem silent_rule : Line.Silent rule := by decide +kernel

theorem factRow_eq (fact : String × String) :
    Lambda.indent ("// " ++ Page.factText fact) = Line.comment 2 "//" (Page.factText fact) := by
  rw [← String.toList_inj]
  simp [Lambda.indent, Line.comment, Text.spaces]

theorem silent_fillRow (s : Surface) : Line.Silent ("it.fill(" ++ s.background ++ ");") := by
  rw [String.append_assoc]
  exact Line.silent_fill (Text.oneLine_append.2 ⟨s.oneLine_background, by decide⟩)

/-- A branch is its header, the facts about the page, and what it draws. -/
theorem pageLines_eq_facts (index : Nat) (visited : VisitedPage (List String)) :
    pageLines index visited = ("if (currentPage == " ++ toString index ++ ") \x7b")
      :: visited.page.factRows 2 "//" ++ ((("it.fill(" ++ visited.surface.background ++ ");")
        :: (visited.contents.intersperse [rule]).flatten).map Lambda.indent ++ ["\x7d"]) := by
  rw [pageLines, Page.factRows]
  simp [← factRow_eq]

/-- **The branch of a page makes the page.** -/
theorem makes_pageLines [Qr.Encoder] {page : Page} (hpage : page.IsNormal) (config : Config)
    (dark : Bool)
    (hmode : config.mode = .direct) {index : Nat} (hindex : index ≤ Numeric.maxWord32) :
    Makes (pageLines index (VisitedPage.ofPage form config dark page)) index
      (page.roundTrip .direct index) := by
  let visited := VisitedPage.ofPage form config dark page
  have hblocks : List.Forall₂ (fun rows w => Yields rows [w]) visited.contents
      ((page.supported .direct).map Widget.recovered) := by
    rw [VisitedPage.contents, List.forall₂_map_left_iff, List.forall₂_map_right_iff, ← hmode]
    refine List.Forall₂.flip (VisitedPage.forall₂_emissions form config dark page ?_)
    intro w hw k htype
    exact yields_block htype (hpage.widgets w hw).toIsPlaced _
  have hfill := silent_fillRow visited.surface
  have hrows : Yields ((("it.fill(" ++ visited.surface.background ++ ");")
        :: (visited.contents.intersperse [rule]).flatten).map Lambda.indent ++ ["\x7d"])
      ((page.supported .direct).map Widget.recovered) := by
    have hfront := (Yields.silent (List.forall_mem_singleton.2 hfill)).append
      (Yields.intersperse silent_rule hblocks)
    have hend : Yields ["\x7d"] [] := Yields.silent (List.forall_mem_singleton.2 (by decide))
    have hall := (hfront.indent "  " (by decide)).append hend
    rwa [List.append_nil] at hall
  rw [pageLines_eq_facts]
  refine Makes.of_rows ?_ (Line.classify_branch hindex) (page.classify_factRows (Or.inl rfl)) hrows
  rw [List.forall_mem_cons]
  exact ⟨Line.oneLine_branch index, page.oneLine_factRows (Or.inl rfl)⟩

/-! ## The whole lambda -/

theorem silent_insideRoundedRect : ∀ row ∈ DrawHelper.insideRoundedRect, Line.Silent row := by
  simp only [DrawHelper.insideRoundedRect, List.forall_mem_cons]
  and_intros
  all_goals first
    | exact Line.silent_ofList (by decide +kernel)
    | exact List.forall_mem_nil _

theorem silent_definition (h : DrawHelper) : ∀ row ∈ h.definition, Line.Silent row := by
  cases h
  all_goals
    simp only [DrawHelper.definition, List.forall_mem_append, List.forall_mem_cons]
    and_intros
  all_goals first
    | exact silent_insideRoundedRect
    | exact Line.silent_ofList (by decide +kernel)
    | exact List.forall_mem_nil _

theorem silent_prelude (helpers : List DrawHelper) :
    ∀ row ∈ DrawHelper.prelude helpers, Line.Silent row := by
  intro row hrow
  obtain ⟨h, -, hrow⟩ := List.mem_flatMap.1 hrow
  exact silent_definition h row hrow

theorem silent_constantLines : ∀ row ∈ Color.constantLines, Line.Silent row := by decide +kernel

/-- A form of output whose fonts are those of the widgets. -/
theorem plainFonts_form [Qr.Encoder] : form.PlainFonts :=
  fun k _ s hfamily => k.plainFonts_direct hfamily s

/-- The rows before the pages. -/
def frontRows (device : Device) (g : Generation) : List String :=
  ["display:", "  - id: " ++ device.displayId, "    lambda: |-"]
    ++ (Color.constantLines ++ g.prelude ++ ["int currentPage = id(display_page);"]).map ("      " ++ ·)

theorem silent_frontRows {device : Device} (hdisplay : device.IsNamed) (g : Generation) :
    ∀ row ∈ frontRows device g, Line.Silent row := by
  have hpage : ¬"page_".toList <+: Text.trimChars device.displayId.toList := by
    rw [hdisplay.isWordText.trimChars_eq]
    exact hdisplay.notPage
  unfold frontRows
  simp only [List.forall_mem_append, List.forall_mem_cons, List.forall_mem_map, List.map_append]
  refine ⟨⟨by decide, ?_, by decide, List.forall_mem_nil _⟩, ⟨fun row hrow => ?_, fun row hrow => ?_⟩,
    by decide +kernel, List.forall_mem_nil _⟩
  · exact Line.silent_idRow hdisplay.isWordText.oneLine hpage
  · exact (silent_constantLines row hrow).indent (by decide)
  · exact (silent_prelude g.helpers row hrow).indent (by decide)

theorem render_displaySection (device : Device) (g : Generation) (pages : List (VisitedPage (List String))) :
    (displaySection device (lines g pages)).render
      = frontRows device g ++ (pages.mapIdx pageLines).flatten.map ("      " ++ ·) := by
  have hindent : ∀ front : List String, (front ++ (pages.mapIdx pageLines).flatten).map ("      " ++ ·)
      = front.map ("      " ++ ·) ++ (pages.mapIdx pageLines).flatten.map ("      " ++ ·) :=
    fun front => List.map_append
  unfold displaySection Section.render lines frontRows
  rw [hindent, List.append_assoc]
  rfl

section

variable [Qr.Encoder]

/-- The text of a project in the form of a display lambda. -/
theorem text_compile {p : Project} {config : Config} (hmode : config.mode = .direct) :
    (p.compile config).artifact.text
      = let pages := p.visit form config
        let g := registries config pages
        Section.renderAll ((p.declare .direct config.device).sections ++ [fontSection g]
          ++ [displaySection config.device (lines g pages)]) := by
  rw [Project.compile, hmode]
  dsimp only [Compilation.withDeclarations, Compilation.assemble, write]
  rw [device_registries, hmode]

/-- **A project is read back from its display lambda.** Its pages come back with the widgets that
a display lambda shows, everything that their markers carry spelled out. -/
theorem ofAnyText_compile {p : Project} {config : Config} (hp : p.IsNormal) (hpages : p.pages ≠ [])
    (hcount : p.pages.length ≤ 2 ^ 32) (hunbroken : ∀ w ∈ p.widgets, w.IsUnbroken .direct)
    (hmode : config.mode = .direct) (hdisplay : config.device.IsNamed) :
    ∃ l, Project.ofAnyText (p.compile config).artifact.text = .ok l
      ∧ l.project = p.roundTrip .direct := by
  have hmakes : ∀ page ∈ p.pages, ∀ index ≤ Numeric.maxWord32,
      Makes (pageLines index (VisitedPage.ofPage form config p.dark page)) index
        (page.roundTrip config.mode index) := by
    intro page hpage index hindex
    rw [hmode]
    exact makes_pageLines (hp page hpage) config p.dark hmode hindex
  rw [text_compile hmode]
  rw [← hmode] at hunbroken ⊢
  exact Project.ofAnyText_of_pages plainFonts_form hp hpages hcount hunbroken hdisplay hmakes
    (render_displaySection _ _ _) (by decide) (silent_frontRows hdisplay _)

/-- **A project comes back from its display lambda.** Whatever its texts are, every page comes back
with what is said about it and with just those of its widgets that a display lambda shows, in order
and each with its place, entity, title and marker. The index of a page is read as 32 bits. -/
theorem comesBack_compile {p : Project} {config : Config} (hloaded : p.IsLoaded)
    (hpages : p.pages ≠ []) (hcount : p.pages.length ≤ 2 ^ 32)
    (hunbroken : ∀ w ∈ p.widgets, w.IsUnbroken .direct) (hmode : config.mode = .direct)
    (hdisplay : config.device.IsNamed) :
    ∃ l, Project.ofAnyText (p.compile config).artifact.text = .ok l
      ∧ List.Forall₂ (Page.ComesBack .direct fun w v => w.ComesBack v ∧ v.heading? = w.heading?)
          p.pages l.project.pages := by
  have huntitled : ∀ k : Kind, k.behaviour.modes.contains .direct = true →
      k.behaviour.table.isTitled = false :=
    Kind.forall_table (fun modes t => modes.contains .direct = true → t.isTitled = false)
      (by decide)
  obtain ⟨l, hl, hproject⟩ :=
    ofAnyText_compile hloaded.isNormal hpages hcount hunbroken hmode hdisplay
  refine ⟨l, hl, ?_⟩
  rw [hproject]
  refine p.forall₂_comesBack fun w k htype hsupported => ?_
  exact ⟨Widget.comesBack_recovered htype, Widget.heading?_recovered htype (huntitled k hsupported)⟩

end

/-- A page whose name and text look like a header and a marker. -/
theorem comesBack_compile_lookalike :
    let p : Project := { pages := [{ id := "home", name := "if (page == 3) \x7b", widgets := [
      { id := "a", type := "text", x := 1, y := 2, width := 30, height := 40,
        props := [("text", .string "\n// widget:text id:b")] }] }] }
    p.IsLoaded ∧ ∃ l, Project.ofAnyText (p.compile {}).artifact.text = .ok l
      ∧ List.Forall₂ (Page.ComesBack .direct fun w v => w.ComesBack v ∧ v.heading? = w.heading?)
          p.pages l.project.pages := by
  intro p
  let document : Json := .object [("pages", .array [.object [("id", .string "home"),
    ("name", .string "if (page == 3) \x7b"), ("widgets", .array [.object [("id", .string "a"),
      ("type", .string "text"), ("x", .number (.int 1)), ("y", .number (.int 2)),
      ("width", .number (.int 30)), ("height", .number (.int 40)),
      ("props", .object [("text", .string "\n// widget:text id:b")])]])]])]
  have hloaded : p.IsLoaded := Or.inl ⟨document, ⟨p, []⟩, rfl, rfl⟩
  refine ⟨hloaded, comesBack_compile hloaded (by decide) (by decide) ?_ rfl ⟨by decide, by decide⟩⟩
  intro w hw
  cases List.mem_singleton.1 hw
  exact ⟨by decide, by decide, by decide, by decide⟩

end DisplayLambda

end DisplayLayout
