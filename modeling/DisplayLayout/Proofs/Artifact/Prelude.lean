import DisplayLayout.Proofs.Artifact.Local
import DisplayLayout.Proofs.FontManifest
import DisplayLayout.Proofs.Widget.Helpers
import DisplayLayout.Proofs.Widget.Painted
import DisplayLayout.Qr.Symbol

/-!
# The prelude of a display lambda

A display lambda defines the helpers that it calls: those of the masks and of
the rounded rectangles, each of them once, and none that no statement calls
(`DisplayLambda.masked_or_solid_compile`). Whether a region is masked at all is
decided by its color alone.
-/

namespace DisplayLayout

open Text Lambda

/-! ## Helpers of a run -/

theorem Generation.mem_helpers_absorb {g : Generation} {d : Drawing} {h : DrawHelper} :
    h ∈ (g.absorb d).helpers ↔ h ∈ g.helpers ∨ h ∈ d.helpers := by
  show h ∈ d.helpers.foldl (fun hs h => if hs.contains h then hs else hs ++ [h]) g.helpers ↔ _
  generalize g.helpers = known
  induction d.helpers generalizing known with
  | nil => simp
  | cons k ks ih =>
    rw [List.foldl_cons, ih, List.mem_cons, ← or_assoc]
    refine or_congr_left ?_
    split
    · next hknown =>
      refine ⟨Or.inl, ?_⟩
      rintro (hmem | rfl)
      · exact hmem
      · exact List.contains_iff_mem.1 hknown
    · rw [List.mem_append, List.mem_singleton]

/-- The helpers of a run are those that its emissions ask for. -/
theorem Generation.mem_helpers_registries {α : Type} (config : Config) (pages : List (VisitedPage α))
    {h : DrawHelper} : h ∈ (registries config pages).helpers
      ↔ ∃ page ∈ pages, ∃ e ∈ page.emissions, h ∈ e.uses.helpers := by
  have hfold : ∀ (es : List (Emission α)) (g : Generation),
      h ∈ (es.foldl (fun g e => g.absorb e.uses) g).helpers
        ↔ h ∈ g.helpers ∨ ∃ e ∈ es, h ∈ e.uses.helpers := by
    intro es
    induction es with
    | nil => simp
    | cons e es ih =>
      intro g
      rw [List.foldl_cons, ih, mem_helpers_absorb, List.exists_mem_cons_iff, or_assoc]
  rw [registries, hfold]
  simp only [List.not_mem_nil, false_or, List.mem_flatMap]
  constructor
  · rintro ⟨e, ⟨page, hpage, he⟩, hh⟩
    exact ⟨page, hpage, e, he, hh⟩
  · rintro ⟨page, hpage, e, he, hh⟩
    exact ⟨e, ⟨page, hpage, he⟩, hh⟩

/-! ## Calls in a run -/

namespace DisplayLambda

/-- A statement of some widget calls a helper. -/
def Calls (pages : List (VisitedPage (List String))) (h : DrawHelper) : Prop :=
  ∃ page ∈ pages, ∃ rows ∈ page.contents, ∃ row ∈ rows, h ∈ lineHelpers row

/-- What stands around the statements of a widget calls no helper. -/
theorem exists_mem_block_iff [Qr.Encoder] {w : Widget} {k : Kind} (htype : w.type = k.tag)
    {body : List String} {h : DrawHelper} :
    (∃ row ∈ block (w.view k.behaviour) body, h ∈ lineHelpers row)
      ↔ ∃ line ∈ body, h ∈ lineHelpers line := by
  have hquiet : ∀ {a b : Nat} {row : String}, Passage (fun _ => False) (fun _ => True) a b [row] →
      h ∉ lineHelpers row := fun hrow => hrow.supplies_helper (List.mem_singleton_self _)
  have hmarker := hquiet (Passage.comment (a := 0)
    (Marker.getLast?_render_ne (Widget.isPlain_marker htype)))
  have hindent : (∃ row ∈ body.map Lambda.indent, h ∈ lineHelpers row)
      ↔ ∃ line ∈ body, h ∈ lineHelpers line := by
    simp only [List.mem_map, exists_exists_and_eq_and, lineHelpers_indent]
  rw [block, List.exists_mem_cons_iff, or_iff_right hmarker, guarded]
  split
  · next c _ =>
    have hopen := hquiet (Passage.opening (a := 0) (c.fragment_check (G := fun _ => True)))
    have hclose := hquiet passage_close
    simp only [List.cons_append, List.exists_mem_cons_iff, or_iff_right hopen, List.mem_append,
      List.mem_singleton, or_and_right, exists_or, exists_eq_left, or_iff_left hclose, hindent]
  · exact Iff.rfl

/-- **A run has registered the helpers that its statements call.** -/
theorem mem_helpers_iff_calls [Qr.Encoder] (p : Project) (config : Config) {h : DrawHelper} :
    h ∈ (registries config (p.visit form config)).helpers ↔ Calls (p.visit form config) h := by
  rw [Generation.mem_helpers_registries]
  refine exists_congr fun page => and_congr_right fun hpage => ?_
  obtain ⟨source, -, rfl⟩ := List.mem_map.1 hpage
  simp only [VisitedPage.contents, List.mem_map, exists_exists_and_eq_and]
  refine exists_congr fun e => and_congr_right fun he => ?_
  obtain ⟨w, -, k, htype, rfl⟩ := VisitedPage.exists_of_mem_emissions form config p.dark source he
  have huses : (form.emission (VisitedPage.ofPage form config p.dark source).surface k.behaviour w).uses.helpers
      = (k.behaviour.direct (w.view k.behaviour)
          (VisitedPage.ofPage form config p.dark source).surface).helpers := by
    show (k.behaviour.requirements _).helpers ++ _ = _
    rw [k.helpers_requirements]
    rfl
  rw [huses, k.mem_helpers_iff]
  exact (exists_mem_block_iff htype).symm

/-! ## Definitions -/

/-- Whether a line begins the definition of a helper. -/
def defines (h : DrawHelper) (line : String) : Bool :=
  (definitionLead h).toList.isPrefixOf line.toList

theorem not_defines_of_head? {line : String} (h : line.toList.head? ≠ some 'a') (helper : DrawHelper) :
    ¬ defines helper line = true := by
  intro hdefines
  refine h ?_
  obtain ⟨rest, hrest⟩ := List.isPrefixOf_iff_prefix.1 hdefines
  rw [← hrest, ← String.toList_ofList (l := rest), ← String.toList_append]
  unfold definitionLead
  simp only [String.append_assoc]
  exact head?_append rfl _

/-- The head of a definition begins the one of its helper. -/
theorem defines_head_iff {h k : DrawHelper} (parameters : String) :
    defines h (definitionLead k ++ parameters) = true ↔ k = h := by
  have hclash : ∀ h k : DrawHelper,
      k = h ∨ Line.clash (definitionLead h).toList (definitionLead k).toList = true := by
    intro h k
    cases h <;> cases k <;> decide +kernel
  rw [defines, String.toList_append, List.isPrefixOf_iff_prefix]
  constructor
  · intro hpre
    rcases hclash h k with heq | hother
    · exact heq
    · exact absurd hpre (Line.not_prefix_append_of_clash hother _)
  · rintro rfl
    exact List.prefix_append _ _

theorem countP_definition (h k : DrawHelper) :
    k.definition.countP (defines h) = if k = h then 1 else 0 := by
  obtain ⟨parameters, hrows⟩ := exists_definition k
  have hbody : k.definition.tail.countP (defines h) = 0 := by
    refine List.countP_eq_zero.2 fun row hrow => not_defines_of_head? ?_ h
    rcases head?_tail_definition k row hrow with hhead | hhead <;> rw [hhead] <;> decide
  rw [hrows, List.countP_cons, hbody, Nat.zero_add]
  simp only [defines_head_iff]

/-- A prelude defines each wanted helper once. -/
theorem countP_prelude (h : DrawHelper) (wanted : List DrawHelper) :
    (DrawHelper.prelude wanted).countP (defines h) = if h ∈ wanted then 1 else 0 := by
  have hnodup : DrawHelper.all.Nodup := by decide
  have hall : h ∈ DrawHelper.all := by cases h <;> decide
  -- Every definition begins once, so that the lines are counted by counting helpers.
  have hsum : ∀ helpers : List DrawHelper,
      (helpers.flatMap DrawHelper.definition).countP (defines h) = helpers.count h := by
    intro helpers
    induction helpers with
    | nil => rfl
    | cons k helpers ih =>
      rw [List.flatMap_cons, List.countP_append, ih, countP_definition, List.count_cons, Nat.add_comm]
      simp only [beq_iff_eq]
  rw [DrawHelper.prelude, hsum, (hnodup.filter _).count]
  simp [hall]

/-- Only the prelude of a lambda defines helpers. -/
theorem countP_lines (g : Generation) (pages : List (VisitedPage (List String))) (h : DrawHelper) :
    (lines g pages).countP (defines h) = if h ∈ g.helpers then 1 else 0 := by
  have hconstants : Color.constantLines.countP (defines h) = 0 := by
    refine List.countP_eq_zero.2 fun row hrow => not_defines_of_head? ?_ h
    obtain ⟨constant, -, rfl⟩ := List.mem_map.1 hrow
    simp only [String.append_assoc]
    rw [head?_append (rfl : "const auto ".toList.head? = some 'c')]
    decide
  have hcurrent : ["int currentPage = id(display_page);"].countP (defines h) = 0 :=
    List.countP_eq_zero.2 (List.forall_mem_singleton.2 (not_defines_of_head? (by decide) h))
  have hpages : (pages.mapIdx pageLines).flatten.countP (defines h) = 0 := by
    refine List.countP_eq_zero.2 fun row hrow => not_defines_of_head? ?_ h
    obtain ⟨rows, hrows, hrow⟩ := List.mem_flatten.1 hrow
    obtain ⟨index, hindex, rfl⟩ := List.mem_mapIdx.1 hrows
    rw [pageLines_eq, List.mem_cons, List.mem_append, List.mem_singleton] at hrow
    rcases hrow with rfl | hrow | rfl
    · rw [head?_opening]
      decide
    · obtain ⟨inner, -, rfl⟩ := List.mem_map.1 hrow
      rw [Lambda.indent, head?_append (rfl : "  ".toList.head? = some ' ')]
      decide
    · decide
  rw [lines, List.countP_append, List.countP_append, List.countP_append, hconstants, hcurrent, hpages,
    Generation.prelude, countP_prelude, Nat.zero_add, Nat.add_zero]

/-! ## Whole projects -/

/-- **A region is masked or it is solid, and what masks is there.** On every surface the inside of a
shape and the background of a text are painted by one statement, and the border by statements of one
sort behind it: masks where the display has no gray for a gray, and solid calls everywhere else. A
display lambda defines each helper once that some statement of a widget calls, in its prelude, and
no other one. -/
theorem masked_or_solid_compile [Qr.Encoder] {p : Project} {config : Config}
    (hmode : config.mode = .direct) :
    (∀ (v : View) (s : Surface),
      Shape.PaintsRegions v s (Shape.borderWidth v) (Kind.shapeRect.behaviour.direct v s).lines
        ∧ Shape.PaintsRegions v s (RoundedRect.border v) (Kind.roundedRect.behaviour.direct v s).lines
        ∧ Shape.PaintsRegions v s (Shape.borderWidth v) (Kind.shapeCircle.behaviour.direct v s).lines
        ∧ s.PaintsOnce (v.text "color") (Kind.line.behaviour.direct v s).lines
        ∧ Caption.PaintsBackground v s (Kind.text.behaviour.direct v s).lines)
      ∧ let pages := p.visit form config
        let g := registries config pages
        let lambda := lines g pages
        (∃ front, (p.compile config).artifact.text
            = Section.renderAll (front ++ [displaySection config.device lambda]))
          ∧ (p.compile config).artifact.document.get? "lambda" = some (.array (lambda.map .string))
          ∧ ∀ h : DrawHelper,
              (Calls pages h → g.prelude.countP (defines h) = 1 ∧ lambda.countP (defines h) = 1)
              ∧ (¬ Calls pages h → lambda.countP (defines h) = 0) := by
  refine ⟨fun v s => ⟨PlainRect.paintsRegions_direct v s, RoundedRect.paintsRegions_direct v s,
    Circle.paintsRegions_direct v s, StraightLine.paintsOnce_direct v s,
    Caption.paintsBackground_direct v s⟩, ?_⟩
  intro pages g lambda
  refine ⟨⟨_, text_compile hmode⟩, ?_, fun h => ⟨fun hcalls => ?_, fun hcalls => ?_⟩⟩
  · rw [Project.compile, hmode]
    rfl
  · have hmem : h ∈ g.helpers := (mem_helpers_iff_calls p config).2 hcalls
    rw [countP_lines, if_pos hmem]
    exact ⟨(countP_prelude h g.helpers).trans (if_pos hmem), rfl⟩
  · have hnone : h ∉ g.helpers := fun hmem => hcalls ((mem_helpers_iff_calls p config).1 hmem)
    rw [countP_lines, if_neg hnone]

/-- A gray bar and a gray rectangle on a display without gray. -/
theorem masked_or_solid_compile_gray :
    let p : Project := { pages := [{ id := "home", name := "Home", widgets := [
      { id := "a", type := "shape_rect", x := 0, y := 0, width := 40, height := 20,
        props := [("fill", .bool true), ("color", .string "gray"), ("border_color", .string "red")] },
      { id := "b", type := "progress_bar", x := 0, y := 40, width := 90, height := 30,
        props := [("color", .string "gray")] }] }] }
    let g := registries {} (p.visit form {})
    ({} : Config).mode = .direct ∧ g.prelude.countP (defines .ditherRect) = 1
      ∧ (lines g (p.visit form {})).countP (defines .ditherCircle) = 0 := by
  intro p g
  have hdirect : ({} : Config).mode = .direct := rfl
  obtain ⟨-, -, -, hdefined⟩ := masked_or_solid_compile (p := p) hdirect
  have hcalls : Calls (p.visit form {}) .ditherRect :=
    (mem_helpers_iff_calls p {}).1 (by decide +kernel)
  have hnone : ¬ Calls (p.visit form {}) .ditherCircle := fun h =>
    absurd ((mem_helpers_iff_calls p {}).2 h) (by decide +kernel)
  exact ⟨hdirect, ((hdefined _).1 hcalls).1, (hdefined _).2 hnone⟩

end DisplayLambda

end DisplayLayout
