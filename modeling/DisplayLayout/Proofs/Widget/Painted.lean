import DisplayLayout.Proofs.Lambda.Call
import DisplayLayout.Proofs.Lambda.Statement
import DisplayLayout.Widget.Caption
import DisplayLayout.Widget.Shape

/-!
# Painted regions

A region of a widget, its inside or its border, is painted either by dither
masks or by solid calls. Which of them depends on nothing but the color of the
region and the surface that it is painted on: a gray on a display that has none
is masked (`Surface.Masks`).
-/

namespace DisplayLayout

/-! ## Masks and solid calls -/

namespace Lambda

/-- The function that a statement calls: the text before its first parenthesis. -/
def callee (line : String) : List Char := line.toList.takeWhile (· != '(')

/-- The helpers that mask a footprint. -/
def maskHelpers : List DrawHelper := [.ditherRect, .ditherRoundedRect, .ditherCircle]

/-- The functions that paint in a color. -/
def solidCallees : List String :=
  ["it.filled_rectangle", "it.rectangle", "it.filled_circle", "it.circle", "it.line",
    DrawHelper.filledRoundedRect.name, DrawHelper.roundedRectBorder.name]

/-- A statement that masks. -/
def IsMask (line : String) : Prop := ∃ h ∈ maskHelpers, callee line = h.name.toList

/-- A statement that paints in a color. -/
def IsSolid (line : String) : Prop := ∃ name ∈ solidCallees, callee line = name.toList

/-- **Nothing masks and paints in a color at once.** -/
theorem IsMask.not_isSolid {line : String} (h : IsMask line) : ¬ IsSolid line := by
  have hapart : ∀ h ∈ maskHelpers, ∀ name ∈ solidCallees, h.name ≠ name := by decide
  rintro ⟨name, hname, hsolid⟩
  obtain ⟨helper, hhelper, hmask⟩ := h
  exact hapart helper hhelper name hname (String.toList_inj.1 (hmask.symm.trans hsolid))

/-- A text that begins with the call of a function. -/
def OpensCall (f line : String) : Prop := ∃ rest, line.toList = f.toList ++ '(' :: rest

namespace OpensCall

variable {f line : String}

theorem name (f : String) : OpensCall f (f ++ "(") := ⟨[], String.toList_append⟩

theorem append (h : OpensCall f line) (s : String) : OpensCall f (line ++ s) := by
  obtain ⟨rest, h⟩ := h
  exact ⟨rest ++ s.toList, by rw [String.toList_append, h, List.append_assoc, List.cons_append]⟩

theorem callee_eq (h : OpensCall f line) (hname : '(' ∉ f.toList) : callee line = f.toList := by
  obtain ⟨rest, h⟩ := h
  have hbefore : ∀ c ∈ f.toList, (c != '(') = true := by
    intro c hc
    rw [bne_iff_ne]
    rintro rfl
    exact hname hc
  rw [callee, h, Text.takeWhile_append_cons hbefore (by decide)]

theorem isMask {h : DrawHelper} (hcall : OpensCall h.name line) (hmask : h ∈ maskHelpers) :
    IsMask line := by
  have hname : ∀ h ∈ maskHelpers, '(' ∉ h.name.toList := by decide
  exact ⟨h, hmask, hcall.callee_eq (hname h hmask)⟩

theorem isSolid (hcall : OpensCall f line) (hsolid : f ∈ solidCallees) : IsSolid line := by
  have hname : ∀ f ∈ solidCallees, '(' ∉ f.toList := by decide
  exact ⟨f, hsolid, hcall.callee_eq (hname f hsolid)⟩

end OpensCall

theorem isMask_statements (mask : DitherShape) : ∀ line ∈ mask.statements, IsMask line := by
  intro line hline
  obtain ⟨tail, rfl, -⟩ : CallsHelper (fun _ => True) mask.helper line :=
    mask.callsHelper_statements line hline
  have hmask : mask.helper ∈ maskHelpers := by cases mask <;> simp [DitherShape.helper, maskHelpers]
  exact OpensCall.isMask (.append (.name _) tail) hmask

theorem isSolid_shape {name : String} (h : "it." ++ name ∈ solidCallees) (ns : List Int)
    (color : String) : IsSolid (shape name ns color) := by
  refine OpensCall.isSolid ?_ h
  exact .append (.append (.append (.append (.name ("it." ++ name)) _) _) _) _

end Lambda

open Lambda

/-! ## One rule for every region -/

namespace Surface

/-- Whether a color is masked: the display shows a limited palette, and the color is a gray. -/
def Masks (s : Surface) (token : String) : Prop :=
  s.device.paletteLimited = true ∧ (s.color token).isGray = true

/-- A statement paints a region in the way of its color: it masks if the color is masked, and it
paints in a color if not, and never both. -/
structure Paints (s : Surface) (token line : String) : Prop where
  mask : IsMask line ↔ s.Masks token
  solid : IsSolid line ↔ ¬ s.Masks token

/-- A region that is painted by one statement. -/
def PaintsOnce (s : Surface) (token : String) (lines : List String) : Prop :=
  ∃ line, lines = [line] ∧ s.Paints token line

/-- A region that is painted by statements of one sort. -/
structure PaintsWholly (s : Surface) (token : String) (lines : List String) : Prop where
  drawn : lines ≠ []
  paints : ∀ line ∈ lines, s.Paints token line

variable {s : Surface} {token : String}

theorem paint_eq_dither_iff : s.paint token = .dither ↔ s.Masks token := by
  have hneeds : (s.color token).needsDither s.device.paletteLimited = true ↔ s.Masks token := by
    rw [Color.needsDither, Bool.and_eq_true, Masks]
  unfold paint
  dsimp only
  rw [← hneeds]
  split
  · next h => exact iff_of_true rfl h
  · next h => exact iff_of_false Paint.noConfusion h

theorem paints_of_isMask {line : String} (h : s.paint token = .dither) (hline : IsMask line) :
    s.Paints token line :=
  have hmasks := paint_eq_dither_iff.1 h
  ⟨iff_of_true hline hmasks, iff_of_false hline.not_isSolid (not_not_intro hmasks)⟩

theorem paints_of_isSolid {line color : String} (h : s.paint token = .solid color)
    (hline : IsSolid line) : s.Paints token line := by
  have hmasks : ¬ s.Masks token := by
    rw [← paint_eq_dither_iff, h]
    exact Paint.noConfusion
  exact ⟨iff_of_false (fun hmask => hmask.not_isSolid hline) hmasks, iff_of_true hline hmasks⟩

end Surface

/-! ## Shapes -/

namespace Shape

/-- The regions of a closed shape: the inside, by one statement, if it is drawn, and behind it the
border, if it has a width, each in the way of its own color. -/
def PaintsRegions (v : View) (s : Surface) (border : Int) (lines : List String) : Prop :=
  ∃ inside edge, lines = inside ++ edge
    ∧ (isFilled v = true → s.PaintsOnce (v.text "color") inside)
    ∧ (isFilled v = false → inside = [])
    ∧ (0 < border → s.PaintsWholly (v.text "border_color") edge)
    ∧ (border ≤ 0 → edge = [])

theorem lines_fillThenBorder (v : View) (border : Int) (inside edge : Drawing) :
    (fillThenBorder v border inside edge).lines
      = (if isFilled v then inside.lines else []) ++ if border = 0 then [] else edge.lines := by
  show (Drawing.when _ _).lines ++ (Drawing.when _ _).lines = _
  unfold Drawing.when
  congr 1
  · split <;> rfl
  · by_cases h : border = 0 <;> simp [h]

section

variable {v : View} {s : Surface} {key : String} {mask : DitherShape} {solid : String → Drawing}

theorem lines_painted_of_masks (h : s.paint (v.text key) = .dither) :
    (painted v s key mask solid).lines = mask.statements := by
  rw [painted, h]
  rfl

theorem lines_painted_of_solid {color : String} (h : s.paint (v.text key) = .solid color) :
    (painted v s key mask solid).lines = (solid color).lines := by
  rw [painted, h]

theorem paintsWholly_painted (hmask : mask.statements ≠ [])
    (hsolid : ∀ color, (solid color).lines ≠ [] ∧ ∀ line ∈ (solid color).lines, IsSolid line) :
    s.PaintsWholly (v.text key) (painted v s key mask solid).lines := by
  rcases s.paint_cases (v.text key) with h | h
  · rw [lines_painted_of_masks h]
    exact ⟨hmask, fun line hline => Surface.paints_of_isMask h (isMask_statements mask line hline)⟩
  · rw [lines_painted_of_solid h]
    obtain ⟨hne, hlines⟩ := hsolid (s.direct (v.text key))
    exact ⟨hne, fun line hline => Surface.paints_of_isSolid h (hlines line hline)⟩

theorem paintsOnce_painted (hmask : mask.statements.length = 1)
    (hsolid : ∀ color, ∃ line, (solid color).lines = [line] ∧ IsSolid line) :
    s.PaintsOnce (v.text key) (painted v s key mask solid).lines := by
  rcases s.paint_cases (v.text key) with h | h
  · obtain ⟨line, hline⟩ := List.length_eq_one_iff.1 hmask
    rw [lines_painted_of_masks h, hline]
    refine ⟨line, rfl, Surface.paints_of_isMask h (isMask_statements mask line ?_)⟩
    rw [hline]
    exact List.mem_singleton_self line
  · obtain ⟨line, hline, hcall⟩ := hsolid (s.direct (v.text key))
    rw [lines_painted_of_solid h]
    exact ⟨line, hline, Surface.paints_of_isSolid h hcall⟩

/-- **A closed shape** paints its regions one after the other if its drawings do. -/
theorem paintsRegions_fillThenBorder {border : Int} (hborder : 0 ≤ border) {inside edge : Drawing}
    (hinside : s.PaintsOnce (v.text "color") inside.lines)
    (hedge : 0 < border → s.PaintsWholly (v.text "border_color") edge.lines) :
    PaintsRegions v s border (fillThenBorder v border inside edge).lines := by
  refine ⟨_, _, lines_fillThenBorder v border inside edge, ?_, ?_, ?_, ?_⟩
  · intro hfilled
    rwa [if_pos hfilled]
  · intro hempty
    rw [hempty]
    rfl
  · intro hpos
    rw [if_neg (by omega)]
    exact hedge hpos
  · intro hnone
    exact if_pos (by omega)

end

theorem borderWidth_nonneg (v : View) : 0 ≤ borderWidth v := by
  unfold borderWidth
  omega

end Shape

open Shape

theorem PlainRect.paintsRegions_direct (v : View) (s : Surface) :
    PaintsRegions v s (borderWidth v) (direct v s).lines := by
  refine paintsRegions_fillThenBorder (borderWidth_nonneg v) ?inside fun hpos => ?edge
  case inside => exact paintsOnce_painted rfl fun color => ⟨_, rfl, isSolid_shape (by decide) _ _⟩
  case edge =>
    refine paintsWholly_painted (List.cons_ne_nil _ _) fun color => ⟨?_, fun line hline => ?_⟩
    · intro hnone
      have hlength := v.box.length_nested (borderWidth v)
      rw [List.map_eq_nil_iff.1 hnone, List.length_nil] at hlength
      omega
    · obtain ⟨inner, -, rfl⟩ := List.mem_map.1 hline
      exact isSolid_shape (by decide) _ _

theorem RoundedRect.paintsRegions_direct (v : View) (s : Surface) :
    PaintsRegions v s (border v) (direct v s).lines := by
  have hborder : 0 ≤ border v := by
    unfold border
    split
    · exact borderWidth_nonneg v
    · exact Int.le_refl 0
  refine paintsRegions_fillThenBorder hborder ?inside fun _ => ?edge
  case inside =>
    refine paintsOnce_painted rfl fun color => ⟨_, rfl, ?_⟩
    refine OpensCall.isSolid (f := DrawHelper.filledRoundedRect.name) ?_ (by decide)
    repeat apply OpensCall.append
    exact .name _
  case edge =>
    refine paintsWholly_painted (List.cons_ne_nil _ _) fun color =>
      ⟨List.cons_ne_nil _ _, List.forall_mem_singleton.2 ?_⟩
    refine OpensCall.isSolid (f := DrawHelper.roundedRectBorder.name) ?_ (by decide)
    repeat apply OpensCall.append
    exact .name _

theorem Circle.paintsRegions_direct (v : View) (s : Surface) :
    PaintsRegions v s (borderWidth v) (direct v s).lines := by
  have hradius : 1 ≤ radius v := by
    unfold radius
    omega
  have hnonneg := borderWidth_nonneg v
  -- The border keeps within the radius, which leaves it a width where it has one.
  have hband : PaintsRegions v s (min (borderWidth v) (radius v)) (direct v s).lines := by
    refine paintsRegions_fillThenBorder (by omega) ?inside fun hpos => ?edge
    case inside => exact paintsOnce_painted rfl fun color => ⟨_, rfl, isSolid_shape (by decide) _ _⟩
    case edge =>
      refine paintsWholly_painted (List.cons_ne_nil _ _) fun color => ⟨?_, fun line hline => ?_⟩
      · intro hnone
        have hrange := List.range_eq_nil.1 (List.map_eq_nil_iff.1 hnone)
        omega
      · obtain ⟨i, -, rfl⟩ := List.mem_map.1 hline
        exact isSolid_shape (by decide) _ _
  obtain ⟨inside, edge, hlines, hfilled, hempty, hdrawn, hnone⟩ := hband
  exact ⟨inside, edge, hlines, hfilled, hempty, fun h => hdrawn (by omega), fun h => hnone (by omega)⟩

theorem StraightLine.paintsOnce_direct (v : View) (s : Surface) :
    s.PaintsOnce (v.text "color") (direct v s).lines := by
  unfold direct
  dsimp only
  refine paintsOnce_painted rfl fun color => ?_
  split
  · exact ⟨_, rfl, isSolid_shape (by decide) _ _⟩
  · exact ⟨_, rfl, isSolid_shape (by decide) _ _⟩

/-! ## Backgrounds of texts -/

namespace Caption

/-- The background of a text, by one statement unless it is transparent, and behind it calls that
paint no region. -/
def PaintsBackground (v : View) (s : Surface) (lines : List String) : Prop :=
  ∃ fill texts, lines = fill ++ texts
    ∧ ((s.color (v.text "bg_color")).isTransparent = false → s.PaintsOnce (v.text "bg_color") fill)
    ∧ ((s.color (v.text "bg_color")).isTransparent = true → fill = [])
    ∧ ∀ line ∈ texts, ¬ IsMask line ∧ ¬ IsSolid line

variable {v : View} {s : Surface}

theorem paintsOnce_background (h : (s.color (v.text "bg_color")).isTransparent = false) :
    s.PaintsOnce (v.text "bg_color") (background v s).lines := by
  unfold background
  dsimp only
  rw [h]
  rcases s.paint_cases (v.text "bg_color") with hpaint | hpaint <;> rw [hpaint]
  · exact ⟨_, rfl, Surface.paints_of_isMask hpaint (isMask_statements (.rect v.box) _ List.mem_cons_self)⟩
  · exact ⟨_, rfl, Surface.paints_of_isSolid hpaint (isSolid_shape (by decide) _ _)⟩

theorem lines_background_of_transparent (h : (s.color (v.text "bg_color")).isTransparent = true) :
    (background v s).lines = [] := by
  unfold background
  dsimp only
  rw [if_pos h]

/-- A call that draws a text paints no region. -/
theorem not_paints_print (style : TextStyle) (text : String) :
    ¬ IsMask (print style text) ∧ ¬ IsSolid (print style text) := by
  have hmask : ∀ h ∈ maskHelpers, h.name ≠ "it.print" := by decide
  have hsolid : ∀ f ∈ solidCallees, f ≠ "it.print" := by decide
  have hcall : callee (print style text) = "it.print".toList :=
    OpensCall.callee_eq (.append (.append (.append (.append (.name _) _) _) _) _) (by decide)
  constructor
  · rintro ⟨h, hh, hname⟩
    exact hmask h hh (String.toList_inj.1 (hname.symm.trans hcall))
  · rintro ⟨f, hf, hname⟩
    exact hsolid f hf (String.toList_inj.1 (hname.symm.trans hcall))

theorem paintsBackground_direct (v : View) (s : Surface) :
    PaintsBackground v s (direct v s).lines := by
  have hlines : ∃ texts, (direct v s).lines = (background v s).lines ++ texts
      ∧ ∀ line ∈ texts, ¬ IsMask line ∧ ¬ IsSolid line := by
    unfold direct
    dsimp only
    refine ⟨_, List.append_assoc _ [] _, fun line hline => ?_⟩
    obtain ⟨⟨row, y⟩, -, rfl⟩ := List.mem_map.1 hline
    exact not_paints_print _ _
  obtain ⟨texts, hlines, hplain⟩ := hlines
  exact ⟨_, texts, hlines, paintsOnce_background, lines_background_of_transparent, hplain⟩

end Caption

end DisplayLayout
