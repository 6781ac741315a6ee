import DisplayLayout.Proofs.Artifact.Calls
import DisplayLayout.Proofs.Line.Call
import DisplayLayout.Proofs.Widget.Painted
import DisplayLayout.Qr.Symbol

/-!
# Draw calls that are drawn again

A text of one draw call becomes a project of one shape
(`Project.ofAnyText_of_call`). The importer turns a center into a box and
endpoints into a corner and a length, and the shape turns them back: it draws
the call again (`DrawCall.lines_shape`), and so does the whole artifact
(`DrawCall.draws_again`).
-/

namespace DisplayLayout

/-! ## Texts of one call -/

namespace Text

theorem prefix_of_splitOn {sep : Char} {cs piece : List Char} {pieces : List (List Char)}
    (h : splitOn sep cs = piece :: pieces) : piece <+: cs := by
  induction cs generalizing piece pieces with
  | nil =>
    cases h
    exact List.nil_prefix
  | cons c cs ih =>
    obtain ⟨first, others, hcs⟩ := List.exists_cons_of_ne_nil (splitOn_ne_nil sep cs)
    rw [splitOn, hcs] at h
    split at h
    · cases h
      exact List.nil_prefix
    · cases h
      exact (List.prefix_cons_inj c).2 (ih hcs)

/-- The first line of a text is where the text begins. -/
theorem prefix_of_lineChars {cs line : List Char} {rest : List (List Char)}
    (h : lineChars cs = line :: rest) : line <+: cs := by
  obtain ⟨piece, pieces, hcs⟩ := List.exists_cons_of_ne_nil (splitOn_ne_nil '\n' cs)
  have hpiece := prefix_of_splitOn hcs
  rw [lineChars, hcs] at h
  cases pieces with
  | nil =>
    have hline : line ∈ [piece].getLast?.toList.filter (· ≠ []) := by
      rw [← List.nil_append ([piece].getLast?.toList.filter (· ≠ []))]
      exact h ▸ List.mem_cons_self
    have hmem := (List.mem_filter.1 hline).1
    rw [List.getLast?_singleton, Option.toList_some, List.mem_singleton] at hmem
    rw [hmem]
    exact hpiece
  | cons next pieces =>
    cases h
    refine List.IsPrefix.trans ?_ hpiece
    rw [dropReturn]
    split
    · exact List.dropLast_prefix piece
    · exact List.prefix_refl piece

end Text

/-- A text whose first line is a draw call is no document. -/
theorem Project.isDocumentText_of_draw {text : String} {call : DrawCall} {rest : List Line}
    (h : Line.classifyAll text = .draw call :: rest) : isDocumentText text = false := by
  obtain ⟨row, rows, hlines, hrow, -⟩ := List.map_eq_cons_iff.1 h
  obtain ⟨line, lines, hchars, rfl, -⟩ := List.map_eq_cons_iff.1 hlines
  have hdraw := Line.draw?_of_classify hrow
  rw [String.toList_ofList] at hdraw
  have hit : ∃ more, Text.trimChars line = "it.".toList ++ more := by
    rw [Line.draw?, Option.bind_eq_bind] at hdraw
    obtain ⟨more, hmore, -⟩ := Option.bind_eq_some_iff.1 hdraw
    exact ⟨more, Line.after?_eq_some_iff.1 hmore⟩
  obtain ⟨more, hmore⟩ := hit
  -- The call stands behind blanks at the beginning of the text.
  obtain ⟨before, after, hbefore, hline⟩ := Line.exists_append_trimChars line
  obtain ⟨tail, htail⟩ := Text.prefix_of_lineChars hchars
  rw [hmore] at hline
  have hfront : Text.dropBlanks text.toList = 'i' :: ("t.".toList ++ more ++ after ++ tail) := by
    rw [← htail, hline, Text.dropBlanks, List.append_assoc, List.dropWhile_append_of_pos hbefore]
    rfl
  rw [isDocumentText, hfront]
  rfl

namespace DrawCall

/-! ## The shape for a call -/

/-- The project of one shape. -/
def project (call : DrawCall) : Project :=
  { pages := [{ id := "page_0", name := "Page 1", widgets := [call.shape (call.idLead ++ "_0")] }] }

/-- The kind of the shape for a call. -/
def kind : DrawCall → Kind
  | rectangle .. => .shapeRect
  | circle .. => .shapeCircle
  | line .. => .line

/-- Coordinates of something that is drawn: a box is not empty, the box of a circle stays within 32
bits, and a line runs straight to another point that is not too far away. -/
def IsProper : DrawCall → Prop
  | rectangle _ _ w h _ => 1 ≤ w ∧ 1 ≤ h
  | circle cx cy r _ =>
    1 ≤ r ∧ Numeric.isInt32 (cx - r) = true ∧ Numeric.isInt32 (cy - r) = true
      ∧ Numeric.isInt32 (2 * r) = true
  | line x1 y1 x2 y2 =>
    (x1 = x2 ∨ y1 = y2) ∧ (x1, y1) ≠ (x2, y2)
      ∧ (x2 - x1).natAbs ≤ Numeric.maxInt32 ∧ (y2 - y1).natAbs ≤ Numeric.maxInt32

variable {call : DrawCall}

theorem isPlaced_of_inRange (h : call.InRange) : call.IsPlaced := by
  simp only [InRange] at h
  cases call with
  | rectangle x y w height filled => simpa [numbers, IsPlaced] using h
  | circle cx cy r filled => trivial
  | line x1 y1 x2 y2 => simpa [numbers, IsPlaced] using h

theorem type_shape (call : DrawCall) (id : String) : (call.shape id).type = call.kind.tag := by
  cases call <;> rfl

theorem isNormal_shape (h : call.InRange) (hproper : call.IsProper) {id : String} (hid : id ≠ "") :
    (call.shape id).IsNormal := by
  have hsize : 1 ≤ (call.shape id).width ∧ 1 ≤ (call.shape id).height := by
    cases call with
    | rectangle x y w height filled => exact hproper
    | circle cx cy r filled =>
      simp only [shape, Numeric.clampInt32, Numeric.minInt32, Numeric.maxInt32]
      omega
    | line x1 y1 x2 y2 =>
      simp only [shape, Numeric.clampInt32, Numeric.minInt32, Numeric.maxInt32]
      omega
  refine ⟨isPlaced_shape (isPlaced_of_inRange h) id, ?_, ?_, hsize.1, hsize.2⟩
  · cases call <;> exact hid
  · rw [type_shape]
    exact call.kind.alias_tag

theorem isNormal_project (h : call.InRange) (hproper : call.IsProper) : call.project.IsNormal := by
  have hid : call.idLead ++ "_0" ≠ "" := by
    simp
  refine List.forall_mem_singleton.2 ⟨?_, ?_, List.forall_mem_singleton.2 ?_⟩
  · exact (by decide : "page_0" ≠ "")
  · exact (by decide : "Page 1" ≠ "")
  · exact isNormal_shape h hproper hid

end DrawCall

/-- **A text of one call becomes the project of its shape.** -/
theorem Project.ofAnyText_of_call [Qr.Encoder] {text : String} {call : DrawCall}
    (htext : Line.classifyAll text = [.draw call]) (h : call.InRange) (hproper : call.IsProper) :
    ∃ l, ofAnyText text = .ok l ∧ l.project = call.project := by
  let page : Page :=
    { id := "page_0", widgets := [call.shape (call.idLead ++ "_0")] }
  have hcollected : (Recovery.ofText text).Collected [page] := by
    rw [Recovery.ofText, htext]
    show (({} : Recovery).addWidget (call.shape (call.idLead ++ s!"_{(0 : Nat)}"))).pages = _
    rfl
  obtain ⟨l, hl, hproject⟩ :=
    ofAnyText_normalize (isDocumentText_of_draw htext) hcollected (List.cons_ne_nil _ _)
  refine ⟨l, hl, hproject.trans ?_⟩
  have hnormal := normalize_of_isNormal (DrawCall.isNormal_project h hproper)
  exact hnormal

/-! ## Values of properties -/

namespace View

variable {v : View} {key : String} (hvalue : v.widget.props.value? key = none)

include hvalue

theorem textAt_of_text {steps : Nat} {s : String}
    (hdefault : v.table.default? key = some (.text s)) : v.textAt steps key = s := by
  rw [textAt.eq_def]
  dsimp only
  rw [hvalue, hdefault]
  rfl

theorem textAt_of_sameAs {steps : Nat} {other : String}
    (hdefault : v.table.default? key = some (.sameAs other)) :
    v.textAt (steps + 1) key = v.textAt steps other := by
  rw [textAt.eq_def]
  dsimp only
  rw [hvalue, hdefault]
  rfl

end View

/-! ## Drawing again -/

/-- A light page of a device of black and white. -/
def Surface.plain : Surface := ⟨{}, false⟩

theorem Surface.paint_plain : plain.paint "theme_auto" = .solid "COLOR_BLACK" := by decide

namespace Shape

variable {v : View} {filled : Bool} (hprops : v.widget.props = [("fill", .bool filled)])
  (htable : v.table = PlainRect.table)

include hprops

theorem isFilled_of_props : isFilled v = filled := by
  have hvalue : v.widget.props.value? "fill" = some (.bool filled) := by
    simp [hprops, Props.value?, Keyed.get?, Json.isNull]
  rw [isFilled, View.flag, hvalue]

include htable

theorem borderWidth_of_props : borderWidth v = 1 := by
  have hwidth : v.int32 "border_width" = 1 := by
    have hvalue : v.widget.props.value? "border_width" = none := by
      simp [hprops, Props.value?, Keyed.get?]
    have hdefault : v.table.default? "border_width" = some (.int 1) := by
      rw [htable]
      decide
    rw [View.int32, View.int, hvalue, View.defaultText, hdefault]
    show Numeric.clampInt32 ((Numeric.readInt64? (Text.trim (toString (1 : Int)))).getD 0) = 1
    decide
  rw [borderWidth, hwidth]
  omega

/-- A closed shape of which no more is said draws its inside and its border in black. -/
theorem lines_of_props (inside band : DitherShape) (fill edge : String → Drawing) :
    (fillThenBorder v 1 (painted v .plain "color" inside fill)
        (painted v .plain "border_color" band edge)).lines
      = (if filled then (fill "COLOR_BLACK").lines else []) ++ (edge "COLOR_BLACK").lines := by
  have hnone : ∀ key, key ≠ "fill" → v.widget.props.value? key = none := by
    intro key hkey
    simp [hprops, Props.value?, Keyed.get?, hkey.symm]
  have hdefault : v.table.default? "color" = some (.text "theme_auto")
      ∧ v.table.default? "border_color" = some (.sameAs "color") := by
    rw [htable]
    decide
  have hcolor : ∀ steps, v.textAt steps "color" = "theme_auto" := fun steps =>
    View.textAt_of_text (hnone "color" (by decide)) hdefault.1
  have hborder : v.text "border_color" = "theme_auto" :=
    (View.textAt_of_sameAs (hnone "border_color" (by decide)) hdefault.2).trans (hcolor _)
  have hfillPaint : Surface.plain.paint (v.text "color") = .solid "COLOR_BLACK" := by
    rw [View.text, hcolor]
    exact Surface.paint_plain
  have hborderPaint : Surface.plain.paint (v.text "border_color") = .solid "COLOR_BLACK" := by
    rw [hborder]
    exact Surface.paint_plain
  rw [lines_fillThenBorder, if_neg (show ¬(1 : Int) = 0 by decide), isFilled_of_props hprops,
    lines_painted_of_solid hfillPaint, lines_painted_of_solid hborderPaint]

end Shape

namespace StraightLine

variable {v : View} {word : String}
  (hprops : v.widget.props = [("stroke_width", .int 1), ("orientation", .string word)])

include hprops

theorem isVertical_of_props : isVertical v = (Text.lower (Text.trim word) == "vertical") := by
  have hvalue : v.widget.props.value? "orientation" = some (.string word) := by
    simp [hprops, Props.value?, Keyed.get?, Json.isNull]
  have htext : v.text "orientation" = word := by
    rw [View.text, View.textAt.eq_def]
    dsimp only
    rw [hvalue]
    rfl
  rw [isVertical, htext]

/-- A line of which no more is said is drawn in black between its ends. -/
theorem lines_of_props (htable : v.table = table) :
    (direct v .plain).lines
      = [Lambda.shape "line" [v.widget.x, v.widget.y, (endPoint v).1, (endPoint v).2]
          "COLOR_BLACK"] := by
  have hstroke : stroke v = 1 := by
    have hvalue : v.widget.props.value? "stroke_width" = some (.int 1) := by
      simp [hprops, Props.value?, Keyed.get?, Json.isNull, Json.int]
    rw [stroke, View.int32, View.int, hvalue]
    rfl
  have hcolor : v.text "color" = "theme_auto" := by
    refine View.textAt_of_text ?_ ?_
    · simp [hprops, Props.value?, Keyed.get?]
    · rw [htable]
      decide
  have hpaint : Surface.plain.paint (v.text "color") = .solid "COLOR_BLACK" := by
    rw [hcolor]
    exact Surface.paint_plain
  rw [direct, Shape.lines_painted_of_solid hpaint, if_pos hstroke]
  generalize endPoint v = last
  rfl

end StraightLine

namespace DrawCall

/-- The calls that draw the same again: what is filled gets an outline, and a line may be drawn
from its other end. -/
def redrawn : DrawCall → List DrawCall
  | rectangle x y w h false => [rectangle x y w h false]
  | rectangle x y w h true => [rectangle x y w h true, rectangle x y w h false]
  | circle cx cy r false => [circle cx cy r false]
  | circle cx cy r true => [circle cx cy r true, circle cx cy r false]
  | line x1 y1 x2 y2 => if x2 < x1 ∨ y2 < y1 then [line x2 y2 x1 y1] else [line x1 y1 x2 y2]

section

variable [Qr.Encoder]

/-- A call as the widget of its shape is seen. -/
def view (call : DrawCall) (id : String) : View := (call.shape id).view call.kind.behaviour

theorem lines_rectangle (x y w h : Int) (filled : Bool) (id : String) :
    (PlainRect.direct ((rectangle x y w h filled).view id) .plain).lines
      = (rectangle x y w h filled).redrawn.map fun c => c.statement "COLOR_BLACK" := by
  let v := (rectangle x y w h filled).view id
  have hprops : v.widget.props = [("fill", .bool filled)] := rfl
  have hborder : Lambda.outlineBorder v.box 1 "COLOR_BLACK"
      = [Lambda.outlineRect v.box "COLOR_BLACK"] := by
    simp [Lambda.outlineBorder, Rect.nested, Rect.inset]
  show (PlainRect.direct v .plain).lines = _
  rw [PlainRect.direct, Shape.borderWidth_of_props hprops rfl, Shape.lines_of_props hprops rfl,
    hborder]
  cases filled <;> rfl

theorem lines_circle {cx cy r : Int} {filled : Bool} (hproper : (circle cx cy r filled).IsProper)
    (id : String) :
    (Circle.direct ((circle cx cy r filled).view id) .plain).lines
      = (circle cx cy r filled).redrawn.map fun c => c.statement "COLOR_BLACK" := by
  let v := (circle cx cy r filled).view id
  obtain ⟨hr, hx, hy, hsize⟩ := hproper
  have hprops : v.widget.props = [("fill", .bool filled)] := rfl
  -- Half the side of the box leads back to the center.
  have hbox : v.box = ⟨cx - r, cy - r, 2 * r, 2 * r⟩ := by
    show Rect.mk (Numeric.clampInt32 (cx - max 0 r)) (Numeric.clampInt32 (cy - max 0 r))
      (Numeric.clampInt32 (max 1 (2 * max 0 r))) (Numeric.clampInt32 (max 1 (2 * max 0 r))) = _
    rw [Int.max_eq_right (show 0 ≤ r by omega), Int.max_eq_right (show 1 ≤ 2 * r by omega),
      Numeric.clampInt32_of_isInt32 hx, Numeric.clampInt32_of_isInt32 hy,
      Numeric.clampInt32_of_isInt32 hsize]
  have hhalf : Int.tdiv (2 * r) 2 = r := Int.mul_tdiv_cancel_left r (by decide)
  have hcenterX : v.box.centerX = cx := by
    rw [hbox, Rect.centerX, hhalf, Int.sub_add_cancel]
  have hcenterY : v.box.centerY = cy := by
    rw [hbox, Rect.centerY, hhalf, Int.sub_add_cancel]
  have hradius : Circle.radius v = r := by
    rw [Circle.radius, hbox, Rect.shortSide, Int.min_self, hhalf]
    omega
  show (Circle.direct v .plain).lines = _
  rw [Circle.direct, hcenterX, hcenterY, hradius, Shape.borderWidth_of_props hprops rfl,
    Int.min_eq_left hr, Shape.lines_of_props hprops rfl]
  have hedge : (Drawing.ofLines ((List.range (1 : Int).toNat).map fun (i : Nat) =>
      Lambda.shape "circle" [cx, cy, r - (i : Int)] "COLOR_BLACK")).lines
        = [(circle cx cy r false).statement "COLOR_BLACK"] := by
    simp [Drawing.ofLines, statement, name, numbers]
  rw [hedge]
  cases filled <;> rfl

omit [Qr.Encoder] in
theorem redrawn_line {x1 y1 x2 y2 : Int} (h : x1 = x2 ∨ y1 = y2) :
    (line x1 y1 x2 y2).redrawn = [line (min x1 x2) (min y1 y2) (max x1 x2) (max y1 y2)] := by
  rw [redrawn]
  split
  · rw [Int.min_eq_right (by omega), Int.min_eq_right (by omega), Int.max_eq_left (by omega),
      Int.max_eq_left (by omega)]
  · rw [Int.min_eq_left (by omega), Int.min_eq_left (by omega), Int.max_eq_right (by omega),
      Int.max_eq_right (by omega)]

/-- The shape of a straight line ends where the line does. -/
theorem endPoint_line {x1 y1 x2 y2 : Int} (hproper : (line x1 y1 x2 y2).IsProper) (id : String) :
    StraightLine.endPoint ((line x1 y1 x2 y2).view id) = (max x1 x2, max y1 y2) := by
  let v := (line x1 y1 x2 y2).view id
  let length : Int := max 1 (max (x2 - x1).natAbs (y2 - y1).natAbs : Nat)
  obtain ⟨hstraight, hne, hdx, hdy⟩ := hproper
  have hends : ¬(x1 = x2 ∧ y1 = y2) := fun h => hne (Prod.ext h.1 h.2)
  have hlength : Numeric.clampInt32 length = length := by
    refine Numeric.clampInt32_of_isInt32 (Numeric.isInt32_iff.2 ?_)
    rw [Numeric.maxInt32] at hdx hdy
    omega
  have hvertical := StraightLine.isVertical_of_props (v := v) rfl
  have hx : v.widget.x = min x1 x2 := rfl
  have hy : v.widget.y = min y1 y2 := rfl
  by_cases hdown : (x2 - x1).natAbs < (y2 - y1).natAbs
  · have hheight : v.widget.height = length := (if_pos hdown).trans hlength
    rw [if_pos hdown, show (_ == _) = true by decide] at hvertical
    show StraightLine.endPoint v = _
    rw [StraightLine.endPoint, if_pos hvertical, hx, hy, hheight]
    exact Prod.ext (by dsimp only; omega) (by dsimp only; omega)
  · have hwidth : v.widget.width = length := (if_neg hdown).trans hlength
    rw [if_neg hdown, show (_ == _) = false by decide] at hvertical
    show StraightLine.endPoint v = _
    rw [StraightLine.endPoint, hvertical, if_neg Bool.false_ne_true, hx, hy, hwidth]
    exact Prod.ext (by dsimp only; omega) (by dsimp only; omega)

theorem lines_line {x1 y1 x2 y2 : Int} (hproper : (line x1 y1 x2 y2).IsProper) (id : String) :
    (StraightLine.direct ((line x1 y1 x2 y2).view id) .plain).lines
      = (line x1 y1 x2 y2).redrawn.map fun c => c.statement "COLOR_BLACK" := by
  rw [redrawn_line hproper.1, StraightLine.lines_of_props rfl rfl, endPoint_line hproper]
  rfl

variable {call : DrawCall}

/-- **The shape for a call draws the call again.** -/
theorem lines_shape (hproper : call.IsProper) (id : String) :
    (call.kind.behaviour.direct (call.view id) .plain).lines
      = call.redrawn.map fun c => c.statement "COLOR_BLACK" := by
  cases call with
  | rectangle x y w h filled => exact lines_rectangle x y w h filled id
  | circle cx cy r filled => exact lines_circle hproper id
  | line x1 y1 x2 y2 => exact lines_line hproper id

omit [Qr.Encoder] in
theorem inRange_redrawn (h : call.InRange) : ∀ c ∈ call.redrawn, c.InRange := by
  cases call with
  | rectangle x y w height filled =>
    cases filled <;> simpa [redrawn, InRange, numbers] using h
  | circle cx cy r filled =>
    cases filled <;> simpa [redrawn, InRange, numbers] using h
  | line x1 y1 x2 y2 =>
    simp only [InRange, numbers, List.forall_mem_cons] at h
    rw [redrawn]
    split
    · refine List.forall_mem_singleton.2 ?_
      simp [InRange, numbers, h]
    · refine List.forall_mem_singleton.2 ?_
      simp [InRange, numbers, h]

/-! ## The artifact -/

/-- The block of a shape without a condition: its marker, and what it draws. -/
theorem draws_block (hproper : call.IsProper) (h : call.InRange) (id : String) :
    Line.draws (DisplayLambda.block (call.view id)
        (call.kind.behaviour.direct (call.view id) .plain).lines)
      = call.redrawn.map fun c => c.statement "COLOR_BLACK" := by
  have hmarker : Line.draws ["// " ++ (call.view id).marker.render] = [] := by
    have hplain : (call.view id).marker.IsPlain := Widget.isPlain_marker (call.type_shape id)
    have hrow : "// " ++ (call.view id).marker.render
        = Line.comment 0 "//" (call.view id).marker.render := by
      rw [Line.comment_zero]
      rfl
    refine Line.draws_eq_nil (List.forall_mem_singleton.2 ?_)
    rw [hrow, Line.classify_marker (Or.inl rfl) hplain]
    rfl
  have hguarded : ∀ body, DisplayLambda.guarded (call.view id).widget body = body := by
    intro body
    have hnone : Condition.ofWidget? (call.view id).widget = none := by
      cases call <;> rfl
    rw [DisplayLambda.guarded, hnone]
  have hstatements : Line.draws (call.redrawn.map fun c => c.statement "COLOR_BLACK")
      = call.redrawn.map fun c => c.statement "COLOR_BLACK" := by
    refine List.filter_eq_self.2 (List.forall_mem_map.2 fun c hc => ?_)
    rw [Line.classify_statement (inRange_redrawn h c hc)]
    rfl
  rw [DisplayLambda.block, hguarded, lines_shape hproper, ← List.singleton_append,
    Line.draws_append, hmarker, hstatements, List.nil_append]

/-- **The artifact of the shape for a call draws the call again,** and no other one. -/
theorem draws_project (h : call.InRange) (hproper : call.IsProper) :
    Line.draws (Text.lines (call.project.compile {}).artifact.text)
      = call.redrawn.map fun c => "        " ++ c.statement "COLOR_BLACK" := by
  let id := call.idLead ++ "_0"
  let w := call.shape id
  have hunbroken : ∀ w ∈ call.project.widgets, w.IsUnbroken .direct := by
    refine List.forall_mem_singleton.2 ?_
    cases call <;> exact ⟨nofun, nofun, fun _ => nofun, fun _ _ => nofun⟩
  have hbehaviour : w.behaviourIn? .direct = some call.kind.behaviour := by
    rw [Widget.behaviourIn?, Widget.behaviour?_of_type (call.type_shape id), Option.filter_some]
    cases call <;> rfl
  have hcontents : (call.project.visit DisplayLambda.form {}).flatMap
        (fun v => Line.draws v.contents.flatten)
      = call.redrawn.map fun c => c.statement "COLOR_BLACK" := by
    have hemissions : (VisitedPage.ofPage DisplayLambda.form {} false
          { id := "page_0", name := "Page 1", widgets := [w] }).emissions
        = [DisplayLambda.form.emission .plain call.kind.behaviour w] := by
      rw [VisitedPage.emissions_ofPage, List.filterMap_cons_some (by rw [hbehaviour]; rfl)]
      rfl
    show (List.flatMap _ [VisitedPage.ofPage DisplayLambda.form {} false
      { id := "page_0", name := "Page 1", widgets := [w] }]) = _
    rw [List.flatMap_singleton, VisitedPage.contents, hemissions, List.map_singleton,
      List.flatten_singleton]
    exact draws_block hproper h id
  have hlineOf : ∀ c : DrawCall, Text.lineOf ("      " ++ ("  " ++ c.statement "COLOR_BLACK"))
      = "        " ++ c.statement "COLOR_BLACK" := by
    intro c
    have hlast : ("      " ++ ("  " ++ c.statement "COLOR_BLACK")).toList.getLast? = some ';' := by
      rw [statement, Lambda.shape, ← String.append_assoc, ← String.append_assoc,
        String.toList_append, List.getLast?_append_of_ne_nil _ (by decide)]
      rfl
    rw [Text.lineOf, Text.dropReturn, hlast, if_neg (by decide), String.ofList_toList,
      ← String.append_assoc]
    rfl
  have hcount : call.project.pages.length ≤ 2 ^ 32 := (by decide : 1 ≤ 2 ^ 32)
  rw [DisplayLambda.draws_compile (isNormal_project h hproper) hcount hunbroken rfl
    ⟨by decide, by decide⟩, hcontents, List.map_map]
  exact List.map_congr_left fun c _ => hlineOf c

omit [Qr.Encoder] in
/-- A statement on a line of its own is a text of one call. -/
theorem classifyAll_statement (h : call.InRange) {color : String} (hcolor : Text.OneLine color) :
    Line.classifyAll (call.statement color) = [.draw call] := by
  have hnames : ∀ name ∈ names, Text.OneLine name := by decide
  have hone : Text.OneLine (call.statement color) :=
    (Lambda.quiet_shape (hnames call.name call.name_mem) call.numbers hcolor).oneLine
  have hne : (call.statement color).toList ≠ [] := by
    simp [statement, Lambda.shape]
  have hlines : Text.lines (call.statement color) = [call.statement color] := by
    rw [Text.lines, Text.lineChars, Text.splitOn_eq_singleton hone]
    simp [hne]
  rw [Line.classifyAll, hlines, List.map_singleton, Line.classify_statement h]

/-- **A draw call alone comes back from the artifact of its project.** Whatever the color is, the
statement is read as the call; and a text of the call alone is compiled again to the same call in
black, with the matching outline behind what is filled. -/
theorem draws_again (h : call.InRange) (hproper : call.IsProper) :
    (∀ color, Text.OneLine color → Line.classifyAll (call.statement color) = [.draw call])
      ∧ ∀ text, Line.classifyAll text = [.draw call] →
        ∃ l, Project.ofAnyText text = .ok l
          ∧ Line.draws (Text.lines (l.project.compile {}).artifact.text)
            = call.redrawn.map fun c => "        " ++ c.statement "COLOR_BLACK" := by
  refine ⟨fun color hcolor => classifyAll_statement h hcolor, fun text htext => ?_⟩
  obtain ⟨l, hl, hproject⟩ := Project.ofAnyText_of_call htext h hproper
  refine ⟨l, hl, ?_⟩
  rw [hproject]
  exact draws_project h hproper

end

/-- A filled circle above the display, in a text with other blanks. -/
theorem draws_again_circle :
    ∃ l, Project.ofAnyText "\tit.filled_circle( 50,-7,5, COLOR_RED );\n" = .ok l
      ∧ Line.draws (Text.lines (l.project.compile {}).artifact.text)
        = ["        it.filled_circle(50, -7, 5, COLOR_BLACK);",
          "        it.circle(50, -7, 5, COLOR_BLACK);"] := by
  have hrange : (circle 50 (-7) 5 true).InRange := by
    unfold InRange
    decide
  obtain ⟨l, hl, hdraws⟩ := (draws_again hrange ⟨by decide, by decide, by decide, by decide⟩).2
    "\tit.filled_circle( 50,-7,5, COLOR_RED );\n" (by decide +kernel)
  refine ⟨l, hl, hdraws.trans ?_⟩
  decide +kernel

end DrawCall

end DisplayLayout
