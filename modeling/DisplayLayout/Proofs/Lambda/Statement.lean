import DisplayLayout.Lambda.Statement
import DisplayLayout.Proofs.Identifier
import DisplayLayout.Proofs.Lambda.Literal
import DisplayLayout.Proofs.Line.Quiet
import DisplayLayout.Tier

/-!
# Statements are quiet

Every statement of the display lambda stands on one line, whatever text it
draws, and is taken for nothing but a draw call.
-/

namespace DisplayLayout

open Text

theorem Text.oneLine_toString {s : String} : OneLine (toString s) ↔ OneLine s := Iff.rfl

/-! ## Pieces of statements -/

theorem Color.oneLine_tripleText (r g b : Nat) : OneLine (tripleText r g b) := by
  simp +decide only [tripleText, oneLine_append, Numeric.oneLine_toString_nat]

theorem Color.oneLine_direct (c : Color) (inverted : Bool) : OneLine (c.direct inverted) := by
  cases c with
  | rgb r g b => exact oneLine_append.2 ⟨by decide, oneLine_tripleText r g b⟩
  | _ => cases inverted <;> decide

@[simp] theorem Surface.oneLine_direct (s : Surface) (token : String) : OneLine (s.direct token) :=
  Color.oneLine_direct _ _

@[simp] theorem Surface.oneLine_background (s : Surface) : OneLine s.background :=
  s.oneLine_direct _

/-- A region is masked, or it is painted in its color. -/
theorem Surface.paint_cases (s : Surface) (token : String) :
    s.paint token = .dither ∨ s.paint token = .solid (s.direct token) := by
  by_cases h : (s.color token).needsDither s.device.paletteLimited = true
  · exact Or.inl (if_pos h)
  · exact Or.inr (if_neg h)

@[simp] theorem Align.oneLine_direct (a : Align) : OneLine a.direct := by
  obtain ⟨horizontal, vertical⟩ := a
  cases horizontal <;> cases vertical <;> decide

@[simp] theorem Font.oneLine_id (f : Font) : OneLine f.id := f.isWordText_id.oneLine

@[simp] theorem Icon.oneLine_fontId (size : Nat) : OneLine (Icon.fontId size) :=
  (Icon.isWordText_fontId size).oneLine

@[simp] theorem Sensor.oneLine_id_of (kind : SensorKind) (entity : String) :
    OneLine (Sensor.of kind entity).id :=
  (Sensor.isWordText_id_of kind entity).oneLine

@[simp] theorem View.oneLine_ident (v : View) : OneLine v.ident := v.isWordText_ident.oneLine

namespace Lambda

@[simp] theorem oneLine_escape (s : String) : OneLine (escape s) := by
  rw [escape, oneLine_ofList, List.mem_flatMap]
  rintro ⟨c, -, hc⟩
  exact (eq_of_mem_escapeChar (by decide) rfl hc).2 rfl

@[simp] theorem oneLine_escapeFormat (s : String) : OneLine (escapeFormat s) := by
  have hescape := oneLine_escape s
  rw [escapeFormat, replaceChar, oneLine_ofList, List.mem_flatMap]
  rintro ⟨c, hc, hm⟩
  split at hm
  · exact absurd hm (by decide)
  · rw [List.mem_singleton] at hm
    exact hescape (hm ▸ hc)

@[simp] theorem oneLine_literal (s : String) : OneLine (literal s) := by
  simp +decide only [literal, oneLine_append, oneLine_escape]

theorem oneLine_state {id : String} (h : OneLine id) : OneLine (state id) := by
  simp +decide only [state, oneLine_append, h]

/-- A line that reads a sensor behind words that settle what the line is. -/
theorem quiet_reading {lead id rest : String} (hlead : Line.opens lead = true) (hid : OneLine id)
    (hrest : OneLine rest) : Line.Quiet (lead ++ state id ++ rest) := by
  rw [String.append_assoc]
  exact Line.quiet_of_lead hlead (oneLine_append.2 ⟨oneLine_state hid, hrest⟩)

theorem oneLine_arguments (ns : List Int) : OneLine (arguments ns) := by
  refine oneLine_join (by decide) fun s hs => ?_
  obtain ⟨n, -, rfl⟩ := List.mem_map.1 hs
  exact Numeric.oneLine_toString_int n

/-! ## Text calls -/

/-- A style whose names stand on one line. -/
structure TextStyle.OneLine (s : TextStyle) : Prop where
  font : Text.OneLine s.font
  color : Text.OneLine s.color

theorem TextStyle.OneLine.ofNames {x y : Int} {font color : String} {align : Align}
    (hfont : Text.OneLine font) (hcolor : Text.OneLine color) :
    TextStyle.OneLine ⟨x, y, font, color, align⟩ :=
  ⟨hfont, hcolor⟩

theorem TextStyle.OneLine.arguments {s : TextStyle} (h : s.OneLine) :
    Text.OneLine s.arguments := by
  simp +decide only [TextStyle.arguments, oneLine_append, oneLine_toString, Numeric.oneLine_toString_int,
    h.font, h.color, Align.oneLine_direct]

theorem quiet_print {style : TextStyle} (h : style.OneLine) (text : String) :
    Line.Quiet (print style text) := by
  simp only [print, String.append_assoc]
  refine Line.quiet_of_lead (by decide) ?_
  simp +decide only [oneLine_append, h.arguments, oneLine_literal]

theorem quiet_printf {style : TextStyle} (h : style.OneLine) {format arguments : String}
    (hformat : OneLine format) (harguments : OneLine arguments) :
    Line.Quiet (printf style format arguments) := by
  simp only [printf, String.append_assoc]
  refine Line.quiet_of_lead (by decide) ?_
  simp +decide only [oneLine_append, h.arguments, hformat, harguments]

theorem quiet_strftime {style : TextStyle} (h : style.OneLine) {format : String}
    (hformat : OneLine format) : Line.Quiet (strftime style format) := by
  simp only [strftime, String.append_assoc]
  refine Line.quiet_of_lead (by decide) ?_
  simp +decide only [oneLine_append, h.arguments, hformat]

/-! ## Shapes -/

theorem quiet_shape {name color : String} (hname : OneLine name) (ns : List Int)
    (hcolor : OneLine color) : Line.Quiet (shape name ns color) := by
  simp only [shape, String.append_assoc]
  refine Line.quiet_of_lead (by decide) ?_
  simp +decide only [oneLine_append, hname, oneLine_arguments, hcolor]

theorem quiet_fillRect (box : Rect) {color : String} (hcolor : OneLine color) :
    Line.Quiet (fillRect box color) :=
  quiet_shape (by decide) _ hcolor

theorem quiet_outlineRect (box : Rect) {color : String} (hcolor : OneLine color) :
    Line.Quiet (outlineRect box color) :=
  quiet_shape (by decide) _ hcolor

theorem quiet_outlineBorder (box : Rect) (border : Int) {color : String} (hcolor : OneLine color) :
    ∀ line ∈ outlineBorder box border color, Line.Quiet line := by
  intro line hline
  obtain ⟨inner, -, rfl⟩ := List.mem_map.1 hline
  exact quiet_outlineRect inner hcolor

theorem quiet_indent {line : String} (h : Line.Quiet line) : Line.Quiet (indent line) :=
  h.indent (by decide)

theorem quiet_map_indent {lines : List String} (h : ∀ line ∈ lines, Line.Quiet line) :
    ∀ line ∈ lines.map indent, Line.Quiet line := by
  intro line hline
  obtain ⟨inner, hinner, rfl⟩ := List.mem_map.1 hline
  exact quiet_indent (h inner hinner)

end Lambda

/-! ## Masks -/

theorem DitherShape.quiet_maskStatement (box : Rect) : Line.Quiet (maskStatement box) := by
  unfold maskStatement
  simp only [String.append_assoc]
  refine Line.quiet_of_lead (by decide) ?_
  simp +decide only [oneLine_append, Numeric.oneLine_toString_int]

theorem DitherShape.quiet_statements (mask : DitherShape) :
    ∀ line ∈ mask.statements, Line.Quiet line := by
  intro line hline
  cases mask with
  | rect box =>
    rw [List.mem_singleton.1 hline]
    exact quiet_maskStatement box
  | rectBand box band =>
    obtain ⟨strip, -, rfl⟩ := List.mem_map.1 hline
    exact quiet_maskStatement strip
  | roundedRect box r band =>
    rw [List.mem_singleton.1 hline]
    simp only [String.append_assoc]
    refine Line.quiet_of_lead (by decide) ?_
    simp +decide only [oneLine_append, Numeric.oneLine_toString_int]
  | circle cx cy r band =>
    rw [List.mem_singleton.1 hline]
    simp only [String.append_assoc]
    refine Line.quiet_of_lead (by decide) ?_
    simp +decide only [oneLine_append, Numeric.oneLine_toString_int]

end DisplayLayout
