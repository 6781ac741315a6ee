import DisplayLayout.Proofs.Lambda.Passage
import DisplayLayout.Widget.Symbol

/-!
# Calls and checks as passages

Every statement of the display lambda is a passage, and what it asks for is
supplied: a text call takes a font that is in use, and one that takes the icon
font draws nothing but glyphs that are in use at its size.
-/

namespace DisplayLayout

open Text Lambda

/-! ## What a contribution supplies -/

namespace Drawing

/-- A codepoint is in use at a size. -/
def ShowsAt (d : Drawing) (size n : Nat) : Prop :=
  ∃ code, ⟨code, size⟩ ∈ d.glyphs ∧ Icon.normalize? code = some code
    ∧ Numeric.readHex? code.toList = some n

/-- The font of a text call is in use: a text font, or the icon font of a size, which then draws
glyphs only. -/
def SuppliesText (d : Drawing) (size : Nat) (call : TextCall) : Prop :=
  (∃ f ∈ d.fonts, call.font? = some f.id)
    ∨ (call.font? = some (Icon.fontId size) ∧ 0 < size ∧ (∃ n, d.ShowsAt size n)
      ∧ ∀ text ∈ call.literals, IsGlyph (d.ShowsAt size) text)

/-- What is called is in use: the font of a text, or a helper. -/
def Supplies (d : Drawing) (size : Nat) : Call → Prop
  | .text call => d.SuppliesText size call
  | .helper h => h ∈ d.helpers

/-- A passage whose calls and glyphs are supplied. -/
abbrev Covers (d : Drawing) (size a b : Nat) (lines : List String) : Prop :=
  Passage (d.Supplies size) (d.ShowsAt size) a b lines

end Drawing

/-! ## Colors -/

/-- A text is the notation of a color. -/
def IsColor (text : String) : Prop := ∃ c inverted, text = Color.direct c inverted

theorem IsColor.fragment {text : String} (h : IsColor text) {T : List Char → Prop} : Fragment T text := by
  obtain ⟨c, inverted, rfl⟩ := h
  exact Fragment.color c inverted

theorem Surface.isColor_direct (s : Surface) (token : String) : IsColor (s.direct token) := by
  refine ⟨(s.color token).orBackground s.dark, s.device.invertedColors, ?_⟩
  rw [Surface.direct]

variable {d : Drawing} {size a : Nat}

/-! ## Text calls -/

namespace Lambda

/-- A style with a color of the display lambda, and with a text font that is in use. -/
structure TextStyle.Supplied (d : Drawing) (s : TextStyle) : Prop where
  font : ∃ f ∈ d.fonts, s.font = f.id
  color : IsColor s.color

theorem TextStyle.Supplied.of {f : Font} (hf : f ∈ d.fonts) {color : String} (hcolor : IsColor color)
    {x y : Int} {align : Align} : TextStyle.Supplied d ⟨x, y, f.id, color, align⟩ :=
  ⟨⟨f, hf, rfl⟩, hcolor⟩

/-- A text call behind its style. -/
theorem passage_styled {P : Call → Prop} {G : Nat → Prop} {T : List Char → Prop}
    {name tail : String} {style : TextStyle} (hname : name ∈ textCallNames)
    (hfont : IsWordText style.font) (hcolor : IsColor style.color)
    (htail : Fragment T tail) (hT : ∀ text, T text → Shows G text)
    (hP : ∀ texts, (∀ text ∈ texts, T text) → P (.text ⟨some style.font, texts⟩)) :
    Passage P G a a [name ++ "(" ++ (style.arguments ++ tail)] := by
  have hrest : Fragment T (style.color ++ (", " ++ (style.align.direct ++ tail))) :=
    hcolor.fragment.append ((Fragment.bare (by decide)).append ((Fragment.align _).append htail))
  have hline : name ++ "(" ++ (style.arguments ++ tail)
      = name ++ "(" ++ (toString style.x ++ (", " ++ (toString style.y ++ (", id(" ++ (style.font
        ++ ("), " ++ (style.color ++ (", " ++ (style.align.direct ++ tail))))))))) := by
    have hself : ∀ s : String, toString s = s := fun _ => rfl
    simp only [TextStyle.arguments, hself, String.append_assoc]
  rw [hline]
  exact Passage.textCall hname (fun _ hc => isArgumentChar_of_mem_int hc)
    (fun _ hc => isArgumentChar_of_mem_int hc) hfont hrest hT hP

/-- A text call with a text font. -/
theorem covers_text {name tail : String} {style : TextStyle} (hname : name ∈ textCallNames)
    (hstyle : style.Supplied d) (htail : Fragment (Shows (d.ShowsAt size)) tail) :
    d.Covers size a a [name ++ "(" ++ (style.arguments ++ tail)] := by
  obtain ⟨f, hf, hfont⟩ := hstyle.font
  refine passage_styled hname ?_ hstyle.color htail (fun _ h => h) fun texts _ => Or.inl ⟨f, hf, ?_⟩
  · rw [hfont]
    exact f.isWordText_id
  · rw [hfont]

theorem covers_print {style : TextStyle} (hstyle : style.Supplied d) (text : String) :
    d.Covers size a a [print style text] := by
  have htail : Fragment (Shows (d.ShowsAt size)) (", " ++ Lambda.literal text ++ ");") :=
    .insert (.bare (by decide)) (.text text) (.bare (by decide))
  have hline : print style text
      = "it.print" ++ "(" ++ (style.arguments ++ (", " ++ Lambda.literal text ++ ");")) := by
    rw [← String.toList_inj]
    simp [print]
  rw [hline]
  exact covers_text (by decide) hstyle htail

theorem covers_printf {style : TextStyle} (hstyle : style.Supplied d) {format arguments : String}
    (hformat : Content format.toList) (harguments : Fragment (Shows (d.ShowsAt size)) arguments) :
    d.Covers size a a [printf style format arguments] := by
  have htail : Fragment (Shows (d.ShowsAt size))
      (", " ++ ("\"" ++ format ++ "\"") ++ ", " ++ arguments ++ ");") :=
    .insert (.insert (.bare (by decide)) (.literal hformat.continues hformat.shows) (.bare (by decide)))
      harguments (.bare (by decide))
  have hline : printf style format arguments = "it.printf" ++ "("
      ++ (style.arguments ++ (", " ++ ("\"" ++ format ++ "\"") ++ ", " ++ arguments ++ ");")) := by
    rw [← String.toList_inj]
    simp [printf]
  rw [hline]
  exact covers_text (by decide) hstyle htail

theorem covers_strftime {style : TextStyle} (hstyle : style.Supplied d) {format : String}
    (hformat : Content format.toList) :
    d.Covers size a a [strftime style format] := by
  have htail : Fragment (Shows (d.ShowsAt size)) (", " ++ ("\"" ++ format ++ "\"") ++ ", now);") :=
    .insert (.bare (by decide)) (.literal hformat.continues hformat.shows) (.bare (by decide))
  have hline : strftime style format = "it.strftime" ++ "("
      ++ (style.arguments ++ (", " ++ ("\"" ++ format ++ "\"") ++ ", now);")) := by
    rw [← String.toList_inj]
    simp [strftime]
  rw [hline]
  exact covers_text (by decide) hstyle htail

end Lambda

/-- A call that draws a glyph with the icon font. -/
theorem Symbol.covers_glyphCall {style : TextStyle} (hfont : style.font = Icon.fontId size)
    (hsize : 0 < size) (hcolor : IsColor style.color)
    (hused : ∃ n, d.ShowsAt size n) {glyph : String}
    (hglyph : Fragment (IsGlyph (d.ShowsAt size)) glyph) :
    d.Covers size a a [glyphCall style glyph] := by
  have htail : Fragment (IsGlyph (d.ShowsAt size)) (", " ++ glyph ++ ");") :=
    .insert (.bare (by decide)) hglyph (.bare (by decide))
  have hline : glyphCall style glyph
      = "it.print" ++ "(" ++ (style.arguments ++ (", " ++ glyph ++ ");")) := by
    rw [← String.toList_inj]
    simp [glyphCall]
  rw [hline]
  refine passage_styled (by decide) ?_ hcolor htail (fun _ h => h.shows) fun texts htexts =>
    Or.inr ⟨?_, hsize, hused, htexts⟩
  · rw [hfont]
    exact Icon.isWordText_fontId size
  · rw [hfont]

/-! ## Shapes and masks -/

section

variable {T : List Char → Prop}

theorem Lambda.Fragment.join {sep : String} {parts : List String} (hsep : Fragment T sep)
    (h : ∀ s ∈ parts, Fragment T s) : Fragment T (Text.join sep parts) := by
  induction parts with
  | nil =>
    show Fragment T ""
    exact .bare (by decide)
  | cons s rest ih =>
    rw [List.forall_mem_cons] at h
    have hrest := ih h.2
    rw [Text.join] at hrest ⊢
    cases rest with
    | nil =>
      rw [String.intercalate_singleton]
      exact h.1
    | cons t rest =>
      rw [String.intercalate_cons_cons]
      exact .insert h.1 hsep hrest

theorem Lambda.Fragment.arguments (ns : List Int) : Fragment T (Lambda.arguments ns) := by
  refine Fragment.join (.bare (by decide)) fun s hs => ?_
  obtain ⟨n, -, rfl⟩ := List.mem_map.1 hs
  exact .int n

/-- The names of the drawing primitives. -/
def Lambda.shapeNames : List String :=
  ["filled_rectangle", "rectangle", "filled_circle", "circle", "line"]

theorem Lambda.Fragment.shape {name : String} (hname : name ∈ shapeNames) (ns : List Int)
    {color : String} (hcolor : IsColor color) : Fragment T (Lambda.shape name ns color) := by
  have hlead : ∀ name ∈ shapeNames, knownLiterals? ("it." ++ name ++ "(").toList = some [] := by
    decide
  unfold Lambda.shape
  exact .insert (.insert (.bare (hlead name hname)) (.arguments ns) (.bare (by decide)))
    hcolor.fragment (.bare (by decide))

theorem Lambda.Fragment.outlineBorder (box : Rect) (border : Int) {color : String}
    (hcolor : IsColor color) :
    ∀ line ∈ Lambda.outlineBorder box border color, Fragment T line := by
  intro line hline
  obtain ⟨inner, -, rfl⟩ := List.mem_map.1 hline
  exact .shape (by decide) _ hcolor

/-- A text that calls a helper and goes on as a fragment. -/
def Lambda.CallsHelper (T : List Char → Prop) (h : DrawHelper) (s : String) : Prop :=
  ∃ tail, s = h.name ++ "(" ++ tail ∧ Fragment T tail

theorem Lambda.CallsHelper.name (h : DrawHelper) : CallsHelper T h (h.name ++ "(") :=
  ⟨"", String.append_empty.symm, .bare (by decide)⟩

theorem Lambda.CallsHelper.append {h : DrawHelper} {a b : String} (ha : CallsHelper T h a)
    (hb : Fragment T b) : CallsHelper T h (a ++ b) := by
  obtain ⟨tail, rfl, htail⟩ := ha
  exact ⟨tail ++ b, String.append_assoc, htail.append hb⟩

/-- A text that calls a helper, with an argument put in. -/
theorem Lambda.CallsHelper.insert {h : DrawHelper} {a s b : String} (ha : CallsHelper T h a)
    (hs : Fragment T s) (hb : Fragment T b) : CallsHelper T h (a ++ s ++ b) :=
  (ha.append hs).append hb

theorem DitherShape.callsHelper_maskStatement (box : Rect) :
    CallsHelper T .ditherRect (maskStatement box) := by
  refine .insert (.insert (.insert (.insert (.name _) (.int box.x) ?_) (.int box.y) ?_) (.int box.w) ?_)
    (.int box.h) ?_
  all_goals exact Fragment.bare (by decide)

theorem DitherShape.callsHelper_statements (mask : DitherShape) :
    ∀ line ∈ mask.statements, CallsHelper T mask.helper line := by
  intro line hline
  cases mask with
  | rect box =>
    rw [List.mem_singleton.1 hline]
    exact callsHelper_maskStatement box
  | rectBand box band =>
    obtain ⟨strip, -, rfl⟩ := List.mem_map.1 hline
    exact callsHelper_maskStatement strip
  | roundedRect box r band =>
    rw [List.mem_singleton.1 hline]
    refine .insert (.insert (.insert (.insert (.insert (.insert (.name _) (.int box.x) ?_)
      (.int box.y) ?_) (.int box.w) ?_) (.int box.h) ?_) (.int r) ?_) (.int band) ?_
    all_goals exact Fragment.bare (by decide)
  | circle cx cy r band =>
    rw [List.mem_singleton.1 hline]
    refine .insert (.insert (.insert (.insert (.name _) (.int cx) ?_) (.int cy) ?_) (.int r) ?_)
      (.int band) ?_
    all_goals exact Fragment.bare (by decide)

/-! ## Checks -/

namespace Condition

theorem fragment_literal (text : String) : Fragment T (literal text) := by
  unfold literal
  dsimp only
  split
  · exact .bare (by decide)
  split
  · exact .bare (by decide)
  split
  · split
    · exact .plainText _
    · exact .bare (by decide)
  · exact .bare (by decide)

theorem fragment_operatorName (op : Operator) : Fragment T op.name := by
  cases op <;> exact .bare (by decide)

end Condition

end

/-- A call of a helper that is in use, behind other code. -/
theorem Lambda.CallsHelper.covers_behind {h : DrawHelper} {lead line : String}
    (hlead : Fragment (Shows (d.ShowsAt size)) lead)
    (hline : CallsHelper (Shows (d.ShowsAt size)) h line) (hused : h ∈ d.helpers) :
    d.Covers size a a [lead ++ line] := by
  obtain ⟨tail, rfl, htail⟩ := hline
  exact Passage.helperCall hlead htail hused

theorem Lambda.CallsHelper.covers {h : DrawHelper} {line : String}
    (hline : CallsHelper (Shows (d.ShowsAt size)) h line) (hused : h ∈ d.helpers) :
    d.Covers size a a [line] := by
  have hcovers : d.Covers size a a ["" ++ line] := hline.covers_behind (.bare (by decide)) hused
  rwa [String.empty_append] at hcovers

theorem DitherShape.covers_statements (mask : DitherShape) (hused : mask.helper ∈ d.helpers) :
    d.Covers size a a mask.statements :=
  Passage.ofLines fun line hline => (mask.callsHelper_statements line hline).covers hused

/-- **The check of a condition** stands behind its `if`, whatever is compared. -/
theorem Condition.fragment_check (c : Condition) {G : Nat → Prop} :
    Fragment (Shows G) ("if (" ++ c.check) := by
  have hread : Fragment (Shows G) ("id(" ++ c.sensor.id ++ ").state") :=
    Fragment.state c.isWordText_sensorId
  have hgoes : ∀ {a b : String}, Fragment (Shows G) ("if (" ++ a) → Fragment (Shows G) b →
      Fragment (Shows G) ("if (" ++ (a ++ b)) := by
    intro a b ha hb
    rw [← String.append_assoc]
    exact ha.append hb
  have hstate : Fragment (Shows G) ("if (" ++ ("id(" ++ c.sensor.id ++ ").state")) :=
    .append (.bare (by decide)) hread
  have hnot : Fragment (Shows G) ("if (" ++ ("!" ++ ("id(" ++ c.sensor.id ++ ").state"))) :=
    hgoes (.bare (by decide)) hread
  -- The parenthesis of the conversion stands behind the one of the condition, and not alone.
  have hint : Fragment (Shows G) ("if (" ++ ("(int) " ++ ("id(" ++ c.sensor.id ++ ").state"))) :=
    hgoes (.bare (by decide)) hread
  have hspace : Fragment (Shows G) " " := .bare (by decide)
  unfold check
  dsimp only
  split
  · have hplain : ∀ on : Bool, Fragment (Shows G) ("if (" ++ if on then "id(" ++ c.sensor.id ++ ").state"
        else "!" ++ ("id(" ++ c.sensor.id ++ ").state")) := by
      rintro (_ | _)
      · exact hnot
      · exact hstate
    split
    · exact hplain _
    · exact hplain _
    · cases isPositive c.stateText with
      | true => exact hnot
      | false => exact hstate
    · refine hgoes (hgoes (hgoes (hgoes hint hspace) (fragment_operatorName _)) hspace) ?_
      split <;> exact .bare (by decide)
  · -- The quotes belong to the literal of the state.
    have htext : ∀ lead : String, lead ++ "\"" ++ Lambda.escape c.stateText ++ "\""
        = lead ++ Lambda.literal c.stateText := by
      intro lead
      rw [Lambda.literal]
      simp only [String.append_assoc]
    rw [htext]
    refine hgoes (hgoes hstate ?_) (.text _)
    split <;> exact .bare (by decide)
  · split
    · have hlow := hgoes (hgoes hstate (.bare (by decide) : Fragment _ " >= "))
        (fragment_literal (c.min.getD "0"))
      have hboth := hgoes (hgoes hlow (.bare (by decide) : Fragment _ " && ")) hread
      exact hgoes (hgoes hboth (.bare (by decide) : Fragment _ " <= "))
        (fragment_literal (c.max.getD "100"))
    · exact hgoes (hgoes (hgoes (hgoes hstate hspace) (fragment_operatorName _)) hspace)
        (fragment_literal _)

end DisplayLayout
