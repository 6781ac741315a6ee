import DisplayLayout.Rect
import DisplayLayout.Text.Basic

/-!
# Text alignment

Where a text sits in its box, in the spellings of the targets.
-/

namespace DisplayLayout

/-- A position from left to right. -/
inductive Horizontal where
  | left
  | center
  | right
deriving DecidableEq, Repr, Inhabited

/-- A position from top to bottom. -/
inductive Vertical where
  | top
  | middle
  | bottom
deriving DecidableEq, Repr, Inhabited

/-- An alignment in both directions. -/
structure Align where
  horizontal : Horizontal
  vertical : Vertical
deriving DecidableEq, Repr, Inhabited

namespace Align

/-- The alignments that are used by name. -/
def topLeft : Align := ⟨.left, .top⟩
def topCenter : Align := ⟨.center, .top⟩
def centered : Align := ⟨.center, .middle⟩

/-- The vertical position with a name; an unknown one is the top. -/
def verticalOfName (name : String) : Vertical :=
  match name with
  | "CENTER" => .middle
  | "MIDDLE" => .middle
  | "BOTTOM" => .bottom
  | _ => .top

/-- The horizontal position with a name; an unknown one is the left. -/
def horizontalOfName (name : String) : Horizontal :=
  match name with
  | "CENTER" => .center
  | "MIDDLE" => .center
  | "RIGHT" => .right
  | _ => .left

/-- Upper case with underscores for dashes. -/
def canonical (text : String) : List Char :=
  (Text.upper (Text.trim text)).toList.map fun c => if c = '-' then '_' else c

/-- The alignment with a name. A single word is the horizontal position at the top, unless it
means the center; any text means something. -/
def ofName (text : String) : Align :=
  let cs := canonical text
  let whole := String.ofList cs
  if whole = "CENTER" ∨ whole = "MIDDLE" then centered
  else match Text.splitFirst? '_' cs with
    | some (v, h) => ⟨horizontalOfName (String.ofList h), verticalOfName (String.ofList v)⟩
    | none => ⟨horizontalOfName whole, .top⟩

/-- Upper-case names of positions. -/
def verticalName : Vertical → String
  | .top => "TOP"
  | .middle => "CENTER"
  | .bottom => "BOTTOM"

def horizontalName : Horizontal → String
  | .left => "LEFT"
  | .center => "CENTER"
  | .right => "RIGHT"

/-- The spelling of properties. -/
def token (a : Align) : String :=
  if a = centered then "CENTER" else verticalName a.vertical ++ "_" ++ horizontalName a.horizontal

/-- The constant of the display lambda. -/
def direct (a : Align) : String := "TextAlign::" ++ a.token

/-- The spelling of the widget tree, which knows the horizontal position only. -/
def retained (a : Align) : String := horizontalName a.horizontal

/-- The horizontal position in lower case. -/
def horizontalWord (a : Align) : String :=
  match a.horizontal with
  | .left => "left"
  | .center => "center"
  | .right => "right"

/-- The two letters of the drawing protocols. -/
def anchorCode (a : Align) : String :=
  let h := match a.horizontal with
    | .left => 'l'
    | .center => 'm'
    | .right => 'r'
  let v := match a.vertical with
    | .top => 't'
    | .middle => 'm'
    | .bottom => 'b'
  String.ofList [h, v]

/-- The point of a box that a text is attached to. -/
def anchor (a : Align) (box : Rect) : Int × Int :=
  let x := match a.horizontal with
    | .left => box.x
    | .center => box.centerX
    | .right => box.x + box.w
  let y := match a.vertical with
    | .top => box.y
    | .middle => box.centerY
    | .bottom => box.y + box.h
  (x, y)

/-- The positions of lines of text at a pitch, anchored like the whole. -/
def lineOffsets (a : Align) (anchorY : Int) (count : Nat) (pitch : Int) : List Int :=
  let first := match a.vertical with
    | .top => anchorY
    | .middle => anchorY - Int.tdiv (((count : Int) - 1) * pitch) 2
    | .bottom => anchorY - ((count : Int) - 1) * pitch
  (List.range count).map fun (i : Nat) => first + (i : Int) * pitch

end Align

end DisplayLayout
