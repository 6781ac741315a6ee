import DisplayLayout.Align
import DisplayLayout.Condition
import DisplayLayout.Widget.Property

/-!
# Views

A widget seen through the property table of its type: every property has a
value of the kind that is asked for, and the marker carries all of them.
-/

namespace DisplayLayout

/-- A widget and the table of its type. -/
structure View where
  widget : Widget
  table : PropertyTable

namespace View

/-- How many steps are followed from a property to the one whose value it takes. -/
def maxSteps : Nat := 4

/-- The text of a property, following at most `steps` others. -/
def textAt (v : View) : (steps : Nat) → (key : String) → String
  | steps, key =>
    match (v.widget.props.value? key).bind Json.scalarText? with
    | some s => s
    | none =>
      match v.table.default? key, steps with
      | some (.text s), _ => s
      | some (.int n), _ => toString n
      | some (.flag b), _ => flagText b
      | some (.sameAs other), steps + 1 => textAt v steps other
      | _, _ => ""

/-- The text of the default of a property. -/
def defaultText (v : View) (key : String) : String :=
  match v.table.default? key with
  | some (.text s) => s
  | some (.int n) => toString n
  | some (.flag b) => flagText b
  | some (.sameAs other) => v.textAt (maxSteps - 1) other
  | none => ""

/-- The text of a property. -/
def text (v : View) (key : String) : String := v.textAt maxSteps key

/-- The integer of a property. What is no integer counts as missing. -/
def int (v : View) (key : String) : Int :=
  match (v.widget.props.value? key).bind Json.integer? with
  | some n => n
  | none => (Numeric.readInt64? (Text.trim (v.defaultText key))).getD 0

/-- The integer of a property, kept within 32 bits. -/
def int32 (v : View) (key : String) : Int := Numeric.clampInt32 (v.int key)

/-- A size: at least `least`, and within 32 bits. -/
def size (v : View) (key : String) (least : Nat) : Nat :=
  min Numeric.maxWord32 (max (v.int key) least).toNat

/-- Whether a property is on. -/
def flag (v : View) (key : String) : Bool :=
  let fallback := (flagOfText? (v.defaultText key)).getD false
  match v.widget.props.value? key with
  | some (.bool b) => b
  | some (.number (.int n)) => n != 0
  | some (.number (.float (.finite _ m _))) => m != 0
  | some (.number (.float _)) => true
  | some (.string s) => (flagOfText? s).getD fallback
  | _ => fallback

/-- The alignment of a property. -/
def align (v : View) (key : String) : Align := Align.ofName (v.text key)

/-- The identifier of a widget with a suffix. One that would be empty or start with a digit
gets a letter in front. -/
def identWith (v : View) (suffix : String) : String :=
  let ident := Identifier.sanitize v.widget.id suffix
  if (ident.toList.head?.any Char.isDigit) || ident == suffix then
    Identifier.sanitize ("w_" ++ v.widget.id) suffix
  else ident

/-- The identifier of a widget. -/
def ident (v : View) : String := v.identWith ""

/-- The entity of a widget. -/
def entity? (v : View) : Option String := v.widget.entity?

/-- The title of a widget. -/
def heading? (v : View) : Option String := v.widget.heading?

/-- The box of a widget. -/
def box (v : View) : Rect := v.widget.box

/-- The value of a property as a marker carries it. -/
def fieldValue (v : View) (p : Property) : String :=
  match p.fallback with
  | .int _ => toString (v.int p.key)
  | .flag _ => flagText (v.flag p.key)
  | _ => v.text p.key

/-- The fields that every marker starts with. -/
def placement (w : Widget) : Keyed String :=
  [("id", w.id), ("type", w.type), ("x", toString w.x), ("y", toString w.y),
    ("w", toString w.width), ("h", toString w.height)]

/-- The marker of a widget: its place, entity and title, its properties, and its condition. -/
def marker (v : View) : Marker :=
  let w := v.widget
  let m : Marker := ⟨w.type, placement w⟩
  let m := Condition.pushSome (Condition.pushSome m "ent" w.entity?) "title" w.heading?
  let m := v.table.foldl (fun m p => m.push p.key (v.fieldValue p)) m
  match Condition.ofWidget? w with
  | some c => c.writeMarker m
  | none => m

/-- A field of a marker as a value of its property. -/
def fieldJson (d : Default) (raw : String) : Json :=
  match d with
  | .int n => .int ((Json.integerOfText? raw).getD n)
  | .flag b => .bool ((flagOfText? raw).getD b)
  | _ => .string raw

/-- Reads the properties of a table from a marker. -/
def readProps (m : Marker) (table : PropertyTable) (w : Widget) : Widget :=
  table.foldl
    (fun w p => match m.get? p.key with
      | some raw => w.withProp p.key (fieldJson p.fallback raw)
      | none => w)
    w

end View

end DisplayLayout
