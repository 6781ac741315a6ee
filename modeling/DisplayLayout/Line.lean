import DisplayLayout.Marker.Record
import DisplayLayout.Numeric.Integer

/-!
# Lines of generated text

What one line of a generated artifact says to a reader: a widget marker, the
start of a page, a fact about the page, a bare draw call, or nothing of note.
-/

namespace DisplayLayout

/-- A draw call with integer arguments. -/
inductive DrawCall where
  | rectangle (x y w h : Int) (filled : Bool)
  | circle (cx cy r : Int) (filled : Bool)
  | line (x1 y1 x2 y2 : Int)
deriving DecidableEq, Repr

/-- What a line is. -/
inductive Line where
  /-- A comment with a marker. -/
  | marker (m : Marker)
  /-- The start of the page with an index. -/
  | pageHeader (index : Nat)
  /-- A comment `page:<key> "<value>"`. -/
  | pageFact (key value : String)
  /-- A draw call that stands alone. -/
  | draw (call : DrawCall)
  /-- Anything else. -/
  | other
deriving DecidableEq, Repr

namespace Line

/-- The key of facts about a page. -/
def pageKey : String := "page"

/-- What follows a lead, if the text has it. -/
def after? (lead : String) (cs : List Char) : Option (List Char) := lead.toList.isPrefixOf? cs

/-- The body of a comment line, for both comment leads. -/
def commentBody? (cs : List Char) : Option (List Char) :=
  ((after? "//" cs).orElse fun _ => after? "#" cs).map Text.dropBlanks

/-- The value of a page fact: unquoted when it stands in quotes. -/
def factValue (cs : List Char) : String :=
  if cs.head? = some '"' ∧ cs.getLast? = some '"' ∧ 2 ≤ cs.length then
    Marker.unquote (String.ofList cs)
  else String.ofList cs

/-- Reads `<key> <value>` behind `page:`; the key is a plain word. -/
def ofPageFact (cs : List Char) : Line :=
  let key := cs.takeWhile (!Text.isBlank ·)
  let value := Text.trimChars (cs.dropWhile (!Text.isBlank ·))
  if Text.isWord key then .pageFact (String.ofList key) (factValue value) else .other

/-- Classifies the body of a comment. -/
def ofComment (body : List Char) : Line :=
  match after? (Marker.leadKey ++ ":") body with
  | some _ => match Marker.read? (String.ofList body) with
    | some m => .marker m
    | none => .other
  | none => match after? (pageKey ++ ":") body with
    | some rest => ofPageFact rest
    | none => .other

/-- The spellings of the current page in a condition. -/
def pageSubjects : List String := ["currentPage==", "id(display_page)==", "page=="]

/-- Reads a page index in a condition that goes on with a closing parenthesis. -/
def conditionIndex? (cs : List Char) : Option Nat :=
  match cs.dropWhile Char.isDigit with
  | ')' :: _ => (Numeric.readDigits? (cs.takeWhile Char.isDigit)).filter (· ≤ Numeric.maxWord32)
  | _ => none

/-- The index of the page that a line starts: `- id: page_2`, or a condition on
the current page such as `if (page == 2)` or `} else if (id(display_page) == 2) {`. -/
def pageIndex? (cs : List Char) : Option Nat :=
  match after? "- id:" cs with
  | some rest =>
    (after? "page_" (Text.trimChars rest)).bind fun n => Numeric.readWord32? (String.ofList n)
  | none =>
    if (after? "it." cs).isSome then none
    else
      let compact := cs.filter (!Text.isBlank ·)
      let condition := (after? "if(" compact).orElse fun _ => after? "\x7delseif(" compact
      (condition.bind fun rest => pageSubjects.findSome? fun s => after? s rest).bind conditionIndex?

/-- The integers among the first `n` arguments of a call, if there are that many. -/
def integers? (n : Nat) (args : List (List Char)) : Option (List Int) :=
  if args.length < n then none
  else (args.take n).mapM fun a => Numeric.readInt32? (String.ofList a)

/-- The draw call with a name and arguments. Arguments behind the geometry are not looked at. -/
def drawCall? (name : String) (args : List (List Char)) : Option DrawCall :=
  match name with
  | "rectangle" => rectangle false
  | "filled_rectangle" => rectangle true
  | "circle" => circle false
  | "filled_circle" => circle true
  | "line" => match integers? 4 args with
    | some [x1, y1, x2, y2] => some (.line x1 y1 x2 y2)
    | _ => none
  | _ => none
where
  rectangle (filled : Bool) := match integers? 4 args with
    | some [x, y, w, h] => some (.rectangle x y w h filled)
    | _ => none
  circle (filled : Bool) := match integers? 3 args with
    | some [cx, cy, r] => some (.circle cx cy r filled)
    | _ => none

/-- Reads `it.<name>(<arguments>)`, up to the last closing parenthesis. -/
def draw? (cs : List Char) : Option DrawCall := do
  let call ← after? "it." cs
  let (name, rest) ← Text.splitFirst? '(' call
  let (arguments, _) ← Text.splitLast? ')' rest
  drawCall? (String.ofList name) ((Text.splitOn ',' arguments).map Text.trimChars)

/-- Classifies one line. -/
def classify (line : String) : Line :=
  let cs := Text.trimChars line.toList
  if cs.isEmpty then .other
  else match commentBody? cs with
    | some body => ofComment body
    | none => match pageIndex? cs with
      | some index => .pageHeader index
      | none => match draw? cs with
        | some call => .draw call
        | none => .other

/-- Classifies the lines of a text. -/
def classifyAll (text : String) : List Line := (Text.lines text).map classify

end Line

end DisplayLayout
