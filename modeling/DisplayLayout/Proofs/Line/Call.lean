import DisplayLayout.Lambda.Statement
import DisplayLayout.Proofs.Line.Quiet
import DisplayLayout.Proofs.Numeric.Decimal

/-!
# Draw calls on a line of their own

A statement that draws a shape with integers is read back as its call, whatever
color stands behind the integers (`Line.classify_statement`). The arguments come
apart at their commas, and blanks around them do not count.
-/

namespace DisplayLayout

namespace DrawCall

/-- The function that is called. -/
def name : DrawCall → String
  | rectangle _ _ _ _ false => "rectangle"
  | rectangle _ _ _ _ true => "filled_rectangle"
  | circle _ _ _ false => "circle"
  | circle _ _ _ true => "filled_circle"
  | line .. => "line"

/-- The names of the functions that draw shapes with integers. -/
def names : List String := ["rectangle", "filled_rectangle", "circle", "filled_circle", "line"]

theorem name_mem (call : DrawCall) : call.name ∈ names := by
  cases call with
  | rectangle x y w h filled => cases filled <;> simp [name, names]
  | circle cx cy r filled => cases filled <;> simp [name, names]
  | line x1 y1 x2 y2 => simp [name, names]

/-- The integers of a call, in order. -/
def numbers : DrawCall → List Int
  | rectangle x y w h _ => [x, y, w, h]
  | circle cx cy r _ => [cx, cy, r]
  | line x1 y1 x2 y2 => [x1, y1, x2, y2]

/-- A call as a statement in a color. -/
def statement (call : DrawCall) (color : String) : String :=
  Lambda.shape call.name call.numbers color

/-- All integers of a call are within 32 bits. -/
def InRange (call : DrawCall) : Prop := ∀ n ∈ call.numbers, Numeric.isInt32 n = true

end DrawCall

namespace Line

/-! ## Arguments -/

/-- Integers in front of other arguments are read. -/
theorem integers?_append {ns : List Int} (h : ∀ n ∈ ns, Numeric.isInt32 n = true)
    (more : List (List Char)) :
    integers? ns.length (ns.map (fun n => (toString n).toList) ++ more) = some ns := by
  have hnumber : ∀ n ∈ ns,
      Numeric.readInt32? (String.ofList (toString n).toList) = some (id n) := by
    intro n hn
    rw [String.ofList_toList, Numeric.readInt32?, Numeric.readSigned?_toString,
      Option.filter_some, if_pos (h n hn), id]
  have hread : (ns.map fun n => (toString n).toList).mapM
      (fun a => Numeric.readInt32? (String.ofList a)) = some ns := by
    rw [List.mapM_map]
    exact (Text.mapM_eq_pure hnumber).trans (congrArg some (List.map_id ns))
  have hlength : (ns.map fun n => (toString n).toList).length = ns.length := List.length_map _
  have henough : ¬ (ns.map (fun n => (toString n).toList) ++ more).length < ns.length := by
    rw [List.length_append, hlength]
    omega
  rw [integers?, if_neg henough, ← hlength, List.take_left, hread]

/-- Arguments come apart into the numbers, and the pieces of what stands behind them. -/
theorem trimmed_arguments {ns : List Int} (hne : ns ≠ []) (color : String) :
    (Text.splitOn ',' (Lambda.arguments ns ++ ", " ++ color).toList).map Text.trimChars
      = ns.map (fun n => (toString n).toList)
        ++ (Text.splitOn ',' color.toList).map Text.trimChars := by
  have hsep : ∀ n : Int, ',' ∉ (toString n).toList :=
    Numeric.notMem_toString_int (by decide) (by decide)
  -- The blank behind a comma belongs to the next piece.
  have hcons : ∀ (n : Int) (rest : String),
      (Text.splitOn ',' (toString n ++ ", " ++ rest).toList).map Text.trimChars
        = (toString n).toList :: (Text.splitOn ',' rest.toList).map Text.trimChars := by
    intro n rest
    have hchars : (toString n ++ ", " ++ rest).toList
        = (toString n).toList ++ ',' :: (' ' :: rest.toList) := by
      rw [String.toList_append, String.toList_append, List.append_assoc]
      rfl
    rw [hchars, Text.splitOn_append_cons (hsep n), List.map_cons, Numeric.trimChars_toString,
      Text.map_trimChars_splitOn_cons (by decide) (by decide)]
  induction ns with
  | nil => exact absurd rfl hne
  | cons n ns ih =>
    cases ns with
    | nil =>
      have harguments : Lambda.arguments [n] = toString n := by
        rw [Lambda.arguments, List.map_singleton, Text.join, String.intercalate_singleton]
      rw [harguments, hcons]
      rfl
    | cons m ns =>
      have harguments : Lambda.arguments (n :: m :: ns) ++ ", " ++ color
          = toString n ++ ", " ++ (Lambda.arguments (m :: ns) ++ ", " ++ color) := by
        have hjoin : Lambda.arguments (n :: m :: ns)
            = toString n ++ ", " ++ Lambda.arguments (m :: ns) := String.intercalate_cons_cons
        simp only [hjoin, String.append_assoc]
      rw [harguments, hcons, ih (List.cons_ne_nil _ _)]
      rfl

/-- The numbers of a call are read as the call, whatever arguments stand behind them. -/
theorem drawCall?_numbers {call : DrawCall} (h : call.InRange) (more : List (List Char)) :
    drawCall? call.name (call.numbers.map (fun n => (toString n).toList) ++ more) = some call := by
  have hread := integers?_append h more
  generalize call.numbers.map (fun n => (toString n).toList) ++ more = args at hread ⊢
  cases call with
  | rectangle x y width height filled =>
    have hrectangle : drawCall?.rectangle args filled
        = some (.rectangle x y width height filled) := by
      rw [drawCall?.rectangle, show integers? 4 args = some [x, y, width, height] from hread]
    cases filled <;> exact hrectangle
  | circle cx cy r filled =>
    have hcircle : drawCall?.circle args filled = some (.circle cx cy r filled) := by
      rw [drawCall?.circle, show integers? 3 args = some [cx, cy, r] from hread]
    cases filled <;> exact hcircle
  | line x1 y1 x2 y2 =>
    show drawCall? "line" args = _
    rw [drawCall?, show integers? 4 args = some [x1, y1, x2, y2] from hread]

/-! ## Statements -/

theorem draw?_call {name : String} (hname : '(' ∉ name.toList) (arguments : List Char) :
    draw? ("it.".toList ++ (name.toList ++ '(' :: (arguments ++ [')', ';'])))
      = drawCall? name ((Text.splitOn ',' arguments).map Text.trimChars) := by
  have hclose : Text.splitLast? ')' (arguments ++ [')', ';']) = some (arguments, [';']) :=
    Text.splitLast?_append (by decide) arguments
  rw [draw?, after?_append, Option.bind_eq_bind, Option.bind_some, Text.splitFirst?_append hname,
    Option.bind_eq_bind, Option.bind_some]
  dsimp only
  rw [hclose, Option.bind_some, String.ofList_toList]

/-- **A statement is read back as its call.** -/
theorem classify_statement {call : DrawCall} (h : call.InRange) (color : String) :
    classify (call.statement color) = .draw call := by
  have hnames : ∀ name ∈ DrawCall.names, '(' ∉ name.toList := by decide
  have hname := hnames call.name call.name_mem
  have hne : call.numbers ≠ [] := by
    cases call <;> exact List.cons_ne_nil _ _
  let arguments := (Lambda.arguments call.numbers ++ ", " ++ color).toList
  have hchars : (call.statement color).toList
      = "it.".toList ++ (call.name.toList ++ '(' :: (arguments ++ [')', ';'])) := by
    simp only [DrawCall.statement, Lambda.shape, String.toList_append, List.append_assoc, arguments]
    rfl
  have hhead : (call.statement color).toList.head? = some 'i' := by
    rw [hchars]
    rfl
  have hlast : (call.statement color).toList.getLast? = some ';' := by
    rw [DrawCall.statement, Lambda.shape, String.toList_append,
      List.getLast?_append_of_ne_nil _ (by decide)]
    rfl
  have htrim : Text.trimChars (call.statement color).toList = (call.statement color).toList := by
    refine Text.trimChars_eq_self (fun c hc => ?_) (fun c hc => ?_)
    · cases hhead.symm.trans hc
      decide
    · cases hlast.symm.trans hc
      decide
  rw [classify_of_settles (by decide) (htrim.trans hchars), draw?_call hname, trimmed_arguments hne,
    drawCall?_numbers h]

end Line

end DisplayLayout
