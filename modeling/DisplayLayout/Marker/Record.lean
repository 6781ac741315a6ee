import DisplayLayout.Keyed
import DisplayLayout.Marker.Quoted
import DisplayLayout.Marker.Token

/-!
# Marker records

The one-line record `widget:<type> key:value …` that stands above every
generated widget block. Rendering and reading share one encoding of values.
-/

namespace DisplayLayout

/-- A marker: the type tag of a widget and its fields in order. -/
structure Marker where
  type : String
  fields : Keyed String := []
deriving DecidableEq, Repr

namespace Marker

/-- The key that opens every marker. -/
def leadKey : String := "widget"

/-- Sets a field; a repeated key replaces the earlier value in place. -/
def push (m : Marker) (key value : String) : Marker :=
  { m with fields := Keyed.put m.fields key value }

/-- The value of a field. -/
def get? (m : Marker) (key : String) : Option String := Keyed.get? m.fields key

/-- Whether a field is present. -/
def contains (m : Marker) (key : String) : Bool := Keyed.contains m.fields key

/-- One pair as it is written. -/
def renderPair (p : String × String) : String := p.1 ++ ":" ++ encode p.2

/-- The text of a marker, without the comment lead. -/
def render (m : Marker) : String :=
  leadKey ++ ":" ++ m.type ++ String.join (m.fields.map fun p => " " ++ renderPair p)

/-- Whether a quoted value ends its pair here. -/
def atBoundary : List Token → Bool
  | [] => true
  | t :: _ => t.kind.isTrivia

/-- The characters of a key token without its colon. -/
def keyName (t : Token) : String := String.ofList t.lexeme.dropLast

/-- The value that follows a key, and the tokens behind it: a quoted text that
stands alone, or everything up to the next key, trimmed. -/
def valueOf : List Token → String × List Token
  | [] => ("", [])
  | t :: rest =>
    if t.kind = .quoted ∧ atBoundary rest then (unquote (String.ofList t.lexeme), rest)
    else
      let all := t :: rest
      (String.ofList (Text.trimChars ((all.takeWhile (·.kind.isBarePart)).flatMap Token.lexeme)),
        all.dropWhile (·.kind.isBarePart))

theorem valueOf_length (ts : List Token) : (valueOf ts).2.length ≤ ts.length := by
  unfold valueOf
  split
  · simp
  · split
    · simp
    · exact (List.dropWhile_sublist _).length_le

/-- The pairs of a body in order; what stands before the first key is ignored. -/
def pairs : List Token → List (String × String)
  | [] => []
  | t :: rest =>
    if t.kind = .key then (keyName t, (valueOf rest).1) :: pairs (valueOf rest).2
    else pairs rest
termination_by ts => ts.length
decreasing_by
  · have := valueOf_length rest; simp; omega
  · simp

/-- Reads a marker. There is none unless the body's first pair is the lead with
a plain word as the type; of a repeated key the first value counts. -/
def read? (body : String) : Option Marker :=
  match pairs (tokens body.toList) with
  | [] => none
  | (lead, type) :: rest =>
    if lead = leadKey ∧ Text.isWord type.toList then some ⟨type, Keyed.ofPairsFirst rest⟩ else none

/-- Equal up to the order of the fields. -/
def same (m n : Marker) : Bool := m.type == n.type && Keyed.sameEntries m.fields n.fields

end Marker

end DisplayLayout
