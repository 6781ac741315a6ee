import DisplayLayout.Numeric.FloatReader

/-!
# Points in text

A point is written `x,y`. Its numbers may have fractions, which are rounded to
whole pixels.
-/

namespace DisplayLayout.PointList

/-- The pixel of a number, within bounds. -/
def pixel? (lo hi : Int) (cs : List Char) : Option Int :=
  (Numeric.readFloat? (Text.trim (String.ofList cs))).map (·.roundWithin lo hi)

/-- A point; none if a part is missing or no number. -/
def point? (lo hi : Int) (text : String) : Option (Int × Int) := do
  let (x, y) ← Text.splitFirst? ',' text.toList
  return (← pixel? lo hi x, ← pixel? lo hi y)

/-- The points between semicolons, relative to an origin. What is no point is left out. -/
def relativeTo (origin : Int × Int) (text : String) : List (Int × Int) :=
  (Text.splitOn ';' text.toList).filterMap fun piece =>
    (point? Numeric.minInt32 Numeric.maxInt32 (String.ofList piece)).map fun p =>
      (Numeric.clampInt32 (origin.1 + p.1), Numeric.clampInt32 (origin.2 + p.2))

end DisplayLayout.PointList
