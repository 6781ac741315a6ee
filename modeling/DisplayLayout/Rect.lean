/-!
# Boxes

Axis-parallel boxes of pixels, and the boxes that lie in them: outlines of one
pixel nested in each other make a border.
-/

namespace DisplayLayout

/-- An axis-parallel box. -/
structure Rect where
  x : Int
  y : Int
  w : Int
  h : Int
deriving DecidableEq, Repr, Inhabited

namespace Rect

/-- The shorter side. -/
def shortSide (box : Rect) : Int := min box.w box.h

/-- The center from left to right. -/
def centerX (box : Rect) : Int := box.x + Int.tdiv box.w 2

/-- The center from top to bottom. -/
def centerY (box : Rect) : Int := box.y + Int.tdiv box.h 2

/-- A box without a margin. -/
def inset (box : Rect) (margin : Int) : Rect :=
  ⟨box.x + margin, box.y + margin, box.w - 2 * margin, box.h - 2 * margin⟩

/-- Boxes nested in each other, one pixel apart: their outlines are a border of a width. -/
def nested (box : Rect) (border : Int) : List Rect :=
  (List.range border.toNat).map fun (i : Nat) => box.inset i

theorem length_nested (box : Rect) (border : Int) :
    (box.nested border).length = border.toNat := by
  simp [nested]

theorem mem_nested_iff {box inner : Rect} {border : Int} :
    inner ∈ box.nested border ↔ ∃ i : Int, 0 ≤ i ∧ i < border ∧ inner = box.inset i := by
  simp only [nested, List.mem_map, List.mem_range]
  constructor
  · rintro ⟨i, hi, rfl⟩
    exact ⟨i, Int.natCast_nonneg i, by omega, rfl⟩
  · rintro ⟨i, nonneg, lt, rfl⟩
    exact ⟨i.toNat, by omega, by rw [Int.toNat_of_nonneg nonneg]⟩

end Rect

end DisplayLayout
