/-!
# Vertical stacks

Blocks that stand on each other, centered in the height of a widget.
-/

namespace DisplayLayout

/-- A block of a stack. The gap moves the next block but does not count for centering. -/
structure Block where
  height : Int
  gapAfter : Int := 0
deriving DecidableEq, Repr

/-- Where the blocks of a stack begin. -/
structure Stack where
  topPadding : Int
  /-- Distances from the upper edge, one for each block. -/
  offsets : List Int
deriving DecidableEq, Repr

namespace Stack

/-- The sum of the heights. -/
def totalHeight (blocks : List Block) : Int := blocks.foldl (fun h b => h + b.height) 0

/-- The beginnings of blocks that are laid out from a position. -/
def offsetsFrom (cursor : Int) : List Block → List Int
  | [] => []
  | b :: rest => cursor :: offsetsFrom (cursor + b.height + b.gapAfter) rest

/-- The space above a stack: half of what is left, rounded up, and none if nothing is left. -/
def padding (spare : Int) : Int := if 0 < spare then Int.tdiv (spare + 1) 2 else 0

/-- Centers blocks in a height. -/
def center (blocks : List Block) (height : Int) : Stack :=
  let top := padding (height - totalHeight blocks)
  ⟨top, offsetsFrom top blocks⟩

end Stack

end DisplayLayout
