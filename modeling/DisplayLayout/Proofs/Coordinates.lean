import DisplayLayout.Proofs.Numeric.Decimal
import DisplayLayout.Proofs.Stack
import DisplayLayout.Proofs.Widget.Border
import DisplayLayout.Widget.Figure

/-!
# Coordinates of 32 bits

Coordinates have 32 bits, and a result with more of them ends the program.
Layouts are computed with integers of any size here, so this module computes
them once more, one operation of 32 bits after the other, and shows where both
agree: on borders if the box lies in the range of coordinates
(`Rect.nested?_eq_some`, `DitherShape.strips?_eq_some`), and on stacks just if
the sums do (`Stack.center?_eq_some_iff`). Figures move their lower right corner
into the range, all but the ellipse (`Figure.corner_eq_finish_iff`).
-/

namespace DisplayLayout

/-! ## Operations -/

namespace Numeric

/-- A result of 32 bits; none if it has more. -/
def narrow? (n : Int) : Option Int := if isInt32 n then some n else none

def add? (a b : Int) : Option Int := narrow? (a + b)

def sub? (a b : Int) : Option Int := narrow? (a - b)

def mul? (a b : Int) : Option Int := narrow? (a * b)

theorem narrow?_eq_some_iff {n m : Int} : narrow? n = some m ↔ isInt32 n = true ∧ m = n := by
  unfold narrow?
  split
  · next h => rw [Option.some.injEq, eq_comm, and_iff_right h]
  · next h => simp [h]

theorem add?_eq_some_iff {a b m : Int} :
    add? a b = some m ↔ isInt32 (a + b) = true ∧ m = a + b := narrow?_eq_some_iff

theorem sub?_eq_some_iff {a b m : Int} :
    sub? a b = some m ↔ isInt32 (a - b) = true ∧ m = a - b := narrow?_eq_some_iff

section Bounds

variable {a b : Int}

theorem add?_eq_some (h : -2147483648 ≤ a + b ∧ a + b ≤ 2147483647) : add? a b = some (a + b) :=
  add?_eq_some_iff.2 ⟨isInt32_iff.2 h, rfl⟩

theorem sub?_eq_some (h : -2147483648 ≤ a - b ∧ a - b ≤ 2147483647) : sub? a b = some (a - b) :=
  sub?_eq_some_iff.2 ⟨isInt32_iff.2 h, rfl⟩

theorem mul?_eq_some (h : -2147483648 ≤ a * b ∧ a * b ≤ 2147483647) : mul? a b = some (a * b) :=
  narrow?_eq_some_iff.2 ⟨isInt32_iff.2 h, rfl⟩

end Bounds

/-- All sums on the way from a start through numbers have 32 bits. -/
def SumsFit (start : Int) : List Int → Prop
  | [] => True
  | n :: ns => isInt32 (start + n) = true ∧ SumsFit (start + n) ns

/-- Numbers that are not negative come closer and closer to their sum. -/
theorem sumsFit_of_nonneg {start : Int} {ns : List Int} (hns : ∀ n ∈ ns, 0 ≤ n)
    (hstart : -2147483648 ≤ start) (hend : start + ns.sum ≤ 2147483647) : SumsFit start ns := by
  induction ns generalizing start with
  | nil => trivial
  | cons n ns ih =>
    obtain ⟨hn, hrest⟩ := List.forall_mem_cons.1 hns
    have hsum := List.sum_nonneg hrest
    rw [List.sum_cons] at hend
    exact ⟨isInt32_iff.2 ⟨by omega, by omega⟩, ih hrest (by omega) (by omega)⟩

end Numeric

open Numeric

/-! ## Borders -/

namespace Rect

/-- A box without a margin, in 32 bits. -/
def inset? (box : Rect) (margin : Int) : Option Rect := do
  let x ← add? box.x margin
  let y ← add? box.y margin
  let w ← sub? box.w (← mul? 2 margin)
  let h ← sub? box.h (← mul? 2 margin)
  return ⟨x, y, w, h⟩

/-- Boxes nested in each other, in 32 bits. -/
def nested? (box : Rect) (border : Int) : Option (List Rect) :=
  (List.range border.toNat).mapM fun (i : Nat) => box.inset? i

/-- A box that lies in the range of coordinates. -/
structure InRange (box : Rect) : Prop where
  left : isInt32 box.x = true
  top : isInt32 box.y = true
  right : isInt32 (box.x + box.w) = true
  bottom : isInt32 (box.y + box.h) = true
  width : isInt32 box.w = true
  height : isInt32 box.h = true

variable {box : Rect} (hbox : box.InRange)

include hbox

/-- The range of a box as inequalities. -/
theorem InRange.bounds :
    (-2147483648 ≤ box.x ∧ box.x + box.w ≤ 2147483647 ∧ box.w ≤ 2147483647)
      ∧ -2147483648 ≤ box.y ∧ box.y + box.h ≤ 2147483647 ∧ box.h ≤ 2147483647 :=
  ⟨⟨(isInt32_iff.1 hbox.left).1, (isInt32_iff.1 hbox.right).2, (isInt32_iff.1 hbox.width).2⟩,
    (isInt32_iff.1 hbox.top).1, (isInt32_iff.1 hbox.bottom).2, (isInt32_iff.1 hbox.height).2⟩

theorem inset?_eq_some {margin : Int} (hmargin : 0 ≤ margin) (hw : 2 * margin ≤ box.w)
    (hh : 2 * margin ≤ box.h) : box.inset? margin = some (box.inset margin) := by
  obtain ⟨⟨hleft, hright, hwidth⟩, htop, hbottom, hheight⟩ := hbox.bounds
  simp only [inset?, add?_eq_some (a := box.x) (b := margin) (by omega),
    add?_eq_some (a := box.y) (b := margin) (by omega),
    mul?_eq_some (a := 2) (b := margin) (by omega),
    sub?_eq_some (a := box.w) (b := 2 * margin) (by omega),
    sub?_eq_some (a := box.h) (b := 2 * margin) (by omega), Option.bind_eq_bind, Option.bind_some]
  rfl

/-- **Outlines that have sides are computed in 32 bits.** -/
theorem nested?_eq_some {border : Int}
    (hsides : ∀ inner ∈ box.nested border, 1 ≤ inner.w ∧ 1 ≤ inner.h) :
    box.nested? border = some (box.nested border) := by
  have hinset : ∀ i ∈ List.range border.toNat,
      box.inset? (i : Nat) = some (box.inset (i : Nat)) := by
    intro i hi
    obtain ⟨hw, hh⟩ := hsides (box.inset i) (List.mem_map.2 ⟨i, hi, rfl⟩)
    unfold inset at hw hh
    dsimp only at hw hh
    exact inset?_eq_some hbox (Int.natCast_nonneg i) (by omega) (by omega)
  exact Text.mapM_eq_pure hinset

end Rect

namespace DitherShape

/-- The strips of the outer band of a box, in 32 bits. -/
def strips? (box : Rect) (band : Int) : Option (List Rect) := do
  let band := fitBand box band
  let inner := max 0 (← sub? box.h (← mul? 2 band))
  let bottom ← sub? (← add? box.y box.h) band
  let ends : List Rect := [⟨box.x, box.y, box.w, band⟩, ⟨box.x, bottom, box.w, band⟩]
  if 0 < inner then
    let below ← add? box.y band
    let right ← sub? (← add? box.x box.w) band
    return ends ++ [⟨box.x, below, band, inner⟩, ⟨right, below, band, inner⟩]
  else return ends

/-- **Strips are computed in 32 bits**, whatever band is asked for. -/
theorem strips?_eq_some {box : Rect} (hbox : box.InRange) (hw : 1 ≤ box.w) (hh : 1 ≤ box.h)
    (band : Int) : strips? box band = some (strips box band) := by
  obtain ⟨⟨hleft, hright, hwidth⟩, htop, hbottom, hheight⟩ := hbox.bounds
  obtain ⟨-, -, hpositive, hroom⟩ := fits_fitBand hw hh band
  unfold strips? strips
  dsimp only
  generalize fitBand box band = b at hpositive hroom ⊢
  simp only [mul?_eq_some (a := 2) (b := b) (by omega),
    sub?_eq_some (a := box.h) (b := 2 * b) (by omega),
    add?_eq_some (a := box.y) (b := box.h) (by omega),
    sub?_eq_some (a := box.y + box.h) (b := b) (by omega), Option.bind_eq_bind, Option.bind_some]
  split
  · simp only [add?_eq_some (a := box.y) (b := b) (by omega),
      add?_eq_some (a := box.x) (b := box.w) (by omega),
      sub?_eq_some (a := box.x + box.w) (b := b) (by omega), Option.bind_some]
    rfl
  · rfl

end DitherShape

/-- **The border of a rectangle in range is computed in 32 bits**, its outlines and its masks. -/
theorem PlainRect.border?_eq_some {v : View} (hbox : v.box.InRange) (hwidth : 1 ≤ v.widget.width)
    (hheight : 1 ≤ v.widget.height) (hborder : 0 < v.int "border_width") :
    v.box.nested? (Shape.borderWidth v) = some (v.box.nested (Shape.borderWidth v))
      ∧ DitherShape.strips? v.box (Shape.borderWidth v)
        = some (DitherShape.strips v.box (Shape.borderWidth v)) :=
  ⟨Rect.nested?_eq_some hbox (Shape.fits_borderWidth hwidth hheight hborder).positive_nested,
    DitherShape.strips?_eq_some hbox hwidth hheight _⟩

/-! ## Stacks -/

namespace Stack

/-- The sum of the heights, in 32 bits. -/
def totalHeight? (blocks : List Block) : Option Int := blocks.foldlM (fun h b => add? h b.height) 0

/-- The space above a stack, in 32 bits. -/
def padding? (spare : Int) : Option Int :=
  if 0 < spare then (add? spare 1).map (Int.tdiv · 2) else some 0

/-- The beginnings of blocks, in 32 bits. Behind the last block one more is computed. -/
def offsetsFrom? (cursor : Int) : List Block → Option (List Int)
  | [] => some []
  | b :: rest => do
    let next ← add? cursor (← add? b.height b.gapAfter)
    return cursor :: (← offsetsFrom? next rest)

/-- Centers blocks in a height, in 32 bits. -/
def center? (blocks : List Block) (height : Int) : Option Stack := do
  let top ← padding? (← sub? height (← totalHeight? blocks))
  return ⟨top, ← offsetsFrom? top blocks⟩

theorem totalHeight?_eq_some_iff {blocks : List Block} {total : Int} :
    totalHeight? blocks = some total
      ↔ SumsFit 0 (blocks.map Block.height) ∧ total = totalHeight blocks := by
  -- The sum is carried along, so any sum may have been reached before the blocks.
  unfold totalHeight? totalHeight
  generalize (0 : Int) = start
  induction blocks generalizing start with
  | nil => simp [SumsFit, eq_comm]
  | cons b rest ih =>
    rw [List.foldlM_cons, List.map_cons, SumsFit, List.foldl_cons, and_assoc, ← ih,
      Option.bind_eq_bind, Option.bind_eq_some_iff]
    simp only [add?_eq_some_iff, and_assoc, exists_and_left, exists_eq_left]

theorem padding?_eq_some_iff {spare top : Int} :
    padding? spare = some top
      ↔ (0 < spare → isInt32 (spare + 1) = true) ∧ top = padding spare := by
  unfold padding? padding
  by_cases h : 0 < spare
  · rw [if_pos h, if_pos h, Option.map_eq_some_iff, forall_prop_of_true h]
    simp only [add?_eq_some_iff, and_assoc, exists_and_left, exists_eq_left]
    exact and_congr_right fun _ => eq_comm
  · rw [if_neg h, if_neg h, Option.some.injEq, eq_comm]
    exact (and_iff_right fun hpos => absurd hpos h).symm

theorem offsetsFrom?_eq_some_iff {cursor : Int} {blocks : List Block} {offsets : List Int} :
    offsetsFrom? cursor blocks = some offsets
      ↔ (∀ b ∈ blocks, isInt32 b.advance = true) ∧ SumsFit cursor (blocks.map Block.advance)
        ∧ offsets = offsetsFrom cursor blocks := by
  induction blocks generalizing cursor offsets with
  | nil =>
    rw [offsetsFrom?, Option.some.injEq, eq_comm]
    exact (and_iff_right (List.forall_mem_nil _)).trans (and_iff_right trivial) |>.symm
  | cons b rest ih =>
    have hnext : cursor + b.height + b.gapAfter = cursor + b.advance := Int.add_assoc _ _ _
    simp only [offsetsFrom?, offsetsFrom, hnext, List.forall_mem_cons, List.map_cons, SumsFit,
      Option.bind_eq_bind, Option.bind_eq_some_iff, Option.pure_def, Option.some.injEq, ih,
      add?_eq_some_iff]
    constructor
    · rintro ⟨step, ⟨hstep, rfl⟩, next, ⟨hsum, rfl⟩, offsets, ⟨hrest, hfit, rfl⟩, rfl⟩
      exact ⟨⟨hstep, hrest⟩, ⟨hsum, hfit⟩, rfl⟩
    · rintro ⟨⟨hstep, hrest⟩, ⟨hsum, hfit⟩, rfl⟩
      exact ⟨_, ⟨hstep, rfl⟩, _, ⟨hsum, rfl⟩, _, ⟨hrest, hfit, rfl⟩, rfl⟩

/-- The sums that centering blocks in a height goes through have 32 bits. -/
structure InRange (blocks : List Block) (height : Int) : Prop where
  heights : SumsFit 0 (blocks.map Block.height)
  spare : isInt32 (height - totalHeight blocks) = true
  rounded : 0 < height - totalHeight blocks → isInt32 (height - totalHeight blocks + 1) = true
  advances : ∀ b ∈ blocks, isInt32 b.advance = true
  offsets : SumsFit (center blocks height).topPadding (blocks.map Block.advance)

/-- **Stacks are centered in 32 bits** just if the sums fit. -/
theorem center?_eq_some_iff {blocks : List Block} {height : Int} {s : Stack} :
    center? blocks height = some s ↔ InRange blocks height ∧ s = center blocks height := by
  simp only [center?, Option.bind_eq_bind, Option.bind_eq_some_iff, Option.pure_def,
    Option.some.injEq, totalHeight?_eq_some_iff, sub?_eq_some_iff, padding?_eq_some_iff,
    offsetsFrom?_eq_some_iff]
  constructor
  · rintro ⟨total, ⟨hheights, rfl⟩, spare, ⟨hspare, rfl⟩, top, ⟨hrounded, rfl⟩, offsets,
      ⟨hadvances, hoffsets, rfl⟩, rfl⟩
    exact ⟨⟨hheights, hspare, hrounded, hadvances, hoffsets⟩, rfl⟩
  · rintro ⟨⟨hheights, hspare, hrounded, hadvances, hoffsets⟩, rfl⟩
    exact ⟨_, ⟨hheights, rfl⟩, _, ⟨hspare, rfl⟩, _, ⟨hrounded, rfl⟩, _,
      ⟨hadvances, hoffsets, rfl⟩, rfl⟩

-- Half of the largest height has 32 bits; rounding it up passes a number that has not.
example : center? [] 2147483647 = none := by decide

/-- **Blocks without gaps that fit are centered in 32 bits**, if there is room for rounding up. -/
theorem center?_of_fits {blocks : List Block} {height : Int}
    (hheights : ∀ b ∈ blocks, 0 ≤ b.height) (hgaps : ∀ b ∈ blocks, b.gapAfter = 0)
    (hfit : (blocks.map Block.height).sum ≤ height) (hround : isInt32 (height + 1) = true) :
    center? blocks height = some (center blocks height) := by
  have hlast := (isInt32_iff.1 hround).2
  have hnonneg : ∀ h ∈ blocks.map Block.height, 0 ≤ h := List.forall_mem_map.2 hheights
  have htotal := List.sum_nonneg hnonneg
  have hadvance : blocks.map Block.advance = blocks.map Block.height :=
    List.map_congr_left fun b hb => by rw [Block.advance, hgaps b hb, Int.add_zero]
  obtain ⟨hleast, hmost⟩ := padding_bounds (Int.sub_nonneg.2 hfit)
  rw [← topPadding_center] at hleast hmost
  refine center?_eq_some_iff.2 ⟨⟨?heights, ?spare, fun _ => ?rounded, fun b hb => ?advances,
    ?offsets⟩, rfl⟩
  case heights => exact sumsFit_of_nonneg hnonneg (by omega) (by omega)
  case spare =>
    rw [totalHeight_eq_sum, isInt32_iff]
    omega
  case rounded =>
    rw [totalHeight_eq_sum, isInt32_iff]
    omega
  case advances =>
    have hb' : b.advance ∈ blocks.map Block.height := hadvance ▸ List.mem_map_of_mem hb
    have hle := List.single_le_sum hnonneg _ hb'
    have hpos := hnonneg _ hb'
    rw [isInt32_iff]
    omega
  case offsets =>
    rw [hadvance]
    exact sumsFit_of_nonneg hnonneg (by omega) (by omega)

end Stack

/-! ## Figures -/

/-- The corner of an ellipse is that of the other figures just if it lies in the range. -/
theorem Figure.corner_eq_finish_iff (v : View) :
    corner v = finish v ↔ isInt32 (v.widget.x + v.widget.width) = true
      ∧ isInt32 (v.widget.y + v.widget.height) = true := by
  have hclamp (n : Int) : n = clampInt32 n ↔ isInt32 n = true :=
    ⟨fun h => h ▸ isInt32_clampInt32 n, fun h => (clampInt32_of_isInt32 h).symm⟩
  simp only [corner, finish, Json.int, Json.number.injEq, Number.int.injEq, List.cons.injEq,
    Prod.mk.injEq, true_and, and_true, hclamp]

end DisplayLayout
