import DisplayLayout.Stack
import Mathlib.Algebra.Order.BigOperators.Group.List
import Mathlib.Algebra.Order.Round
import Mathlib.Data.List.Chain
import Mathlib.Data.Rat.Floor
import Mathlib.Tactic.Ring

/-!
# Where the blocks of a stack stand

The beginnings of blocks are prefix sums of what the blocks take up, and the
padding is half of the spare height, rounded away from zero, or none
(`Stack.center_eq_sums`). Blocks without gaps that fit stand in the middle:
one right below the other, with as much space above them as below, or one more.
-/

namespace DisplayLayout

/-- The nearest integer; of two that are equally near, the one further away from zero. -/
def roundAway (x : ℚ) : Int := if 0 ≤ x then round x else -round (-x)

example : roundAway (5 / 2) = 3 ∧ roundAway (-5 / 2) = -3 ∧ roundAway (-7 / 3) = -2 := by
  decide +kernel

theorem round_half (n : Int) : round ((n : ℚ) / 2) = (n + 1) / 2 := by
  have hsum : (n : ℚ) / 2 + 1 / 2 = ((n + 1 : Int) : ℚ) / (2 : ℕ) := by
    push_cast
    ring
  rw [round_eq, hsum, Rat.floor_intCast_div_natCast, Nat.cast_ofNat]

theorem roundAway_half (n : Int) :
    roundAway ((n : ℚ) / 2) = if 0 ≤ n then (n + 1) / 2 else -((-n + 1) / 2) := by
  have hsign : (0 : ℚ) ≤ (n : ℚ) / 2 ↔ 0 ≤ n := by
    rw [le_div_iff₀ two_pos, zero_mul, Int.cast_nonneg_iff]
  simp only [roundAway, hsign, ← neg_div, ← Int.cast_neg, round_half]

namespace Stack

/-! ## Padding -/

/-- What is left over is divided as by rounding away from zero, and nothing is less than none. -/
theorem padding_eq (spare : Int) : padding spare = max 0 (roundAway ((spare : ℚ) / 2)) := by
  rw [roundAway_half, padding]
  split
  · next hpos =>
    rw [if_pos hpos.le, Int.tdiv_eq_ediv_of_nonneg (by omega)]
    omega
  · -- a height that is missing is rounded to one that is missing
    split <;> omega

/-- The padding is half of what is left over, or the next number above. -/
theorem padding_bounds {spare : Int} (h : 0 ≤ spare) :
    0 ≤ 2 * padding spare - spare ∧ 2 * padding spare - spare ≤ 1 := by
  unfold padding
  split
  · rw [Int.tdiv_eq_ediv_of_nonneg (by omega)]
    omega
  · omega

/-! ## Beginnings -/

theorem totalHeight_eq_sum (blocks : List Block) :
    totalHeight blocks = (blocks.map Block.height).sum := by
  rw [totalHeight, List.sum_eq_foldl, List.foldl_map]

end Stack

/-- What a block takes up, until the next one begins. -/
def Block.advance (b : Block) : Int := b.height + b.gapAfter

namespace Stack

@[simp] theorem length_offsetsFrom (cursor : Int) (blocks : List Block) :
    (offsetsFrom cursor blocks).length = blocks.length := by
  induction blocks generalizing cursor with
  | nil => rfl
  | cons b rest ih => rw [offsetsFrom, List.length_cons, ih, List.length_cons]

/-- **A block begins behind all that the blocks before it take up.** -/
theorem getElem?_offsetsFrom (cursor : Int) {blocks : List Block} {i : Nat} (h : i < blocks.length) :
    (offsetsFrom cursor blocks)[i]? = some (cursor + ((blocks.take i).map Block.advance).sum) := by
  induction blocks generalizing cursor i with
  | nil => exact absurd h (Nat.not_lt_zero i)
  | cons b rest ih =>
    cases i with
    | zero => simp [offsetsFrom]
    | succ i =>
      have hnext := ih (cursor + b.height + b.gapAfter) (Nat.lt_of_succ_lt_succ h)
      rw [offsetsFrom, List.getElem?_cons_succ, hnext, List.take_succ_cons, List.map_cons,
        List.sum_cons, Block.advance]
      congr 1
      omega

/-- A block begins where the one before it ends, behind its gap. -/
theorem isChain_offsetsFrom (cursor : Int) (blocks : List Block) :
    ((offsetsFrom cursor blocks).zip blocks).IsChain fun p q => q.1 = p.1 + p.2.advance := by
  induction blocks generalizing cursor with
  | nil => exact .nil
  | cons b rest ih =>
    rw [offsetsFrom, List.zip_cons_cons, List.isChain_cons]
    refine ⟨fun q hq => ?_, ih _⟩
    cases rest with
    | nil => cases hq
    | cons c rest =>
      cases hq
      exact Int.add_assoc _ _ _

/-- The last block ends behind all that the blocks take up. -/
theorem end_offsetsFrom (cursor : Int) (blocks : List Block) :
    ((offsetsFrom cursor blocks).zip blocks).getLast?.elim cursor (fun p => p.1 + p.2.advance)
      = cursor + (blocks.map Block.advance).sum := by
  induction blocks generalizing cursor with
  | nil => exact (Int.add_zero cursor).symm
  | cons b rest ih =>
    have hrest := ih (cursor + b.height + b.gapAfter)
    rw [offsetsFrom, List.zip_cons_cons, List.getLast?_cons, List.map_cons, List.sum_cons,
      ← Int.add_assoc, Block.advance, ← Int.add_assoc cursor, ← hrest]
    cases ((offsetsFrom (cursor + b.height + b.gapAfter) rest).zip rest).getLast? with
    | none => exact (Int.add_assoc _ _ _).symm
    | some q => rfl

/-- Blocks that take up something keep to what they take up together. -/
theorem bounds_offsetsFrom {blocks : List Block} (h : ∀ b ∈ blocks, 0 ≤ b.advance) (cursor : Int) :
    ∀ p ∈ (offsetsFrom cursor blocks).zip blocks,
      cursor ≤ p.1 ∧ p.1 + p.2.advance ≤ cursor + (blocks.map Block.advance).sum := by
  induction blocks generalizing cursor with
  | nil => exact fun p hp => absurd hp List.not_mem_nil
  | cons b rest ih =>
    rw [List.forall_mem_cons] at h
    have hrest := ih h.2 (cursor + b.height + b.gapAfter)
    have hsum : 0 ≤ (rest.map Block.advance).sum :=
      List.sum_nonneg (List.forall_mem_map.2 h.2)
    have hb : 0 ≤ b.height + b.gapAfter := h.1
    rw [offsetsFrom, List.zip_cons_cons, List.forall_mem_cons, List.map_cons, List.sum_cons]
    dsimp only [Block.advance] at hrest hsum ⊢
    refine ⟨⟨Int.le_refl cursor, by omega⟩, fun p hp => ?_⟩
    have := hrest p hp
    omega

/-! ## Blocks without gaps -/

/-- Blocks together with their beginnings. -/
def placed (s : Stack) (blocks : List Block) : List (Int × Block) := s.offsets.zip blocks

/-- The space above the first block. -/
def spaceAbove (s : Stack) (blocks : List Block) : Int :=
  (s.placed blocks).head?.elim s.topPadding Prod.fst

/-- The space below the last block. -/
def spaceBelow (s : Stack) (blocks : List Block) (height : Int) : Int :=
  height - (s.placed blocks).getLast?.elim s.topPadding fun p => p.1 + p.2.height

/-- Blocks that stand on each other in the middle of a height. -/
structure IsCentered (s : Stack) (blocks : List Block) (height : Int) : Prop where
  contiguous : (s.placed blocks).IsChain fun p q => q.1 = p.1 + p.2.height
  inside : ∀ p ∈ s.placed blocks, 0 ≤ p.1 ∧ p.1 + p.2.height ≤ height
  balanced : s.spaceAbove blocks - s.spaceBelow blocks height = 0
    ∨ s.spaceAbove blocks - s.spaceBelow blocks height = 1

theorem topPadding_center (blocks : List Block) (height : Int) :
    (center blocks height).topPadding = padding (height - (blocks.map Block.height).sum) := by
  rw [center, totalHeight_eq_sum]

theorem spaceAbove_center (blocks : List Block) (height : Int) :
    (center blocks height).spaceAbove blocks = (center blocks height).topPadding := by
  cases blocks <;> rfl

section Gapless

variable {blocks : List Block} (hgaps : ∀ b ∈ blocks, b.gapAfter = 0)

include hgaps

theorem advance_of_mem_placed (s : Stack) {p : Int × Block} (hp : p ∈ s.placed blocks) :
    p.2.advance = p.2.height := by
  rw [Block.advance, hgaps p.2 (List.of_mem_zip hp).2, Int.add_zero]

theorem sum_advance : (blocks.map Block.advance).sum = (blocks.map Block.height).sum := by
  congr 1
  refine List.map_congr_left fun b hb => ?_
  rw [Block.advance, hgaps b hb, Int.add_zero]

/-- Below the last block is what neither the padding nor a block takes up. -/
theorem spaceBelow_center (height : Int) :
    (center blocks height).spaceBelow blocks height
      = height - (blocks.map Block.height).sum - (center blocks height).topPadding := by
  have hend : ((center blocks height).placed blocks).getLast?.elim (center blocks height).topPadding
      (fun p => p.1 + p.2.advance)
      = (center blocks height).topPadding + (blocks.map Block.advance).sum := end_offsetsFrom _ blocks
  rw [sum_advance hgaps] at hend
  rw [spaceBelow]
  cases hlast : ((center blocks height).placed blocks).getLast? with
  | none =>
    rw [hlast, Option.elim_none] at hend
    rw [Option.elim_none]
    omega
  | some p =>
    have hp := advance_of_mem_placed hgaps _ (List.mem_of_getLast? hlast)
    rw [hlast, Option.elim_some, hp] at hend
    rw [Option.elim_some]
    omega

/-- **Blocks that fit stand in the middle.** -/
theorem isCentered_center (hheights : ∀ b ∈ blocks, 0 ≤ b.height) {height : Int}
    (hfit : (blocks.map Block.height).sum ≤ height) :
    (center blocks height).IsCentered blocks height := by
  have hadvance : ∀ p ∈ (center blocks height).placed blocks, p.2.advance = p.2.height :=
    fun p hp => advance_of_mem_placed hgaps _ hp
  obtain ⟨hleast, hmost⟩ := padding_bounds (Int.sub_nonneg.2 hfit)
  rw [← topPadding_center] at hleast hmost
  refine ⟨?_, fun p hp => ?_, ?_⟩
  · refine (isChain_offsetsFrom _ blocks).imp_of_mem_imp fun p q hp _ hpq => ?_
    rw [hpq, hadvance p hp]
  · have hnonneg : ∀ b ∈ blocks, 0 ≤ b.advance := fun b hb => by
      rw [Block.advance, hgaps b hb, Int.add_zero]
      exact hheights b hb
    have hbounds := bounds_offsetsFrom hnonneg (center blocks height).topPadding p hp
    rw [sum_advance hgaps, hadvance p hp] at hbounds
    omega
  · rw [spaceAbove_center, spaceBelow_center hgaps]
    omega

end Gapless

/-- **Stacks are centered.** The padding is half of the spare height, rounded away from zero, and no
less than none; a block begins behind the padding and what the blocks before it take up, gaps
included. Blocks without gaps that fit stand in the middle. -/
theorem center_eq_sums (blocks : List Block) (height : Int) :
    (center blocks height).topPadding
        = max 0 (roundAway (((height - (blocks.map Block.height).sum : Int) : ℚ) / 2))
      ∧ (center blocks height).offsets.length = blocks.length
      ∧ (∀ i < blocks.length, (center blocks height).offsets[i]? = some
          ((center blocks height).topPadding + ((blocks.take i).map Block.advance).sum))
      ∧ ((∀ b ∈ blocks, 0 ≤ b.height) → (∀ b ∈ blocks, b.gapAfter = 0) →
          (blocks.map Block.height).sum ≤ height → (center blocks height).IsCentered blocks height) := by
  refine ⟨?_, length_offsetsFrom _ blocks, fun i hi => getElem?_offsetsFrom _ hi, ?_⟩
  · rw [topPadding_center, padding_eq]
  · exact fun hheights hgaps hfit => isCentered_center hgaps hheights hfit

/-- A stack with an odd height left over. -/
theorem center_eq_sums_odd :
    let blocks : List Block := [⟨30, 0⟩, ⟨20, 0⟩]
    (center blocks 61).topPadding = 6 ∧ (center blocks 61).offsets[1]? = some 36
      ∧ (center blocks 61).IsCentered blocks 61 := by
  intro blocks
  obtain ⟨hpadding, -, hoffset, hcentered⟩ := center_eq_sums blocks 61
  exact ⟨hpadding.trans (by decide +kernel), hoffset 1 (by decide), hcentered (by decide) (by decide) (by decide)⟩

end Stack

end DisplayLayout
