import DisplayLayout.Proofs.Widget.Painted
import DisplayLayout.Widget.ProgressBar
import Mathlib.Data.Set.Lattice

/-!
# Borders

A border is drawn in one of two ways, as outlines that are nested in each other
or as strips that are masked, and both cover the same pixels: those of the box
that are nearer to one of its edges than the border is wide
(`PlainRect.pixels_border`). The border of a progress bar has its width from the
height of the bar alone, and where the bar is too narrow for it, the two ways
part (`ProgressBar.borders_agree_iff`).

Everything is said of the distance of a pixel from the edges of a box. A pixel
lies in the box if that is not negative, and on its outline if it is zero.
-/

namespace DisplayLayout

/-- A pixel, by its distance from the left and from the top of a display. -/
abbrev Pixel := Int × Int

namespace Rect

/-- The pixels of a box. -/
def pixels (box : Rect) : Set Pixel :=
  {p | box.x ≤ p.1 ∧ p.1 < box.x + box.w ∧ box.y ≤ p.2 ∧ p.2 < box.y + box.h}

/-- The pixels of the four lines around a box, which are its outermost pixels. -/
def outline (box : Rect) : Set Pixel :=
  {p | p ∈ box.pixels
    ∧ (p.1 = box.x ∨ p.1 = box.x + box.w - 1 ∨ p.2 = box.y ∨ p.2 = box.y + box.h - 1)}

/-- How far a pixel lies from the nearest edge of a box; on an edge, that is zero. -/
def distance (box : Rect) (p : Pixel) : Int :=
  min (min (p.1 - box.x) (box.x + box.w - 1 - p.1)) (min (p.2 - box.y) (box.y + box.h - 1 - p.2))

/-- The pixels of a box that are nearer to one of its edges than a band is wide. -/
def margin (box : Rect) (band : Int) : Set Pixel := {p | p ∈ box.pixels ∧ box.distance p < band}

theorem mem_pixels_iff {box : Rect} {p : Pixel} : p ∈ box.pixels ↔ 0 ≤ box.distance p := by
  show _ ∧ _ ↔ _
  unfold distance
  omega

theorem mem_outline_iff {box : Rect} {p : Pixel} : p ∈ box.outline ↔ box.distance p = 0 := by
  show _ ∈ _ ∧ _ ↔ _
  rw [mem_pixels_iff]
  unfold distance
  omega

theorem distance_inset (box : Rect) (m : Int) (p : Pixel) :
    (box.inset m).distance p = box.distance p - m := by
  unfold distance inset
  dsimp only
  omega

/-- **Nested outlines** are a margin: each of them is the pixels at one distance. -/
theorem iUnion_outline_nested (box : Rect) (band : Int) :
    (⋃ inner ∈ box.nested band, inner.outline) = box.margin band := by
  ext p
  simp only [Set.mem_iUnion, exists_prop]
  show _ ↔ _ ∈ _ ∧ _
  rw [mem_pixels_iff]
  constructor
  · rintro ⟨inner, hinner, hp⟩
    obtain ⟨i, nonneg, hlt, rfl⟩ := mem_nested_iff.1 hinner
    rw [mem_outline_iff, distance_inset] at hp
    omega
  · rintro ⟨hinside, hnear⟩
    refine ⟨box.inset (box.distance p), mem_nested_iff.2 ⟨_, hinside, hnear, rfl⟩, ?_⟩
    rw [mem_outline_iff, distance_inset]
    omega

/-- A pixel is at most half a side away from the nearest edge. -/
theorem distance_lt (box : Rect) (p : Pixel) :
    2 * box.distance p < box.w ∧ 2 * box.distance p < box.h := by
  unfold distance
  omega

/-- Every distance that a box has room for is that of a pixel on its diagonal. -/
theorem exists_distance_eq {box : Rect} {d : Int} (hw : 2 * d < box.w) (hh : 2 * d < box.h) :
    ∃ p, box.distance p = d := by
  refine ⟨(box.x + d, box.y + d), ?_⟩
  unfold distance
  dsimp only
  omega

/-- A wider band covers more, unless the narrower one covers the box already. -/
theorem margin_eq_margin_iff {box : Rect} {a b : Int} (hb : 0 ≤ b) (hle : b ≤ a) :
    box.margin a = box.margin b ↔ a = b ∨ box.w ≤ 2 * b ∨ box.h ≤ 2 * b := by
  constructor
  · intro hmargin
    by_contra hroom
    -- The pixel on the diagonal that is just outside of the narrower band.
    obtain ⟨p, hp⟩ : ∃ p, box.distance p = b := exists_distance_eq (by omega) (by omega)
    have hinside : p ∈ box.pixels := mem_pixels_iff.2 (by omega)
    have hwide : p ∈ box.margin a := ⟨hinside, by omega⟩
    rw [hmargin] at hwide
    exact absurd hwide.2 (by omega)
  · intro hroom
    ext p
    apply and_congr_right
    intro _
    have hhalf := box.distance_lt p
    omega

/-- The outlines of a band have sides as long as there is room for the innermost one. -/
theorem positive_nested_iff {box : Rect} {band : Int} (hw : 1 ≤ box.w) (hh : 1 ≤ box.h) :
    (∀ inner ∈ box.nested band, 1 ≤ inner.w ∧ 1 ≤ inner.h)
      ↔ 2 * band ≤ box.w + 1 ∧ 2 * band ≤ box.h + 1 := by
  constructor
  · intro hpositive
    by_cases hband : 0 < band
    · have hinner := hpositive (box.inset (band - 1))
        (mem_nested_iff.2 ⟨band - 1, by omega, by omega, rfl⟩)
      unfold inset at hinner
      dsimp only at hinner
      omega
    · omega
  · rintro ⟨hwidth, hheight⟩ inner hinner
    obtain ⟨i, nonneg, hlt, rfl⟩ := mem_nested_iff.1 hinner
    show 1 ≤ box.w - 2 * i ∧ 1 ≤ box.h - 2 * i
    omega

end Rect

/-! ## Bands -/

/-- A band that a box has room for: both sides are there, and the band is half the shorter one at
most, or else a single pixel. -/
structure Rect.Fits (box : Rect) (band : Int) : Prop where
  width : 1 ≤ box.w
  height : 1 ≤ box.h
  positive : 1 ≤ band
  room : 2 * band ≤ box.w ∧ 2 * band ≤ box.h ∨ band = 1

namespace Rect.Fits

variable {box : Rect} {band : Int} (h : box.Fits band)

include h

/-- The outlines of the border have sides. -/
theorem positive_nested : ∀ inner ∈ box.nested band, 1 ≤ inner.w ∧ 1 ≤ inner.h := by
  obtain ⟨hwidth, hheight, hpositive, hroom⟩ := h
  apply (positive_nested_iff hwidth hheight).2
  omega

/-- A mask takes a band as it is. -/
theorem fitBand_eq : DitherShape.fitBand box band = band := by
  obtain ⟨hwidth, hheight, hpositive, hroom⟩ := h
  unfold DitherShape.fitBand shortSide
  rw [Int.tdiv_eq_ediv_of_nonneg (by omega)]
  omega

/-- The strips of a band: two of the whole width, and two between them if there is a row left. -/
theorem strips_eq : DitherShape.strips box band
    = [⟨box.x, box.y, box.w, band⟩, ⟨box.x, box.y + box.h - band, box.w, band⟩]
      ++ if 2 * band < box.h then
        [⟨box.x, box.y + band, band, box.h - 2 * band⟩,
          ⟨box.x + box.w - band, box.y + band, band, box.h - 2 * band⟩]
      else [] := by
  unfold DitherShape.strips
  rw [h.fitBand_eq]
  dsimp only
  by_cases hinner : 2 * band < box.h
  · rw [if_pos hinner, if_pos (by omega), max_eq_right (by omega)]
  · rw [if_neg hinner, if_neg (by omega)]

theorem positive_strips : ∀ strip ∈ DitherShape.strips box band, 1 ≤ strip.w ∧ 1 ≤ strip.h := by
  rw [h.strips_eq]
  obtain ⟨hwidth, hheight, hpositive, -⟩ := h
  intro strip hstrip
  rcases List.mem_append.1 hstrip with hstrip | hstrip
  · simp only [List.mem_cons, List.not_mem_nil, or_false] at hstrip
    rcases hstrip with rfl | rfl <;> exact ⟨hwidth, hpositive⟩
  · split at hstrip
    · simp only [List.mem_cons, List.not_mem_nil, or_false] at hstrip
      rcases hstrip with rfl | rfl <;> exact ⟨hpositive, by dsimp only; omega⟩
    · exact absurd hstrip List.not_mem_nil

/-- **The strips of a band** are a margin. -/
theorem iUnion_pixels_strips :
    (⋃ strip ∈ DitherShape.strips box band, strip.pixels) = box.margin band := by
  rw [h.strips_eq]
  obtain ⟨hwidth, hheight, hpositive, hroom⟩ := h
  ext p
  have hmargin : p ∈ box.margin band ↔ 0 ≤ box.distance p ∧ box.distance p < band :=
    and_congr_left fun _ => mem_pixels_iff
  have hstrip : ∀ x y w h : Int, p ∈ Rect.pixels ⟨x, y, w, h⟩
      ↔ x ≤ p.1 ∧ p.1 < x + w ∧ y ≤ p.2 ∧ p.2 < y + h := fun _ _ _ _ => Iff.rfl
  rw [hmargin, distance]
  simp only [Set.mem_iUnion, exists_prop]
  -- Where no row is left between the strips at the top and at the bottom, these two are all.
  by_cases hinner : 2 * band < box.h
  · simp only [if_pos hinner, List.cons_append, List.nil_append, List.exists_mem_cons_iff,
      List.not_mem_nil, false_and, exists_false, or_false, hstrip]
    omega
  · simp only [if_neg hinner, List.append_nil, List.exists_mem_cons_iff, List.not_mem_nil,
      false_and, exists_false, or_false, hstrip]
    omega

/-- No pixel is masked twice, where a mask twice over a side of one pixel is excluded. -/
theorem disjoint_strips (hw : 2 ≤ box.w) (hh : 2 ≤ box.h) :
    (DitherShape.strips box band).Pairwise fun a b => a.pixels ∩ b.pixels = ∅ := by
  have hapart : ∀ {a b : Rect}, a.x + a.w ≤ b.x ∨ a.y + a.h ≤ b.y ∨ b.y + b.h ≤ a.y →
      a.pixels ∩ b.pixels = ∅ := by
    intro a b hab
    rw [Set.eq_empty_iff_forall_notMem]
    rintro p ⟨⟨_, _, _, _⟩, ⟨_, _, _, _⟩⟩
    omega
  rw [h.strips_eq]
  obtain ⟨hwidth, hheight, hpositive, hroom⟩ := h
  split
  · simp only [List.cons_append, List.nil_append, List.pairwise_cons, List.mem_cons,
      List.not_mem_nil, or_false, forall_eq_or_imp, forall_eq, false_implies, implies_true,
      List.Pairwise.nil, and_true]
    refine ⟨⟨hapart ?_, hapart ?_, hapart ?_⟩, ⟨hapart ?_, hapart ?_⟩, hapart ?_⟩
    all_goals dsimp only; omega
  · simp only [List.append_nil, List.pairwise_cons, List.mem_cons, List.not_mem_nil, or_false,
      forall_eq, false_implies, implies_true, List.Pairwise.nil, and_true]
    exact hapart (by dsimp only; omega)

end Rect.Fits

/-- A box of any size has room for the band that a mask takes. -/
theorem DitherShape.fits_fitBand {box : Rect} (hw : 1 ≤ box.w) (hh : 1 ≤ box.h) (band : Int) :
    box.Fits (fitBand box band) := by
  have hhalf : fitBand box band = max 1 (min band (max 1 (min box.w box.h / 2))) := by
    unfold fitBand Rect.shortSide
    rw [Int.tdiv_eq_ediv_of_nonneg (by omega)]
  refine ⟨hw, hh, ?_, ?_⟩
  · omega
  · omega

/-- The strips of a band are those of the band that a mask takes instead. -/
theorem DitherShape.strips_fitBand {box : Rect} (hw : 1 ≤ box.w) (hh : 1 ≤ box.h) (band : Int) :
    strips box (fitBand box band) = strips box band := by
  have hfitted := (fits_fitBand hw hh band).fitBand_eq
  unfold strips
  rw [hfitted]

/-! ## Borders of rectangles -/

open Shape

theorem Shape.fits_borderWidth {v : View} (hwidth : 1 ≤ v.widget.width)
    (hheight : 1 ≤ v.widget.height) (hborder : 0 < v.int "border_width") :
    v.box.Fits (borderWidth v) := by
  have hclamped : 0 < v.int32 "border_width" := by
    unfold View.int32 Numeric.clampInt32 Numeric.minInt32 Numeric.maxInt32
    omega
  have hroom : borderWidth v = min (v.int32 "border_width") (max 1 (min v.box.w v.box.h / 2)) := by
    unfold borderWidth Rect.shortSide
    rw [Int.tdiv_eq_ediv_of_nonneg]
    · omega
    · show 0 ≤ min v.widget.width v.widget.height
      omega
  refine ⟨hwidth, hheight, ?_, ?_⟩
  · omega
  · omega

namespace PlainRect

/-- The statements that draw the inside of a rectangle. -/
def insideLines (v : View) (s : Surface) : List String :=
  if isFilled v then
    (painted v s "color" (.rect v.box) fun color => .line (Lambda.fillRect v.box color)).lines
  else []

/-- The border of a rectangle stands behind its inside. -/
theorem lines_direct {v : View} (s : Surface) (hborder : 1 ≤ borderWidth v) :
    (direct v s).lines = insideLines v s
      ++ (painted v s "border_color" (.rectBand v.box (borderWidth v)) fun color =>
          .ofLines (Lambda.outlineBorder v.box (borderWidth v) color)).lines := by
  have hwidth : borderWidth v ≠ 0 := by omega
  refine (lines_fillThenBorder v (borderWidth v) _ _).trans ?_
  rw [if_neg hwidth]
  rfl

/-- **The border of a rectangle covers the same pixels in either way.** Its outlines and its masks are
the pixels of the box that are nearer to an edge than the border is wide; every one of them has
sides, and no two masks share a pixel unless a side of the box is a single one. They are what is
drawn behind the inside: the masks if the color of the border is masked, and the outlines if not. -/
theorem pixels_border {v : View} (hwidth : 1 ≤ v.widget.width) (hheight : 1 ≤ v.widget.height)
    (hborder : 0 < v.int "border_width") :
    let band := borderWidth v
    let outlines := v.box.nested band
    let masks := DitherShape.strips v.box band
    (⋃ box ∈ outlines, box.outline) = v.box.margin band
      ∧ (⋃ box ∈ masks, box.pixels) = v.box.margin band
      ∧ (∀ box ∈ outlines ++ masks, 1 ≤ box.w ∧ 1 ≤ box.h)
      ∧ (2 ≤ v.widget.width → 2 ≤ v.widget.height →
          masks.Pairwise fun a b => a.pixels ∩ b.pixels = ∅)
      ∧ ∀ s : Surface,
          (s.Masks (v.text "border_color") →
            (direct v s).lines = insideLines v s ++ masks.map DitherShape.maskStatement)
          ∧ (¬ s.Masks (v.text "border_color") →
            (direct v s).lines = insideLines v s
              ++ outlines.map (Lambda.outlineRect · (s.direct (v.text "border_color")))) := by
  intro band outlines masks
  have hfits := fits_borderWidth hwidth hheight hborder
  refine ⟨v.box.iUnion_outline_nested band, hfits.iUnion_pixels_strips,
    List.forall_mem_append.2 ⟨hfits.positive_nested, hfits.positive_strips⟩, hfits.disjoint_strips,
    fun s => ⟨fun hmasks => ?_, fun hmasks => ?_⟩⟩
  · rw [lines_direct s hfits.positive,
      lines_painted_of_masks (Surface.paint_eq_dither_iff.2 hmasks)]
    rfl
  · have hpaint : s.paint (v.text "border_color") = .solid (s.direct (v.text "border_color")) :=
      (s.paint_cases _).resolve_left fun h => hmasks (Surface.paint_eq_dither_iff.1 h)
    rw [lines_direct s hfits.positive, lines_painted_of_solid hpaint]
    rfl

/-- A box of a single column, whose border is asked to be wider. -/
theorem pixels_border_column :
    let w : Widget :=
      { type := "shape_rect", x := 3, y := 4, width := 1, height := 20,
        props := [("border_width", .number (.int 5))] }
    let v : View := ⟨w, table⟩
    (1 ≤ v.widget.width ∧ 1 ≤ v.widget.height ∧ 0 < v.int "border_width")
      ∧ (⋃ box ∈ v.box.nested (borderWidth v), box.outline)
        = ⋃ box ∈ DitherShape.strips v.box (borderWidth v), box.pixels := by
  intro w v
  have hwidth : 1 ≤ v.widget.width := by decide
  have hheight : 1 ≤ v.widget.height := by decide
  have hborder : 0 < v.int "border_width" := by decide
  obtain ⟨houtlines, hmasks, -⟩ := pixels_border hwidth hheight hborder
  exact ⟨⟨hwidth, hheight, hborder⟩, houtlines.trans hmasks.symm⟩

end PlainRect

/-! ## Borders of progress bars -/

namespace ProgressBar

variable (v : View)

theorem one_le_height_barBox : 1 ≤ (barBox v).h := by
  unfold barBox
  dsimp only
  omega

/-- The border of a bar takes at most half its height. -/
theorem border_bounds : 0 ≤ border v ∧ 2 * border v ≤ (barBox v).h := by
  have hheight := one_le_height_barBox v
  have hhalf : Int.tdiv (barBox v).h 2 = (barBox v).h / 2 :=
    Int.tdiv_eq_ediv_of_nonneg (by omega)
  unfold border
  rw [hhalf]
  omega

/-- The boxes that are outlined for the border of a bar. -/
def outlineBoxes : List Rect := (barBox v).nested (border v)

/-- The boxes that are masked for the border of a bar. -/
def maskBoxes : List Rect :=
  if 0 < border v then DitherShape.strips (barBox v) (border v) else []

/-- The rows of the border: the masks if its color is masked, and the outlines if not. -/
def borderRows (s : Surface) : List String :=
  match s.paint (v.text "color") with
  | .dither => (maskBoxes v).map fun box => Lambda.indent (DitherShape.maskStatement box)
  | .solid color =>
    (outlineBoxes v).map fun box => Lambda.indent (Lambda.outlineRect box color)

theorem lines_borderDrawing (s : Surface) : (borderDrawing v s).lines = borderRows v s := by
  unfold borderDrawing borderRows maskBoxes
  cases s.paint (v.text "color") with
  | solid color => exact List.map_map
  | dither =>
    by_cases hborder : 0 < border v
    · rw [if_pos hborder, if_pos hborder]
      exact List.map_map
    · rw [if_neg hborder, if_neg hborder]
      rfl

/-- The rows of the border stand between what is computed and written first and the filled part. -/
theorem exists_lines_direct (s : Surface) :
    ∃ front back, (direct v s).lines = front ++ borderRows v s ++ back := by
  rw [← lines_borderDrawing]
  exact ⟨_, _, List.append_assoc (_ ++ (borderDrawing v s).lines) (fillDrawing v s).lines ["\x7d"]⟩

variable {v}

/-- The band that is masked for a border: the border itself unless the bar is too narrow for it. -/
theorem fitBand_border (hwidth : 1 ≤ v.widget.width) (hborder : 0 < border v) :
    DitherShape.fitBand (barBox v) (border v) = min (border v) (max 1 (v.widget.width / 2)) := by
  obtain ⟨-, hheight⟩ := border_bounds v
  have hw : (barBox v).w = v.widget.width := rfl
  unfold DitherShape.fitBand Rect.shortSide
  rw [hw, Int.tdiv_eq_ediv_of_nonneg (by omega)]
  omega

theorem positive_maskBoxes (hwidth : 1 ≤ v.widget.width) :
    ∀ box ∈ maskBoxes v, 1 ≤ box.w ∧ 1 ≤ box.h := by
  intro box hbox
  unfold maskBoxes at hbox
  split at hbox
  · rw [← DitherShape.strips_fitBand hwidth (one_le_height_barBox v)] at hbox
    exact (DitherShape.fits_fitBand hwidth (one_le_height_barBox v) _).positive_strips box hbox
  · exact absurd hbox List.not_mem_nil

/-- What is masked for a border is the margin of the band that has room. -/
theorem iUnion_pixels_maskBoxes (hwidth : 1 ≤ v.widget.width) :
    (⋃ box ∈ maskBoxes v, box.pixels)
      = (barBox v).margin (min (border v) (max 1 (v.widget.width / 2))) := by
  unfold maskBoxes
  by_cases hborder : 0 < border v
  · have hheight := one_le_height_barBox v
    rw [if_pos hborder, ← DitherShape.strips_fitBand hwidth hheight,
      (DitherShape.fits_fitBand hwidth hheight _).iUnion_pixels_strips,
      fitBand_border hwidth hborder]
  · have hempty : (barBox v).margin (min (border v) (max 1 (v.widget.width / 2))) = ∅ := by
      rw [Set.eq_empty_iff_forall_notMem]
      rintro p ⟨hinside, hnear⟩
      have hnonneg := Rect.mem_pixels_iff.1 hinside
      omega
    rw [if_neg hborder, hempty]
    simp

/-- **The two ways to draw the border of a progress bar agree exactly where the bar has room for
it.** Masks always have sides, as they are fitted to both sides of the bar. Outlines are fitted to
its height alone: all of them have sides if and only if twice the border is at most one pixel more
than the width. Beyond half the width, the masks leave the middle column of a bar of an odd width
open, and the outlines cover it. -/
theorem borders_agree_iff (hwidth : 1 ≤ v.widget.width) :
    (∀ box ∈ maskBoxes v, 1 ≤ box.w ∧ 1 ≤ box.h)
      ∧ ((∀ box ∈ outlineBoxes v, 1 ≤ box.w ∧ 1 ≤ box.h) ↔ 2 * border v ≤ v.widget.width + 1)
      ∧ ((⋃ box ∈ outlineBoxes v, box.outline) = ⋃ box ∈ maskBoxes v, box.pixels
          ↔ 2 * border v ≤ v.widget.width ∨ 2 ∣ v.widget.width ∨ v.widget.width = 1)
      ∧ ∀ s : Surface,
          (∃ front back, (direct v s).lines = front ++ borderRows v s ++ back)
          ∧ (s.Masks (v.text "color") → borderRows v s
              = (maskBoxes v).map fun box => Lambda.indent (DitherShape.maskStatement box))
          ∧ (¬ s.Masks (v.text "color") → borderRows v s
              = (outlineBoxes v).map fun box =>
                  Lambda.indent (Lambda.outlineRect box (s.direct (v.text "color")))) := by
  have hbounds := border_bounds v
  have hw : (barBox v).w = v.widget.width := rfl
  refine ⟨positive_maskBoxes hwidth, ?_, ?_, fun s => ⟨exists_lines_direct v s, ?_, ?_⟩⟩
  · rw [outlineBoxes, Rect.positive_nested_iff hwidth (one_le_height_barBox v), hw]
    omega
  · rw [outlineBoxes, Rect.iUnion_outline_nested, iUnion_pixels_maskBoxes hwidth,
      Rect.margin_eq_margin_iff (by omega) (by omega), hw]
    omega
  · intro hmasks
    rw [borderRows, Surface.paint_eq_dither_iff.2 hmasks]
  · intro hmasks
    have hpaint : s.paint (v.text "color") = .solid (s.direct (v.text "color")) :=
      (s.paint_cases _).resolve_left fun h => hmasks (Surface.paint_eq_dither_iff.1 h)
    rw [borderRows, hpaint]

/-- A bar of an odd width that has just room for its border. -/
theorem borders_agree_thick :
    let w : Widget :=
      { type := "progress_bar", width := 11, height := 60,
        props := [("bar_height", .number (.int 30)), ("border_width", .number (.int 5))] }
    let v : View := ⟨w, table⟩
    1 ≤ v.widget.width ∧ border v = 5
      ∧ (∀ box ∈ outlineBoxes v, 1 ≤ box.w ∧ 1 ≤ box.h)
      ∧ (⋃ box ∈ outlineBoxes v, box.outline) = ⋃ box ∈ maskBoxes v, box.pixels := by
  intro w v
  have hwidth : 1 ≤ v.widget.width := by decide
  have hborder : border v = 5 := by decide
  obtain ⟨-, hsides, hpixels, -⟩ := borders_agree_iff hwidth
  refine ⟨hwidth, hborder, hsides.2 ?_, hpixels.2 (Or.inl ?_)⟩
  · rw [hborder]
    decide
  · rw [hborder]
    decide

/-- A bar that is narrower than its border is thick: an outline without sides, and a column that is
outlined but not masked. -/
theorem exists_sideless_outline :
    ∃ v : View, v.table = table ∧ 1 ≤ v.widget.width ∧ 1 ≤ v.widget.height
      ∧ (∃ box ∈ outlineBoxes v, box.w < 1)
      ∧ (⋃ box ∈ outlineBoxes v, box.outline) ≠ ⋃ box ∈ maskBoxes v, box.pixels := by
  let w : Widget :=
    { type := "progress_bar", width := 3, height := 40,
      props := [("border_width", .number (.int 5))] }
  let v : View := ⟨w, table⟩
  have hborder : border v = 5 := by decide
  refine ⟨v, rfl, by decide, by decide, ⟨(barBox v).inset 2, ?_, by decide⟩, ?_⟩
  · rw [outlineBoxes, hborder]
    exact Rect.mem_nested_iff.2 ⟨2, by decide, by decide, rfl⟩
  · rw [outlineBoxes, Rect.iUnion_outline_nested, iUnion_pixels_maskBoxes (by decide), ne_eq,
      hborder, Rect.margin_eq_margin_iff (by decide) (by decide)]
    decide

end ProgressBar

end DisplayLayout
