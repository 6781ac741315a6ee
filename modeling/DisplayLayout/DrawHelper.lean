/-!
# Helpers of the display lambda

Functions that the display lambda defines for its widgets. A lambda defines the
ones that its statements call, each once and in a fixed order.
-/

namespace DisplayLayout

/-- A helper. The constructors stand in the order of the definitions. -/
inductive DrawHelper where
  | ditherRect
  | ditherRoundedRect
  | ditherCircle
  | filledRoundedRect
  | roundedRectBorder
deriving DecidableEq, Repr, Inhabited

namespace DrawHelper

/-- All helpers in order. -/
def all : List DrawHelper :=
  [ditherRect, ditherRoundedRect, ditherCircle, filledRoundedRect, roundedRectBorder]

/-- The name under which a helper is called. -/
def name : DrawHelper → String
  | ditherRect => "apply_grey_dither_mask"
  | ditherRoundedRect => "apply_grey_dither_rrect"
  | ditherCircle => "apply_grey_dither_circle"
  | filledRoundedRect => "draw_filled_rrect"
  | roundedRectBorder => "draw_rrect_border"

/-- The test of a pixel against a rounded rectangle, shared by two helpers. -/
def insideRoundedRect : List String :=
  ["  auto inside = [&](int px, int py, int inset) -> bool \x7b",
    "    int ix = x0 + inset, iy = y0 + inset, iw = w - 2 * inset, ih = h - 2 * inset;",
    "    if (iw <= 0 || ih <= 0) return false;",
    "    if (px < ix || py < iy || px >= ix + iw || py >= iy + ih) return false;",
    "    int ir = std::max(0, std::min(r - inset, std::min(iw, ih) / 2));",
    "    int cx = px < ix + ir ? ix + ir : (px >= ix + iw - ir ? ix + iw - ir - 1 : px);",
    "    int cy = py < iy + ir ? iy + ir : (py >= iy + ih - ir ? iy + ih - ir - 1 : py);",
    "    return (px - cx) * (px - cx) + (py - cy) * (py - cy) <= ir * ir;",
    "  \x7d;"]

/-- The definition of a helper. -/
def definition : DrawHelper → List String
  | ditherRect =>
    ["auto apply_grey_dither_mask = [&](int x0, int y0, int w, int h) \x7b",
      "  for (int py = y0; py < y0 + h; py++) \x7b",
      "    for (int px = x0; px < x0 + w; px++) \x7b",
      "      if ((px + py) % 2 == 0) it.draw_pixel_at(px, py, COLOR_BLACK);",
      "    \x7d",
      "  \x7d",
      "\x7d;"]
  | ditherRoundedRect =>
    "auto apply_grey_dither_rrect = [&](int x0, int y0, int w, int h, int r, int band) \x7b"
      :: insideRoundedRect ++
    ["  for (int py = y0; py < y0 + h; py++) \x7b",
      "    for (int px = x0; px < x0 + w; px++) \x7b",
      "      if ((px + py) % 2 != 0 || !inside(px, py, 0)) continue;",
      "      if (band > 0 && inside(px, py, band)) continue;",
      "      it.draw_pixel_at(px, py, COLOR_BLACK);",
      "    \x7d",
      "  \x7d",
      "\x7d;"]
  | ditherCircle =>
    ["auto apply_grey_dither_circle = [&](int cx, int cy, int r, int band) \x7b",
      "  int inner = band > 0 ? r - band : -1;",
      "  for (int py = cy - r; py <= cy + r; py++) \x7b",
      "    for (int px = cx - r; px <= cx + r; px++) \x7b",
      "      int d = (px - cx) * (px - cx) + (py - cy) * (py - cy);",
      "      if ((px + py) % 2 != 0 || d > r * r) continue;",
      "      if (inner >= 0 && d <= inner * inner) continue;",
      "      it.draw_pixel_at(px, py, COLOR_BLACK);",
      "    \x7d",
      "  \x7d",
      "\x7d;"]
  | filledRoundedRect =>
    ["auto draw_filled_rrect = [&](int x0, int y0, int w, int h, int r, Color c) \x7b",
      "  r = std::max(0, std::min(r, std::min(w, h) / 2));",
      "  it.filled_rectangle(x0 + r, y0, w - 2 * r, h, c);",
      "  it.filled_rectangle(x0, y0 + r, r, h - 2 * r, c);",
      "  it.filled_rectangle(x0 + w - r, y0 + r, r, h - 2 * r, c);",
      "  it.filled_circle(x0 + r, y0 + r, r, c);",
      "  it.filled_circle(x0 + w - r - 1, y0 + r, r, c);",
      "  it.filled_circle(x0 + r, y0 + h - r - 1, r, c);",
      "  it.filled_circle(x0 + w - r - 1, y0 + h - r - 1, r, c);",
      "\x7d;"]
  | roundedRectBorder =>
    "auto draw_rrect_border = [&](int x0, int y0, int w, int h, int r, int t, Color c) \x7b"
      :: insideRoundedRect ++
    ["  for (int py = y0; py < y0 + h; py++) \x7b",
      "    for (int px = x0; px < x0 + w; px++) \x7b",
      "      if (inside(px, py, 0) && !inside(px, py, t)) it.draw_pixel_at(px, py, c);",
      "    \x7d",
      "  \x7d",
      "\x7d;"]

/-- The definitions of the helpers among `wanted`, in their fixed order. -/
def prelude (wanted : List DrawHelper) : List String :=
  (all.filter wanted.contains).flatMap definition

end DrawHelper

end DisplayLayout
