import DisplayLayout.Drawing
import DisplayLayout.Ledger
import DisplayLayout.Mode

/-!
# Generation

The state of a run: what has been registered so far, and the statements that
have been drawn since they were last taken.
-/

namespace DisplayLayout

/-- The state of a run. -/
structure Generation where
  mode : Mode
  device : Device
  /-- The theme of the page that is being drawn. -/
  dark : Bool := false
  fonts : Fonts := []
  icons : Icons := []
  ledger : Ledger := Ledger.initial
  triggers : Triggers := []
  helpers : List DrawHelper := []
  lines : List String := []
deriving Repr

namespace Generation

/-- What the current page is drawn on. -/
def surface (g : Generation) : Surface := ⟨g.device, g.dark⟩

/-- Takes in a contribution. -/
def absorb (g : Generation) (d : Drawing) : Generation :=
  { g with
    fonts := d.fonts.foldl Fonts.add g.fonts
    icons := d.glyphs.foldl (fun icons glyph => icons.track glyph.code glyph.size) g.icons
    helpers := d.helpers.foldl (fun hs h => if hs.contains h then hs else hs ++ [h]) g.helpers
    lines := g.lines ++ d.lines }

/-- Takes the statements. -/
def takeLines (g : Generation) : List String × Generation := (g.lines, { g with lines := [] })

/-- The definitions of the helpers that have been called. -/
def prelude (g : Generation) : List String := DrawHelper.prelude g.helpers

/-- The lines of the font section. -/
def fontLines (g : Generation) : List String := g.fonts.manifestLines g.icons

end Generation

end DisplayLayout
