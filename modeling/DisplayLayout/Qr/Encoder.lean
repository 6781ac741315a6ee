import DisplayLayout.Text.Basic

/-!
# Encoders of QR symbols

A library of its own turns a text into a symbol. A layout depends on that library
only for the size of the symbol, so everything here is said of any encoder, and
the program names the one that it runs with.
-/

namespace DisplayLayout.Qr

/-- The levels of error correction. -/
inductive Level where
  | low
  | medium
  | quartile
  | high
deriving DecidableEq, Repr, Inhabited

/-- The name of a level. -/
def Level.name : Level → String
  | low => "LOW"
  | medium => "MEDIUM"
  | quartile => "QUARTILE"
  | high => "HIGH"

/-- The level with a name or its first letter; anything else is the lowest. -/
def Level.ofName (text : String) : Level :=
  match Text.upper (Text.trim text) with
  | "MEDIUM" => medium
  | "M" => medium
  | "QUARTILE" => quartile
  | "Q" => quartile
  | "HIGH" => high
  | "H" => high
  | _ => low

/-- An encoder: how many modules the symbol of a text has on each side, if a symbol holds the
text. -/
class Encoder where
  modules? : Level → String → Option Nat

end DisplayLayout.Qr
