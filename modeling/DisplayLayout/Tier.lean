import DisplayLayout.Icon
import DisplayLayout.Json.Basic

/-!
# Tiers

Icons that depend on a reading. A table is searched from its top, and the first
tier whose test holds is shown. The chains of the display lambda and of the
widget tree, the template of the drawing protocols and the glyphs that a font
needs all come from the same table.
-/

namespace DisplayLayout

/-- A test of a reading. -/
inductive TierTest where
  /-- The reading is a number of at least `n`. -/
  | atLeast (n : Int)
  /-- The reading is this word. -/
  | state (s : String)
deriving DecidableEq, Repr

/-- An icon by its codepoint and by its name. -/
structure Tier where
  code : String
  name : String
deriving DecidableEq, Repr, Inhabited

/-- Tiers with their tests, and the one that is left when no test holds. -/
structure TierTable where
  tiers : List (TierTest × Tier)
  fallback : Tier

namespace Tier

/-- Charge in percent. -/
def battery : TierTable where
  tiers :=
    [(.atLeast 95, ⟨"F0079", "battery"⟩),
      (.atLeast 85, ⟨"F0082", "battery-90"⟩),
      (.atLeast 75, ⟨"F0081", "battery-80"⟩),
      (.atLeast 65, ⟨"F0080", "battery-70"⟩),
      (.atLeast 55, ⟨"F007F", "battery-60"⟩),
      (.atLeast 45, ⟨"F007E", "battery-50"⟩),
      (.atLeast 35, ⟨"F007D", "battery-40"⟩),
      (.atLeast 25, ⟨"F007C", "battery-30"⟩),
      (.atLeast 15, ⟨"F007B", "battery-20"⟩),
      (.atLeast 5, ⟨"F007A", "battery-10"⟩)]
  fallback := ⟨"F0083", "battery-alert"⟩

/-- Signal strength in decibels. -/
def wifi : TierTable where
  tiers :=
    [(.atLeast (-50), ⟨"F0928", "wifi-strength-4"⟩),
      (.atLeast (-60), ⟨"F0925", "wifi-strength-3"⟩),
      (.atLeast (-75), ⟨"F0922", "wifi-strength-2"⟩),
      (.atLeast (-100), ⟨"F091F", "wifi-strength-1"⟩)]
  fallback := ⟨"F092B", "wifi-strength-alert-outline"⟩

/-- Weather conditions. -/
def weather : TierTable where
  tiers :=
    [(.state "clear-night", ⟨"F0594", "weather-night"⟩),
      (.state "cloudy", ⟨"F0590", "weather-cloudy"⟩),
      (.state "exceptional", ⟨"F0026", "alert"⟩),
      (.state "fog", ⟨"F0591", "weather-fog"⟩),
      (.state "hail", ⟨"F0592", "weather-hail"⟩),
      (.state "lightning", ⟨"F0593", "weather-lightning"⟩),
      (.state "lightning-rainy", ⟨"F067E", "weather-lightning-rainy"⟩),
      (.state "partlycloudy", ⟨"F0595", "weather-partly-cloudy"⟩),
      (.state "pouring", ⟨"F0596", "weather-pouring"⟩),
      (.state "rainy", ⟨"F0597", "weather-rainy"⟩),
      (.state "snowy", ⟨"F0598", "weather-snowy"⟩),
      (.state "snowy-rainy", ⟨"F067F", "weather-snowy-rainy"⟩),
      (.state "sunny", ⟨"F0599", "weather-sunny"⟩),
      (.state "windy", ⟨"F059D", "weather-windy"⟩),
      (.state "windy-variant", ⟨"F059E", "weather-windy-variant"⟩)]
  fallback := ⟨"F0599", "weather-sunny"⟩

end Tier

namespace TierTable

/-- The first tier whose test holds. -/
def select (t : TierTable) (holds : TierTest → Bool) : Tier :=
  match t.tiers.find? fun p => holds p.1 with
  | some (_, tier) => tier
  | none => t.fallback

/-- Whether a number is at least an integer: the integer below it is. -/
def reaches (level : Numeric.Binary64) (n : Int) : Bool :=
  match level with
  | .nan => false
  | .infinite negative => !negative
  | .finite .. => (level.floor?.map fun m => decide (n ≤ m)).getD false

/-- The tier of a level. -/
def selectLevel (t : TierTable) (level : Numeric.Binary64) : Tier :=
  t.select fun
    | .atLeast n => reaches level n
    | .state _ => false

/-- The tier of a state. -/
def selectState (t : TierTable) (value : String) : Tier :=
  t.select fun
    | .atLeast _ => false
    | .state s => s == value

/-- Every codepoint that a table can select, once, the fallback last. -/
def codes (t : TierTable) : List String :=
  (t.tiers.map (·.2.code) ++ [t.fallback.code]).foldl
    (fun seen code => if seen.contains code then seen else seen ++ [code]) []

/-- The name of a codepoint, in any case of letters. -/
def nameOf? (t : TierTable) (code : String) : Option String :=
  ((t.tiers.map Prod.snd ++ [t.fallback]).find? fun tier =>
    Text.lower tier.code == Text.lower code).map Tier.name

/-- A test in the display lambda. -/
def cppTest (subject : String) : TierTest → String
  | .atLeast n => s!"{subject} >= {n}"
  | .state s => subject ++ " == \"" ++ s ++ "\""

/-- A test in a template. -/
def templateTest (subject : String) : TierTest → String
  | .atLeast n => s!"{subject} >= {n}"
  | .state s => subject ++ " == '" ++ s ++ "'"

/-- Puts one lead before the first of a list and another one before all others. -/
def leads {α : Type} (first other : String) (xs : List α) : List (String × α) :=
  match xs with
  | [] => []
  | x :: rest => (first, x) :: rest.map fun y => (other, y)

/-- A glyph as a literal. -/
def literal (tier : Tier) : String := "\"" ++ Icon.escape tier.code ++ "\""

/-- Statements that assign the glyph to a variable. -/
def assignChain (t : TierTable) (subject target : String) : List String :=
  ((leads "if" "else if" t.tiers).map fun (lead, test, tier) =>
    lead ++ " (" ++ cppTest subject test ++ ") " ++ target ++ " = " ++ literal tier ++ ";")
  ++ ["else " ++ target ++ " = " ++ literal t.fallback ++ ";"]

/-- Statements that return the glyph. -/
def returnChain (t : TierTable) (subject : String) : List String :=
  (t.tiers.map fun (test, tier) =>
    "if (" ++ cppTest subject test ++ ") return " ++ literal tier ++ ";")
  ++ ["return " ++ literal t.fallback ++ ";"]

/-- A template that writes the name of the icon. -/
def template (t : TierTable) (value : String) : String :=
  "\x7b% set v = " ++ value ++ " %\x7d"
  ++ String.join ((leads "if" "elif" t.tiers).map fun (lead, test, tier) =>
    "\x7b% " ++ lead ++ " " ++ templateTest "v" test ++ " %\x7d" ++ tier.name)
  ++ "\x7b% else %\x7d" ++ t.fallback.name ++ "\x7b% endif %\x7d"

end TierTable

end DisplayLayout
