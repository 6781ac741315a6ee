/-!
# Hexadecimal digits

Numbers as hexadecimal digits. Digits are read in either case and written in
lower case. Main statement: `readHex?_hexDigits`.
-/

namespace DisplayLayout.Numeric

/-- The value of a hexadecimal digit. -/
def hexValue? (c : Char) : Option Nat :=
  if c.isDigit then some (c.toNat - '0'.toNat)
  else if 'a' ≤ c ∧ c ≤ 'f' then some (c.toNat - 'a'.toNat + 10)
  else if 'A' ≤ c ∧ c ≤ 'F' then some (c.toNat - 'A'.toNat + 10)
  else none

/-- Whether a character is a hexadecimal digit. -/
def isHexDigit (c : Char) : Bool := (hexValue? c).isSome

/-- The number that digits write, the most significant one first; zero without digits. -/
def readHex? (cs : List Char) : Option Nat :=
  cs.foldlM (fun n c => (hexValue? c).map (16 * n + ·)) 0

/-- The last digit of a number. -/
def hexDigit (n : Nat) : Char := Nat.digitChar (n % 16)

/-- The last digits of a number, as many as asked for. -/
def hexDigits : (width : Nat) → Nat → List Char
  | 0, _ => []
  | width + 1, n => hexDigits width (n / 16) ++ [hexDigit n]

theorem hexValue?_hexDigit (n : Nat) : hexValue? (hexDigit n) = some (n % 16) := by
  have digit : ∀ d < 16, hexValue? (Nat.digitChar d) = some d := by decide
  exact digit _ (Nat.mod_lt _ (by decide))

theorem length_hexDigits (width n : Nat) : (hexDigits width n).length = width := by
  induction width generalizing n with
  | zero => rfl
  | succ width ih => rw [hexDigits, List.length_append, ih, List.length_singleton]

/-- **Digits that were written read back as the number,** less what has no room in them. -/
theorem readHex?_hexDigits (width n : Nat) :
    readHex? (hexDigits width n) = some (n % Nat.pow 16 width) := by
  induction width generalizing n with
  | zero => simp [hexDigits, readHex?, Nat.mod_one]
  | succ width ih =>
    have step := ih (n / 16)
    simp only [readHex?] at step
    simp only [readHex?, hexDigits, List.foldlM_append, step, Option.bind_eq_bind, Option.bind_some,
      List.foldlM_cons, List.foldlM_nil, hexValue?_hexDigit, Option.map_some]
    show some _ = some _
    rw [show Nat.pow 16 (width + 1) = 16 * Nat.pow 16 width from Nat.pow_succ', Nat.mod_mul,
      Nat.add_comm]

end DisplayLayout.Numeric
