import DisplayLayout.Numeric.Hexadecimal
import Mathlib.Data.List.Induction

/-!
# Hexadecimal digits read back

Hexadecimal numerals as their readers need them: digits are read in upper case
as in lower case (`readHex?_upper`), zeros in front do not count, numerals one
behind the other are one numeral (`hexDigits_append`), and as many digits make
a number that is as small (`readHex?_lt`).
-/

namespace DisplayLayout.Numeric

/-! ## Reading -/

theorem readHex?_concat (cs : List Char) (d : Char) :
    readHex? (cs ++ [d]) = (readHex? cs).bind fun n => (hexValue? d).map (16 * n + ·) := by
  simp [readHex?, List.foldlM_append]

/-- Digits are read as a number, and nothing else is. -/
theorem exists_readHex?_iff {cs : List Char} :
    (∃ n, readHex? cs = some n) ↔ ∀ c ∈ cs, isHexDigit c = true := by
  induction cs using List.reverseRecOn with
  | nil => exact ⟨fun _ _ hc => absurd hc List.not_mem_nil, fun _ => ⟨0, rfl⟩⟩
  | append_singleton cs d ih =>
    rw [readHex?_concat, List.forall_mem_append, ← ih, List.forall_mem_singleton]
    constructor
    · rintro ⟨n, hn⟩
      obtain ⟨m, hm, hd⟩ := Option.bind_eq_some_iff.1 hn
      obtain ⟨value, hvalue, -⟩ := Option.map_eq_some_iff.1 hd
      exact ⟨⟨m, hm⟩, Option.isSome_iff_exists.2 ⟨value, hvalue⟩⟩
    · rintro ⟨⟨m, hm⟩, hd⟩
      obtain ⟨value, hvalue⟩ := Option.isSome_iff_exists.1 hd
      exact ⟨16 * m + value, by rw [hm, Option.bind_some, hvalue, Option.map_some]⟩

theorem readHex?_zeros (k : Nat) (cs : List Char) :
    readHex? (List.replicate k '0' ++ cs) = readHex? cs := by
  induction k with
  | zero => rfl
  | succ k ih =>
    rw [List.replicate_succ, List.cons_append]
    exact ih

theorem hexValue?_lt {c : Char} {d : Nat} (h : hexValue? c = some d) : d < 16 := by
  unfold hexValue? at h
  split at h
  · next hdigit =>
    have hcode : c.toNat ≤ '9'.toNat := by
      rw [Char.isDigit, Bool.and_eq_true, decide_eq_true_eq, decide_eq_true_eq] at hdigit
      exact hdigit.2
    have hd := Option.some.inj h
    have hnine : '9'.toNat = 57 := rfl
    have hzero : '0'.toNat = 48 := rfl
    omega
  split at h
  · next hlower =>
    have hcode : c.toNat ≤ 'f'.toNat := hlower.2
    have hd := Option.some.inj h
    have hf : 'f'.toNat = 102 := rfl
    have ha : 'a'.toNat = 97 := rfl
    omega
  split at h
  · next hupper =>
    have hcode : c.toNat ≤ 'F'.toNat := hupper.2
    have hd := Option.some.inj h
    have hf : 'F'.toNat = 70 := rfl
    have ha : 'A'.toNat = 65 := rfl
    omega
  · cases h

/-- A number is no larger than its digits have room for. -/
theorem readHex?_lt {cs : List Char} {n : Nat} (h : readHex? cs = some n) :
    n < Nat.pow 16 cs.length := by
  induction cs using List.reverseRecOn generalizing n with
  | nil =>
    cases h
    exact Nat.one_pos
  | append_singleton cs c ih =>
    rw [readHex?_concat] at h
    obtain ⟨m, hm, hc⟩ := Option.bind_eq_some_iff.1 h
    obtain ⟨d, hd, rfl⟩ := Option.map_eq_some_iff.1 hc
    have hfront := ih hm
    have hlast := hexValue?_lt hd
    rw [List.length_append, List.length_singleton,
      show Nat.pow 16 (cs.length + 1) = 16 * Nat.pow 16 cs.length from Nat.pow_succ']
    omega

/-- Digits are read in upper case as in lower case. -/
theorem readHex?_map_toUpper {cs : List Char}
    (h : ∀ c ∈ cs, hexValue? c.toUpper = hexValue? c) :
    readHex? (cs.map Char.toUpper) = readHex? cs := by
  rw [readHex?, readHex?]
  generalize 0 = acc
  induction cs generalizing acc with
  | nil => rfl
  | cons c cs ih =>
    rw [List.forall_mem_cons] at h
    rw [List.map_cons, List.foldlM_cons, List.foldlM_cons, h.1]
    exact bind_congr fun n => ih h.2 n

/-! ## Digits that are written -/

theorem exists_digitChar_of_mem_hexDigits {c : Char} {width n : Nat} (h : c ∈ hexDigits width n) :
    ∃ d < 16, c = Nat.digitChar d := by
  induction width generalizing n with
  | zero => exact absurd h List.not_mem_nil
  | succ width ih =>
    rw [hexDigits, List.mem_append, List.mem_singleton] at h
    rcases h with h | rfl
    · exact ih h
    · exact ⟨_, Nat.mod_lt _ (by decide), rfl⟩

/-- Digits that were written read back in upper case, too. -/
theorem readHex?_upper (width n : Nat) :
    readHex? ((hexDigits width n).map Char.toUpper) = some (n % Nat.pow 16 width) := by
  have hupper : ∀ d < 16, hexValue? (Nat.digitChar d).toUpper = hexValue? (Nat.digitChar d) := by
    decide
  rw [readHex?_map_toUpper, readHex?_hexDigits]
  intro c hc
  obtain ⟨d, hd, rfl⟩ := exists_digitChar_of_mem_hexDigits hc
  exact hupper d hd

/-- Numerals one behind the other are one numeral. -/
theorem hexDigits_append (width front : Nat) {last : Nat} (h : last < 256) :
    hexDigits width front ++ hexDigits 2 last = hexDigits (width + 2) (256 * front + last) := by
  have hfront : (256 * front + last) / 16 / 16 = front := by omega
  have hfirst : (256 * front + last) / 16 % 16 = last / 16 % 16 := by omega
  have hsecond : (256 * front + last) % 16 = last % 16 := by omega
  simp only [hexDigits, hexDigit, hfront, hfirst, hsecond, List.nil_append, List.append_assoc]

end DisplayLayout.Numeric
