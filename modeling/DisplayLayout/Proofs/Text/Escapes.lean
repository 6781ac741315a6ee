import DisplayLayout.Text.Basic

/-!
# Quotes behind backslashes

In a text between double quotes a backslash takes the next character with it, so
a quote belongs to the text if an odd number of backslashes stands right before
it. This is said without any reader of such texts. Pieces that end in an even
number of backslashes can be put one behind the other (`Enclosed.append`), and a
text that is written character by character is made of such pieces.
-/

namespace DisplayLayout.Text

/-- The number of backslashes at the end of a text. -/
def endSlashes (cs : List Char) : Nat := (cs.reverse.takeWhile (· == '\\')).length

/-- Every quote of a text is escaped. -/
def QuotesEscaped (cs : List Char) : Prop :=
  ∀ front back, cs = front ++ '"' :: back → endSlashes front % 2 = 1

/-- A piece of a text between quotes whose backslashes take characters of the piece only. -/
structure Enclosed (cs : List Char) : Prop where
  even : endSlashes cs % 2 = 0
  quotes : QuotesEscaped cs

/-- Backslashes are told apart behind a text that ends in an even number of them as behind nothing. -/
theorem endSlashes_append {as : List Char} (h : endSlashes as % 2 = 0) (bs : List Char) :
    endSlashes (as ++ bs) % 2 = endSlashes bs % 2 := by
  rw [endSlashes] at h
  rw [endSlashes, endSlashes, List.reverse_append, List.takeWhile_append]
  split
  · next hall =>
    rw [hall, List.length_append]
    omega
  · rfl

theorem Enclosed.nil : Enclosed [] where
  even := rfl
  quotes front back h := absurd h.symm (by simp)

theorem Enclosed.append {as bs : List Char} (ha : Enclosed as) (hb : Enclosed bs) :
    Enclosed (as ++ bs) where
  even := (endSlashes_append ha.even bs).trans hb.even
  quotes front back h := by
    rcases List.append_eq_append_iff.1 h with ⟨inside, rfl, hbs⟩ | ⟨inside, rfl, hback⟩
    · rw [endSlashes_append ha.even]
      exact hb.quotes inside back hbs
    · cases inside with
      | nil =>
        -- a quote that begins the second piece has no backslash before it
        exact absurd (hb.quotes [] back hback.symm) (by decide)
      | cons c inside =>
        cases hback
        exact ha.quotes front inside rfl

theorem Enclosed.flatMap {f : Char → List Char} {cs : List Char} (h : ∀ c ∈ cs, Enclosed (f c)) :
    Enclosed (cs.flatMap f) := by
  induction cs with
  | nil => exact Enclosed.nil
  | cons c cs ih =>
    rw [List.forall_mem_cons] at h
    exact h.1.append (ih h.2)

theorem Enclosed.char {c : Char} (hquote : c ≠ '"') (hslash : c ≠ '\\') : Enclosed [c] where
  even := by simp [endSlashes, hslash]
  quotes front back h := by
    have hmem : '"' ∈ [c] := h ▸ List.mem_append_right front List.mem_cons_self
    exact absurd (List.mem_singleton.1 hmem).symm hquote

theorem Enclosed.chars {cs : List Char} (h : ∀ c ∈ cs, c ≠ '"' ∧ c ≠ '\\') : Enclosed cs := by
  have hflat := Enclosed.flatMap fun c hc => Enclosed.char (h c hc).1 (h c hc).2
  rwa [List.flatMap_singleton'] at hflat

/-- A backslash with the character that it takes. -/
theorem Enclosed.escaped (c : Char) : Enclosed ['\\', c] where
  even := by
    by_cases h : c = '\\'
    · subst h
      rfl
    · simp [endSlashes, h]
  quotes front back h := by
    match front, h with
    | ['\\'], _ => rfl
    | _ :: _ :: _, h => simp at h
    | [], h => simp at h

end DisplayLayout.Text
