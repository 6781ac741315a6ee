import DisplayLayout.Proofs.Icon
import DisplayLayout.Proofs.Line.Quiet

/-!
# Scanning code

A line of code as a compiler takes it: characters of code and literals, up to a
comment. What the braces of a line do to the depth of nested blocks, which texts
it draws and which helpers it calls, and which glyphs its literals name is said
about its pieces.

A text that stands in a line is read on its own if it ends neither in a literal
nor in a comment (`exists_reads`), and more braces around a line only
add to its depth (`depth_add`).
-/

namespace DisplayLayout.Lambda

/-! ## Pieces of a line -/

/-- A piece of a line. -/
inductive Piece where
  | code (c : Char)
  /-- A literal, as it is written between its quotes. -/
  | literal (text : List Char)
deriving DecidableEq, Repr

mutual

/-- Reads code up to a comment or the end of the line. -/
def readCode : List Char → Option (List Piece)
  | [] => some []
  | '"' :: cs => (readLiteral cs).map fun p => .literal p.1 :: p.2
  | '/' :: '/' :: _ => some []
  | c :: cs => (readCode cs).map (.code c :: ·)

/-- Reads a literal, in which a backslash takes the next character, and the code behind it. -/
def readLiteral : List Char → Option (List Char × List Piece)
  | [] => none
  | '"' :: cs => (readCode cs).map ([], ·)
  | '\\' :: c :: cs => (readLiteral cs).map fun p => ('\\' :: c :: p.1, p.2)
  | c :: cs => (readLiteral cs).map fun p => (c :: p.1, p.2)

end

/-- The pieces of a line; none if a literal does not end on it. -/
def scan (line : String) : Option (List Piece) := readCode line.toList

/-- The literals among pieces. -/
def literals (pieces : List Piece) : List (List Char) :=
  pieces.filterMap fun
    | .literal text => some text
    | .code _ => none

/-! ## Blocks -/

/-- The depth behind pieces of code; none if a block is closed that has not been opened. -/
def depth : Nat → List Piece → Option Nat
  | d, [] => some d
  | d, .code '{' :: pieces => depth (d + 1) pieces
  | 0, .code '}' :: _ => none
  | d + 1, .code '}' :: pieces => depth d pieces
  | d, _ :: pieces => depth d pieces

/-- The depth behind lines; none if a line cannot be read or closes too much. -/
def nest : Nat → List String → Option Nat
  | d, [] => some d
  | d, line :: lines => ((scan line).bind (depth d)).bind fun e => nest e lines

/-! ## Glyphs -/

/-- The escapes of codepoints in a literal; none where the digits are missing. -/
def glyphEscapes : List Char → List (Option Nat)
  | [] => []
  | '\\' :: 'U' :: cs => Icon.codepoint? ('\\' :: 'U' :: cs.take 8) :: glyphEscapes cs
  | '\\' :: _ :: cs => glyphEscapes cs
  | _ :: cs => glyphEscapes cs

/-! ## Text calls -/

/-- A call that draws a text: the font that it is given, and all literals behind its name. -/
structure TextCall where
  font? : Option String
  literals : List (List Char)
deriving DecidableEq, Repr

/-- The names of the calls that draw texts. -/
def textCallNames : List String := ["it.print", "it.printf", "it.strftime"]

/-- What follows an argument and its comma. -/
def skipArgument : (depth : Nat) → List Piece → Option (List Piece)
  | _, [] => none
  | 0, .code ',' :: pieces => some pieces
  | 0, .code ')' :: _ => none
  | d + 1, .code ')' :: pieces => skipArgument d pieces
  | d, .code '(' :: pieces => skipArgument (d + 1) pieces
  | d, _ :: pieces => skipArgument d pieces

/-- The code up to the next literal. -/
def leadingCode : List Piece → List Char
  | .code c :: pieces => c :: leadingCode pieces
  | _ => []

/-- A word in parentheses behind `id`. -/
def idArgument? (cs : List Char) : Option String :=
  match Line.after? "id(" (Text.dropBlanks cs) with
  | none => none
  | some cs => match cs.dropWhile Text.isWordChar with
    | ')' :: _ => some (String.ofList (cs.takeWhile Text.isWordChar))
    | _ => none

/-- The third argument of a call, if it is an identifier. -/
def fontArgument? (pieces : List Piece) : Option String :=
  ((skipArgument 0 pieces).bind (skipArgument 0)).bind fun rest => idArgument? (leadingCode rest)

/-- The text calls among pieces, behind code that ends in `before`, its last character first. -/
def textCalls (before : List Char) : List Piece → List TextCall
  | [] => []
  | .literal _ :: pieces => textCalls ['"'] pieces
  | .code c :: pieces =>
    if c = '(' ∧ textCallNames.any (·.toList.reverse.isPrefixOf before) then
      ⟨fontArgument? pieces, literals pieces⟩ :: textCalls (c :: before) pieces
    else textCalls (c :: before) pieces

/-! ## Calls of helpers -/

/-- The helpers that are called among pieces, behind code that ends in `before`, its last character
first: the whole word right before a parenthesis is the name of one. -/
def helperCalls (before : List Char) : List Piece → List DrawHelper
  | [] => []
  | .literal _ :: pieces => helperCalls ['"'] pieces
  | .code c :: pieces =>
    if c = '(' then
      (DrawHelper.all.filter fun h => h.name.toList.reverse == before.takeWhile Text.isWordChar)
        ++ helperCalls (c :: before) pieces
    else helperCalls (c :: before) pieces

/-- A call that something has to be there for: a font, or a helper. -/
inductive Call where
  | text (call : TextCall)
  | helper (h : DrawHelper)

/-- The calls among pieces. -/
def calls (before : List Char) (pieces : List Piece) : List Call :=
  (textCalls before pieces).map .text ++ (helperCalls before pieces).map .helper

/-! ## Reading on -/

theorem readCode_cons {c : Char} (hquote : c ≠ '"') (hslash : c ≠ '/') (cs : List Char) :
    readCode (c :: cs) = (readCode cs).map (.code c :: ·) := by
  rw [readCode]
  · exact hquote
  · exact fun _ h => absurd h hslash

theorem readCode_slash {d : Char} (h : d ≠ '/') (cs : List Char) :
    readCode ('/' :: d :: cs) = (readCode (d :: cs)).map (.code '/' :: ·) := by
  rw [readCode]
  · exact fun hquote => absurd hquote (by decide)
  · rintro _ - hcons
    exact h (List.cons.inj hcons).1

theorem readLiteral_cons {c : Char} (hquote : c ≠ '"') (hslash : c ≠ '\\') (cs : List Char) :
    readLiteral (c :: cs) = (readLiteral cs).map fun p => (c :: p.1, p.2) := by
  rw [readLiteral]
  · exact hquote
  · exact fun _ _ h => absurd h hslash

mutual

/-- Whether code ends neither in a literal nor in a comment, whatever stands behind it. -/
def closes : List Char → Bool
  | [] => true
  | '"' :: cs => closesLiteral cs
  | ['/'] => false
  | '/' :: '/' :: _ => false
  | _ :: cs => closes cs

/-- The same for code that begins in a literal. -/
def closesLiteral : List Char → Bool
  | [] => false
  | '"' :: cs => closes cs
  | '\\' :: _ :: cs => closesLiteral cs
  | _ :: cs => closesLiteral cs

end

/-- Code that is read as pieces, whatever stands behind it. -/
def Reads (cs : List Char) (pieces : List Piece) : Prop :=
  ∀ rest, readCode (cs ++ rest) = (readCode rest).map (pieces ++ ·)

/-- The same for code that begins in a literal. -/
def ReadsLiteral (cs text : List Char) (pieces : List Piece) : Prop :=
  ∀ rest, readLiteral (cs ++ rest) = (readCode rest).map fun more => (text, pieces ++ more)

theorem Reads.cons {c : Char} {cs : List Char} {pieces : List Piece} (hquote : c ≠ '"')
    (hslash : c = '/' → ∃ d tail, cs = d :: tail ∧ d ≠ '/') (h : Reads cs pieces) :
    Reads (c :: cs) (.code c :: pieces) := by
  intro rest
  have hread : readCode (c :: (cs ++ rest)) = (readCode (cs ++ rest)).map (.code c :: ·) := by
    by_cases hc : c = '/'
    · obtain ⟨d, tail, rfl, hd⟩ := hslash hc
      subst hc
      exact readCode_slash hd _
    · exact readCode_cons hquote hc _
  rw [List.cons_append, hread, h rest, Option.map_map]
  rfl

/-- **Code that is closed is read on its own.** -/
theorem exists_reads : (∀ cs, closes cs = true → ∃ pieces, Reads cs pieces)
    ∧ ∀ cs, closesLiteral cs = true → ∃ text pieces, ReadsLiteral cs text pieces := by
  refine closes.mutual_induct _ _ ?_ ?_ ?_ ?_ ?_ ?_ ?_ ?_ ?_
  · intro _
    exact ⟨[], fun rest => by simp⟩
  · intro cs ih h
    obtain ⟨text, pieces, hread⟩ := ih h
    refine ⟨.literal text :: pieces, fun rest => ?_⟩
    rw [List.cons_append, readCode, hread, Option.map_map]
    rfl
  · intro h
    exact Bool.noConfusion h
  · intro cs h
    exact Bool.noConfusion h
  · intro c cs hquote hend hcomment ih h
    rw [closes.eq_5 _ _ hquote hend hcomment] at h
    obtain ⟨pieces, hread⟩ := ih h
    refine ⟨_, hread.cons hquote fun hc => ?_⟩
    cases cs with
    | nil => exact absurd rfl (hend hc)
    | cons d tail => exact ⟨d, tail, rfl, fun hd => hcomment tail hc (hd ▸ rfl)⟩
  · intro h
    exact Bool.noConfusion h
  · intro cs ih h
    obtain ⟨pieces, hread⟩ := ih h
    refine ⟨[], pieces, fun rest => ?_⟩
    rw [List.cons_append, readLiteral, hread, Option.map_map]
    rfl
  · intro c cs ih h
    obtain ⟨text, pieces, hread⟩ := ih h
    refine ⟨'\\' :: c :: text, pieces, fun rest => ?_⟩
    rw [List.cons_append, List.cons_append, readLiteral, hread, Option.map_map]
    rfl
  · intro c cs hquote hslash ih h
    rw [closesLiteral.eq_4 _ _ hquote hslash] at h
    obtain ⟨text, pieces, hread⟩ := ih h
    refine ⟨c :: text, pieces, fun rest => ?_⟩
    have hc : c ≠ '\\' := by
      rintro rfl
      cases cs with
      | nil => exact Bool.noConfusion h
      | cons d tail => exact hslash d tail rfl rfl
    rw [List.cons_append, readLiteral_cons hquote hc, hread, Option.map_map]
    rfl

/-- The pieces of closed code are those that it is read as where nothing stands behind it. -/
theorem reads_of_closes {cs : List Char} {pieces : List Piece} (h : closes cs = true)
    (hread : readCode cs = some pieces) : Reads cs pieces := by
  obtain ⟨others, hothers⟩ := exists_reads.1 cs h
  have hend := hothers []
  rw [List.append_nil, hread, readCode, Option.map_some, List.append_nil] at hend
  rw [Option.some.inj hend]
  exact hothers

theorem Reads.readCode_eq {cs : List Char} {pieces : List Piece} (h : Reads cs pieces) :
    readCode cs = some pieces := by
  have hend := h []
  rwa [List.append_nil, readCode, Option.map_some, List.append_nil] at hend

theorem Reads.append {as bs : List Char} {ps qs : List Piece} (ha : Reads as ps) (hb : Reads bs qs) :
    Reads (as ++ bs) (ps ++ qs) := by
  intro rest
  rw [List.append_assoc, ha, hb, Option.map_map]
  simp [Function.comp_def]

/-! ## Depths -/

theorem depth_append (d : Nat) (ps qs : List Piece) :
    depth d (ps ++ qs) = (depth d ps).bind (depth · qs) := by
  fun_induction depth d ps <;> simp_all [depth]

/-- A line in more blocks leaves as many more open. -/
theorem depth_add {d e : Nat} {ps : List Piece} (h : depth d ps = some e) (k : Nat) :
    depth (d + k) ps = some (e + k) := by
  fun_induction depth d ps with
  | case1 d =>
    cases h
    rfl
  | case2 d ps ih =>
    rw [depth, Nat.add_right_comm]
    exact ih h
  | case3 ps => cases h
  | case4 d ps ih =>
    rw [Nat.succ_add, depth]
    exact ih h
  | case5 d piece ps hopen hzero hclose ih =>
    have hinside : piece ≠ .code '\x7d' := by
      cases d with
      | zero => exact hzero rfl
      | succ d => exact hclose d rfl
    rw [depth.eq_5 _ _ _ hopen (fun _ => hinside) fun _ _ => hinside]
    exact ih h

theorem nest_append (d : Nat) (as bs : List String) :
    nest d (as ++ bs) = (nest d as).bind (nest · bs) := by
  induction as generalizing d with
  | nil => rfl
  | cons line as ih =>
    simp only [List.cons_append, nest, ih, Option.bind_assoc]

/-! ## Escapes of glyphs -/

theorem glyphEscapes_cons {c : Char} (h : c ≠ '\\') (cs : List Char) :
    glyphEscapes (c :: cs) = glyphEscapes cs := by
  rw [glyphEscapes]
  · exact fun _ hc => absurd hc h
  · exact fun _ _ hc => absurd hc h

theorem glyphEscapes_eq_nil {cs : List Char} (h : '\\' ∉ cs) : glyphEscapes cs = [] := by
  induction cs with
  | nil => rfl
  | cons c cs ih =>
    rw [List.mem_cons, not_or] at h
    rw [glyphEscapes_cons (Ne.symm h.1), ih h.2]

/-- A literal that is an escape holds no other one. -/
theorem glyphEscapes_of_codepoint? {text : List Char} {n : Nat} (h : Icon.codepoint? text = some n) :
    glyphEscapes text = [some n] := by
  obtain ⟨digits, rfl, hlength, hdigits⟩ := Icon.exists_digits_of_codepoint? h
  have hplain : '\\' ∉ digits := by
    intro hm
    exact absurd (Numeric.exists_readHex?_iff.1 ⟨n, hdigits⟩ _ hm) (by decide)
  rw [glyphEscapes, List.take_of_length_le hlength.le, h, glyphEscapes_eq_nil hplain]

/-! ## Arguments -/

theorem skipArgument_append {cs : List Char} (h : ∀ c ∈ cs, c ∉ [',', '(', ')']) (ps : List Piece) :
    skipArgument 0 (cs.map .code ++ ps) = skipArgument 0 ps := by
  induction cs with
  | nil => rfl
  | cons c cs ih =>
    have hc := h c List.mem_cons_self
    simp only [List.mem_cons, List.not_mem_nil, or_false, not_or] at hc
    have hskip : skipArgument 0 (.code c :: (cs.map .code ++ ps)) = skipArgument 0 (cs.map .code ++ ps) := by
      rw [skipArgument]
      all_goals simp [hc]
    rw [List.map_cons, List.cons_append, hskip, ih fun d hd => h d (List.mem_cons_of_mem _ hd)]

theorem leadingCode_append (cs : List Char) (ps : List Piece) :
    leadingCode (cs.map .code ++ ps) = cs ++ leadingCode ps := by
  induction cs with
  | nil => rfl
  | cons c cs ih => rw [List.map_cons, List.cons_append, leadingCode, ih, List.cons_append]

theorem idArgument?_append {word : List Char} (h : ∀ c ∈ word, Text.isWordChar c = true)
    (rest : List Char) :
    idArgument? (' ' :: ("id(".toList ++ (word ++ ')' :: rest))) = some (String.ofList word) := by
  have hdrop : (word ++ ')' :: rest).dropWhile Text.isWordChar = ')' :: rest :=
    Text.dropWhile_append_cons h (by decide) rest
  have htake : (word ++ ')' :: rest).takeWhile Text.isWordChar = word :=
    Text.takeWhile_append_cons h (by decide) rest
  have hlead : Line.after? "id(" (Text.dropBlanks (' ' :: ("id(".toList ++ (word ++ ')' :: rest))))
      = some (word ++ ')' :: rest) := Line.after?_eq_some_iff.2 rfl
  unfold idArgument?
  rw [hlead]
  dsimp only
  rw [hdrop, htake]
  rfl

/-- **The font of a call** is found behind two arguments. -/
theorem fontArgument?_append {x y word : List Char} (hx : ∀ c ∈ x, c ∉ [',', '(', ')'])
    (hy : ∀ c ∈ y, c ∉ [',', '(', ')']) (hword : ∀ c ∈ word, Text.isWordChar c = true)
    (rest : List Char) (ps : List Piece) :
    fontArgument? ((x ++ ',' :: (y ++ ',' :: ' ' :: ("id(".toList ++ (word ++ ')' :: rest)))).map .code ++ ps)
      = some (String.ofList word) := by
  have hfirst : ∀ qs, skipArgument 0 (.code ',' :: qs) = some qs := fun qs => rfl
  rw [fontArgument?, List.map_append, List.append_assoc, skipArgument_append hx, List.map_cons,
    List.cons_append, hfirst, Option.bind_some, List.map_append, List.append_assoc,
    skipArgument_append hy, List.map_cons, List.cons_append, hfirst, Option.bind_some,
    leadingCode_append, List.cons_append, List.append_assoc, List.append_assoc]
  exact idArgument?_append hword _

/-! ## Calm pieces -/

theorem text_mem_calls {before : List Char} {pieces : List Piece} {call : TextCall} :
    .text call ∈ calls before pieces ↔ call ∈ textCalls before pieces := by
  simp [calls]

theorem helper_mem_calls {before : List Char} {pieces : List Piece} {h : DrawHelper} :
    .helper h ∈ calls before pieces ↔ h ∈ helperCalls before pieces := by
  simp [calls]

/-- Pieces that call neither for a text nor for a helper, whatever stands around them. -/
def Calm (pieces : List Piece) : Prop :=
  ∀ before rest, ∃ before', calls before (pieces ++ rest) = calls before' rest

theorem Calm.append {ps qs : List Piece} (hp : Calm ps) (hq : Calm qs) : Calm (ps ++ qs) := by
  intro before rest
  obtain ⟨between, hbetween⟩ := hp before (qs ++ rest)
  obtain ⟨after, hafter⟩ := hq between rest
  exact ⟨after, by rw [List.append_assoc, hbetween, hafter]⟩

theorem Calm.calls_eq {ps : List Piece} (h : Calm ps) (before : List Char) : calls before ps = [] := by
  obtain ⟨after, hafter⟩ := h before []
  rwa [List.append_nil] at hafter

-- The characters are written out, as it is dear to decode a literal at every parenthesis.
/-- The names of calls, the last character first. -/
def callNames : List (List Char) :=
  [['t', 'n', 'i', 'r', 'p', '.', 't', 'i'],
    ['f', 't', 'n', 'i', 'r', 'p', '.', 't', 'i'],
    ['e', 'm', 'i', 't', 'f', 'r', 't', 's', '.', 't', 'i'],
    ['k', 's', 'a', 'm', '_', 'r', 'e', 'h', 't', 'i', 'd', '_', 'y', 'e', 'r', 'g', '_', 'y',
     'l', 'p', 'p', 'a'],
    ['t', 'c', 'e', 'r', 'r', '_', 'r', 'e', 'h', 't', 'i', 'd', '_', 'y', 'e', 'r', 'g', '_',
     'y', 'l', 'p', 'p', 'a'],
    ['e', 'l', 'c', 'r', 'i', 'c', '_', 'r', 'e', 'h', 't', 'i', 'd', '_', 'y', 'e', 'r', 'g',
     '_', 'y', 'l', 'p', 'p', 'a'],
    ['t', 'c', 'e', 'r', 'r', '_', 'd', 'e', 'l', 'l', 'i', 'f', '_', 'w', 'a', 'r', 'd'],
    ['r', 'e', 'd', 'r', 'o', 'b', '_', 't', 'c', 'e', 'r', 'r', '_', 'w', 'a', 'r', 'd']]

theorem callNames_eq :
    callNames = (textCallNames ++ DrawHelper.all.map DrawHelper.name).map (·.toList.reverse) := by
  decide +kernel

/-- Whether every parenthesis stands behind something else than the name of a call, where the code
before it ends in `seen`. -/
def isCalm (seen : List Char) : List Piece → Bool
  | [] => true
  | .literal _ :: pieces => isCalm ['"'] pieces
  | .code c :: pieces =>
    (c != '(' || callNames.all (Line.clash · seen)) && isCalm (c :: seen) pieces

/-- A parenthesis behind code that clashes with all names of calls is no call. -/
theorem calls_paren {seen : List Char} (h : callNames.all (Line.clash · seen) = true)
    (before : List Char) (pieces : List Piece) :
    calls (seen ++ before) (.code '(' :: pieces) = calls ('(' :: (seen ++ before)) pieces := by
  have hclash : ∀ name ∈ callNames, ¬ name <+: seen ++ before := fun name hname =>
    Line.not_prefix_append_of_clash (List.all_eq_true.1 h name hname) before
  have htext : ¬ ('(' = '(' ∧ textCallNames.any (·.toList.reverse.isPrefixOf (seen ++ before))) := by
    rintro ⟨-, hname⟩
    obtain ⟨name, hmem, hpre⟩ := List.any_eq_true.1 hname
    refine hclash _ (callNames_eq ▸ List.mem_map_of_mem (List.mem_append_left _ hmem)) ?_
    exact List.isPrefixOf_iff_prefix.1 hpre
  have hhelper : DrawHelper.all.filter (fun h => h.name.toList.reverse
      == (seen ++ before).takeWhile Text.isWordChar) = [] := by
    refine List.filter_eq_nil_iff.2 fun h hmem hname => ?_
    have hmem : h.name.toList.reverse ∈ callNames :=
      callNames_eq ▸ List.mem_map_of_mem (List.mem_append_right _ (List.mem_map_of_mem hmem))
    refine hclash _ hmem ?_
    rw [beq_iff_eq.1 hname]
    exact List.takeWhile_prefix _
  rw [calls, calls, textCalls, if_neg htext, helperCalls, if_pos rfl, hhelper, List.nil_append]

theorem calls_of_ne_paren {c : Char} (h : c ≠ '(') (before : List Char) (pieces : List Piece) :
    calls before (.code c :: pieces) = calls (c :: before) pieces := by
  rw [calls, calls, textCalls, if_neg fun hc => h hc.1, helperCalls, if_neg h]

theorem calls_of_isCalm {seen : List Char} {pieces : List Piece} (h : isCalm seen pieces = true)
    (before : List Char) (rest : List Piece) :
    ∃ before', calls (seen ++ before) (pieces ++ rest) = calls before' rest := by
  induction pieces generalizing seen before with
  | nil => exact ⟨_, rfl⟩
  | cons piece pieces ih =>
    cases piece with
    | literal text =>
      obtain ⟨after, hafter⟩ := ih h []
      exact ⟨after, hafter⟩
    | code c =>
      rw [isCalm, Bool.and_eq_true, Bool.or_eq_true, bne_iff_ne] at h
      obtain ⟨after, hafter⟩ := ih h.2 before
      refine ⟨after, ?_⟩
      rw [← hafter, List.cons_append]
      by_cases hc : c = '('
      · subst hc
        exact calls_paren (h.1.resolve_left fun hne => hne rfl) before _
      · exact calls_of_ne_paren hc _ _

theorem calm_of_isCalm {pieces : List Piece} (h : isCalm [] pieces = true) : Calm pieces :=
  fun before rest => calls_of_isCalm h before rest

end DisplayLayout.Lambda
