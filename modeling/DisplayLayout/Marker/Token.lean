import DisplayLayout.Text.Basic

/-!
# Tokens of a marker body

A marker body is a flat run of `key:value` pairs. The tokens cover all of it:
their lexemes put together are the body (`flatMap_lexeme_tokens`), and none of
them is empty (`lexeme_ne_nil`).
-/

namespace DisplayLayout.Marker

/-- What a token is. -/
inductive TokenKind where
  /-- A run of spaces, tabs and line breaks. -/
  | whitespace
  /-- A plain word with the colon that ends it. -/
  | key
  /-- A complete text in double quotes. -/
  | quoted
  /-- A run of anything but blanks, quotes and colons. -/
  | word
  /-- A colon that ends no key. -/
  | colon
  /-- A quote without its partner, with everything it could have held. -/
  | error
deriving DecidableEq, Repr

namespace TokenKind

/-- The name of a kind. -/
def name : TokenKind → String
  | whitespace => "Whitespace"
  | key => "Key"
  | quoted => "Quoted"
  | word => "Word"
  | colon => "Colon"
  | error => "Error"

/-- Blank runs separate pairs. -/
def isTrivia (k : TokenKind) : Bool := k == whitespace

/-- Every token but a key can be part of a bare value. -/
def isBarePart (k : TokenKind) : Bool := k != key

end TokenKind

/-- A token and the characters it covers. -/
structure Token where
  kind : TokenKind
  lexeme : List Char
deriving DecidableEq, Repr

/-- Blanks between tokens. -/
def isGap (c : Char) : Bool := c == ' ' || c == '\t' || c == '\r' || c == '\n'

/-- A line break, which no quoted value may hold. -/
def isBreak (c : Char) : Bool := c == '\r' || c == '\n'

/-- Characters of a word. -/
def isWordPart (c : Char) : Bool := !isGap c && c != '"' && c != ':'

/-- Reads on behind an opening quote: what belongs to the token, whether the
closing quote was found, and the rest. -/
def scanQuoted : List Char → List Char × Bool × List Char
  | [] => ([], false, [])
  | c :: rest =>
    if c = '"' then (['"'], true, rest)
    else if isBreak c then ([], false, c :: rest)
    else if c = '\\' then
      match rest with
      | [] => (['\\'], false, [])
      | d :: rest' =>
        if isBreak d then (['\\'], false, d :: rest')
        else
          let (lexeme, closed, more) := scanQuoted rest'
          ('\\' :: d :: lexeme, closed, more)
    else
      let (lexeme, closed, more) := scanQuoted rest
      (c :: lexeme, closed, more)

/-- The first token of a body that starts with `c`, and what is left. -/
def scan (c : Char) (rest : List Char) : Token × List Char :=
  if isGap c then (⟨.whitespace, c :: rest.takeWhile isGap⟩, rest.dropWhile isGap)
  else if c = '"' then
    let (lexeme, closed, more) := scanQuoted rest
    (⟨if closed then .quoted else .error, '"' :: lexeme⟩, more)
  else if c = ':' then (⟨.colon, [':']⟩, rest)
  else
    let run := c :: rest.takeWhile isWordPart
    match rest.dropWhile isWordPart with
    | ':' :: more =>
      if run.all Text.isWordChar then (⟨.key, run ++ [':']⟩, more) else (⟨.word, run⟩, ':' :: more)
    | more => (⟨.word, run⟩, more)

theorem scanQuoted_append (cs : List Char) : (scanQuoted cs).1 ++ (scanQuoted cs).2.2 = cs := by
  fun_induction scanQuoted cs <;> simp_all

theorem scan_append (c : Char) (rest : List Char) :
    (scan c rest).1.lexeme ++ (scan c rest).2 = c :: rest := by
  have hq := scanQuoted_append rest
  unfold scan
  split
  · simp [List.takeWhile_append_dropWhile]
  split
  · next h => subst h; simpa using hq
  split
  · next h => subst h; rfl
  · have hw := List.takeWhile_append_dropWhile (p := isWordPart) (l := rest)
    dsimp only
    split
    · next more hm =>
      rw [hm] at hw
      split <;> simp [hw]
    · simp [hw]

/-- No token is empty. -/
theorem scan_lexeme_ne_nil (c : Char) (rest : List Char) : (scan c rest).1.lexeme ≠ [] := by
  intro h
  have happ := scan_append c rest
  unfold scan at h
  dsimp only at h
  repeat' split at h
  all_goals simp_all

theorem scan_length (c : Char) (rest : List Char) : (scan c rest).2.length < (c :: rest).length := by
  have h := congrArg List.length (scan_append c rest)
  have := List.length_pos_iff.2 (scan_lexeme_ne_nil c rest)
  rw [List.length_append] at h
  omega

/-- The tokens of a body, each as long as it can be. -/
def tokens : List Char → List Token
  | [] => []
  | c :: rest => (scan c rest).1 :: tokens (scan c rest).2
termination_by cs => cs.length
decreasing_by exact scan_length c rest

/-- The tokens put together are the body. -/
theorem flatMap_lexeme_tokens (cs : List Char) : (tokens cs).flatMap Token.lexeme = cs := by
  fun_induction tokens cs with
  | case1 => rfl
  | case2 c rest ih => rw [List.flatMap_cons, ih, scan_append]

theorem lexeme_ne_nil {cs : List Char} {t : Token} (h : t ∈ tokens cs) : t.lexeme ≠ [] := by
  fun_induction tokens cs with
  | case1 => simp at h
  | case2 c rest ih =>
    rcases List.mem_cons.1 h with rfl | h
    · exact scan_lexeme_ne_nil c rest
    · exact ih h

/-- A token with the bytes it covers in the body. -/
structure Placed where
  token : Token
  start : Nat
  stop : Nat
deriving DecidableEq, Repr

/-- The length of characters in UTF-8 bytes. -/
def byteLength (cs : List Char) : Nat := cs.foldl (fun n c => n + c.utf8Size) 0

/-- Lays tokens out one behind the other from a byte offset. -/
def place (start : Nat) : List Token → List Placed
  | [] => []
  | t :: rest =>
    let stop := start + byteLength t.lexeme
    ⟨t, start, stop⟩ :: place stop rest

/-- The tokens of a body with their byte ranges. -/
def lex (body : String) : List Placed := place 0 (tokens body.toList)

end DisplayLayout.Marker
