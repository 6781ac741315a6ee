import DisplayLayout.Qr.Encoder

/-!
# QR symbols

The encoder of the standard, as far as the number of modules goes. The text is
split into segments of the modes of the standard, neighbours are merged where
that does not cost bits, and the smallest version that holds them all is taken.
The program runs with this encoder.
-/

namespace DisplayLayout.Qr

/-- The modes of segments. -/
inductive SegmentMode where
  | numeric
  | alphanumeric
  | byte
  | kanji
deriving DecidableEq, Repr

/-- A segment: its mode and its number of bytes. -/
structure Segment where
  mode : SegmentMode
  length : Nat
deriving DecidableEq, Repr

/-- What a byte can be part of. -/
inductive ByteClass where
  | digit
  | letter
  | sign
  /-- The first byte of most pairs. -/
  | lead
  /-- The first byte of pairs whose second byte is limited. -/
  | lastLead
  /-- A byte that only ends pairs, after any first byte or after most. -/
  | trail
  | highTrail
  | other
deriving DecidableEq, Repr

/-- Whether a byte lies in a range. -/
def inRange (b low high : Nat) : Bool := low ≤ b && b ≤ high

/-- The class of a byte. -/
def classOf (b : Nat) : ByteClass :=
  if inRange b 0x30 0x39 then .digit
  else if inRange b 0x41 0x5A then .letter
  else if (" $%*+-./:".toList.map Char.toNat).contains b then .sign
  else if inRange b 0x81 0x9F || inRange b 0xE0 0xEA then .lead
  else if b == 0xEB then .lastLead
  else if b == 0x40 || inRange b 0x5B 0x7E || b == 0x80 || inRange b 0xA0 0xBF then .trail
  else if inRange b 0xC0 0xDF || inRange b 0xEC 0xFC then .highTrail
  else .other

/-- Whether two bytes form a pair. -/
def isPair (a b : Nat) : Bool :=
  match classOf a, classOf b with
  | .lead, .letter => true
  | .lead, .lead => true
  | .lead, .lastLead => true
  | .lead, .trail => true
  | .lead, .highTrail => true
  | .lastLead, .letter => true
  | .lastLead, .trail => true
  | .lastLead, .lead => inRange b 0x81 0x9F
  | _, _ => false

/-- The number of pairs at the front. -/
def countPairs : List Nat → Nat
  | a :: b :: rest => if isPair a b then countPairs rest + 1 else 0
  | _ => 0

/-- Whether a byte is a digit, of the letters and signs, or neither. -/
def isDigit (b : Nat) : Bool := classOf b == .digit
def isLetter (b : Nat) : Bool := classOf b == .letter || classOf b == .sign
def isPlain (b : Nat) : Bool := classOf b == .trail || classOf b == .highTrail || classOf b == .other

/-- The first segment of a text that is not empty. -/
def firstSegment (b : Nat) (rest : List Nat) : Segment :=
  let run (p : Nat → Bool) := (rest.takeWhile p).length + 1
  if isDigit b then ⟨.numeric, run isDigit⟩
  else if isLetter b then ⟨.alphanumeric, run isLetter⟩
  else if isPlain b then ⟨.byte, run isPlain⟩
  else
    let n := countPairs (b :: rest)
    if n = 0 then ⟨.byte, 1⟩ else ⟨.kanji, 2 * n⟩

/-- Splits bytes into segments, each as long as it can be. -/
def segments : List Nat → List Segment
  | [] => []
  | b :: rest =>
    let s := firstSegment b rest
    s :: segments (rest.drop (s.length - 1))
termination_by bs => bs.length
decreasing_by simp only [List.length_drop, List.length_cons]; omega

/-- Versions with the same widths of length fields. -/
structure Group where
  last : Nat
  numeric : Nat
  alphanumeric : Nat
  byte : Nat
  kanji : Nat

/-- The groups of versions. -/
def groups : List Group := [⟨9, 10, 9, 8, 8⟩, ⟨26, 12, 11, 16, 10⟩, ⟨40, 14, 13, 16, 12⟩]

/-- The bits of a segment. -/
def Group.bits (g : Group) (s : Segment) : Nat :=
  match s.mode with
  | .numeric => 4 + g.numeric + (10 * s.length + 2) / 3
  | .alphanumeric => 4 + g.alphanumeric + (11 * s.length + 1) / 2
  | .byte => 4 + g.byte + 8 * s.length
  | .kanji => 4 + g.kanji + 13 * (s.length / 2)

/-- Two segments as one. -/
def Segment.merge (a b : Segment) : Segment :=
  let mode :=
    if a.mode = b.mode then a.mode
    else match a.mode, b.mode with
      | .numeric, .alphanumeric => .alphanumeric
      | .alphanumeric, .numeric => .alphanumeric
      | _, _ => .byte
  ⟨mode, a.length + b.length⟩

/-- The bits of segments, a segment being merged with the next one where that costs nothing. -/
def Group.totalBits (g : Group) (last : Segment) : List Segment → Nat
  | [] => g.bits last
  | next :: rest =>
    let merged := last.merge next
    if g.bits merged ≤ g.bits last + g.bits next then g.totalBits merged rest
    else g.bits last + g.totalBits next rest

/-- The bits of a text. -/
def Group.bitsOf (g : Group) : List Segment → Nat
  | [] => 0
  | s :: rest => g.totalBits s rest

/-- The data bits of a version at each level. -/
structure Capacity where
  low : Nat
  medium : Nat
  quartile : Nat
  high : Nat

/-- The data bits at a level. -/
def Capacity.at (c : Capacity) : Level → Nat
  | .low => c.low
  | .medium => c.medium
  | .quartile => c.quartile
  | .high => c.high

/-- The capacities of the versions from 1 to 40. -/
def capacities : List Capacity :=
  [⟨152, 128, 104, 72⟩, ⟨272, 224, 176, 128⟩, ⟨440, 352, 272, 208⟩, ⟨640, 512, 384, 288⟩,
    ⟨864, 688, 496, 368⟩, ⟨1088, 864, 608, 480⟩, ⟨1248, 992, 704, 528⟩, ⟨1552, 1232, 880, 688⟩,
    ⟨1856, 1456, 1056, 800⟩, ⟨2192, 1728, 1232, 976⟩, ⟨2592, 2032, 1440, 1120⟩,
    ⟨2960, 2320, 1648, 1264⟩, ⟨3424, 2672, 1952, 1440⟩, ⟨3688, 2920, 2088, 1576⟩,
    ⟨4184, 3320, 2360, 1784⟩, ⟨4712, 3624, 2600, 2024⟩, ⟨5176, 4056, 2936, 2264⟩,
    ⟨5768, 4504, 3176, 2504⟩, ⟨6360, 5016, 3560, 2728⟩, ⟨6888, 5352, 3880, 3080⟩,
    ⟨7456, 5712, 4096, 3248⟩, ⟨8048, 6256, 4544, 3536⟩, ⟨8752, 6880, 4912, 3712⟩,
    ⟨9392, 7312, 5312, 4112⟩, ⟨10208, 8000, 5744, 4304⟩, ⟨10960, 8496, 6032, 4768⟩,
    ⟨11744, 9024, 6464, 5024⟩, ⟨12248, 9544, 6968, 5288⟩, ⟨13048, 10136, 7288, 5608⟩,
    ⟨13880, 10984, 7880, 5960⟩, ⟨14744, 11640, 8264, 6344⟩, ⟨15640, 12328, 8920, 6760⟩,
    ⟨16568, 13048, 9368, 7208⟩, ⟨17528, 13800, 9848, 7688⟩, ⟨18448, 14496, 10288, 7888⟩,
    ⟨19472, 15312, 10832, 8432⟩, ⟨20528, 15936, 11408, 8768⟩, ⟨21616, 16816, 12016, 9136⟩,
    ⟨22496, 17728, 12656, 9776⟩, ⟨23648, 18672, 13328, 10208⟩]

/-- The smallest version that holds a number of bits. -/
def versionFor? (level : Level) (bits : Nat) : Option Nat :=
  (capacities.findIdx? fun c => bits ≤ c.at level).map (· + 1)

/-- The version of a text: that of the first group which it fits. -/
def version? (level : Level) (bytes : List Nat) : Option Nat :=
  let parts := segments bytes
  groups.findSome? fun g => (versionFor? level (g.bitsOf parts)).filter (· ≤ g.last)

/-- The modules on each side of a version. -/
def modulesOf (version : Nat) : Nat := 17 + 4 * version

/-- The modules on each side of the symbol of a text. -/
def modules? (level : Level) (text : String) : Option Nat :=
  (version? level (text.toUTF8.toList.map UInt8.toNat)).map modulesOf

instance : Encoder := ⟨modules?⟩

end DisplayLayout.Qr
