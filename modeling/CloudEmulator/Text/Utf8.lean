/-!
# UTF-8

Octet sequences and the texts they stand for. A text is read strictly, where
one bad octet refuses the whole sequence, or loosely, where each longest run of
octets that could still have begun a character becomes one replacement mark.
-/

namespace CloudEmulator

/-- A message body or a raw header value. -/
abbrev Bytes := List UInt8

namespace Utf8

/-- The octets of one character, from its code point. -/
def encodeChar (c : Char) : Bytes :=
  let n := c.toNat
  if n < 0x80 then [UInt8.ofNat n]
  else if n < 0x800 then [UInt8.ofNat (0xC0 + n / 64), UInt8.ofNat (0x80 + n % 64)]
  else if n < 0x10000 then
    [UInt8.ofNat (0xE0 + n / 4096), UInt8.ofNat (0x80 + n / 64 % 64), UInt8.ofNat (0x80 + n % 64)]
  else
    [UInt8.ofNat (0xF0 + n / 262144), UInt8.ofNat (0x80 + n / 4096 % 64),
      UInt8.ofNat (0x80 + n / 64 % 64), UInt8.ofNat (0x80 + n % 64)]

/-- The octets of a list of characters. -/
def encodeChars (cs : List Char) : Bytes :=
  cs.flatMap encodeChar

/-- The octets of a text. -/
def encode (s : String) : Bytes :=
  encodeChars s.toList

/-- What a first octet above `0x7F` promises: the number of octets that follow,
the bounds of the next one and the high bits of the code point. -/
def lead (b : Nat) : Option (Nat × Nat × Nat × Nat) :=
  if b < 0xC2 then none
  else if b < 0xE0 then some (1, 0x80, 0xBF, b - 0xC0)
  else if b = 0xE0 then some (2, 0xA0, 0xBF, 0)
  else if b = 0xED then some (2, 0x80, 0x9F, 0xD)
  else if b < 0xF0 then some (2, 0x80, 0xBF, b - 0xE0)
  else if b = 0xF0 then some (3, 0x90, 0xBF, 0)
  else if b < 0xF4 then some (3, 0x80, 0xBF, b - 0xF0)
  else if b = 0xF4 then some (3, 0x80, 0x8F, 4)
  else none

/-- The front of an octet sequence: its character, or none where the octets
taken begin no character, and the octets after it. -/
structure Front where
  char : Option Char
  rest : Bytes

/-- Read `owed` more octets of a character whose high bits are `high`; only the
first of them is held to `low` and `top`. An octet out of bounds is not taken. -/
def continueChar : (owed low top high : Nat) → Bytes → Front
  | 0, _, _, high, bytes => ⟨some (Char.ofNat high), bytes⟩
  | _ + 1, _, _, _, [] => ⟨none, []⟩
  | owed + 1, low, top, high, b :: bytes =>
    if low ≤ b.toNat ∧ b.toNat ≤ top then
      continueChar owed 0x80 0xBF (high * 64 + (b.toNat - 0x80)) bytes
    else ⟨none, b :: bytes⟩

/-- The front of a sequence that starts with `b`. -/
def front (b : UInt8) (bytes : Bytes) : Front :=
  if b.toNat < 0x80 then ⟨some (Char.ofNat b.toNat), bytes⟩
  else match lead b.toNat with
    | none => ⟨none, bytes⟩
    | some (owed, low, top, high) => continueChar owed low top high bytes

theorem continueChar_rest_le (owed low top high : Nat) (bytes : Bytes) :
    (continueChar owed low top high bytes).rest.length ≤ bytes.length := by
  induction owed, low, top, high, bytes using continueChar.induct with
  | case1 | case2 => simp [continueChar]
  | case3 _ _ _ _ _ _ h ih =>
    simp only [continueChar, h, and_self, if_true, List.length_cons]
    omega
  | case4 _ _ _ _ _ _ h => simp [continueChar, h]

theorem front_rest_le (b : UInt8) (bytes : Bytes) :
    (front b bytes).rest.length ≤ bytes.length := by
  unfold front
  split
  · simp
  · split
    · simp
    · exact continueChar_rest_le ..

/-- The pieces of a sequence: its characters, and none for each run of octets
that begins no character. -/
def pieces : Bytes → List (Option Char)
  | [] => []
  | b :: bytes => (front b bytes).char :: pieces (front b bytes).rest
termination_by bytes => bytes.length
decreasing_by
  have := front_rest_le b bytes
  simp only [List.length_cons]; omega

/-- The text of a sequence, if all of it is UTF-8. -/
def decode? (bytes : Bytes) : Option String :=
  ((pieces bytes).mapM id).map String.ofList

/-- What stands in a loosely read text for octets that begin no character. -/
def replacement : Char := '\uFFFD'

/-- The text of a sequence, read loosely. -/
def lossy (bytes : Bytes) : String :=
  String.ofList ((pieces bytes).map (·.getD replacement))

end Utf8

end CloudEmulator
