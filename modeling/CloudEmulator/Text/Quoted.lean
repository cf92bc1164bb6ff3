import CloudEmulator.Text.Category

/-!
# Quoted texts

A text between double quotes, with every character that would not be seen on
paper escaped.
-/

namespace CloudEmulator.Text.Quoted

/-- The hexadecimal digits of a number, in lower case. -/
def hex (n : Nat) : List Char :=
  Nat.toDigits 16 n

/-- Categories of characters that leave no mark of their own on paper. -/
def invisible : List Category :=
  [.control, .format, .surrogate, .privateUse, .unassigned, .lineSeparator, .paragraphSeparator,
    .spaceSeparator, .nonspacingMark, .enclosingMark]

/-- Marks and letters of other categories that join the character in front of
them, by first and last code point. -/
def joining : List (Nat × Nat) :=
  [(0x9be, 0x9be), (0x9d7, 0x9d7), (0xb3e, 0xb3e), (0xb57, 0xb57), (0xbbe, 0xbbe), (0xbd7, 0xbd7),
    (0xcc2, 0xcc2), (0xcd5, 0xcd6), (0xd3e, 0xd3e), (0xd57, 0xd57), (0xdcf, 0xdcf), (0xddf, 0xddf),
    (0x1b35, 0x1b35), (0x302e, 0x302f), (0xff9e, 0xff9f), (0x1133e, 0x1133e), (0x11357, 0x11357),
    (0x114b0, 0x114b0), (0x114bd, 0x114bd), (0x115af, 0x115af), (0x11930, 0x11930),
    (0x1d165, 0x1d165), (0x1d16e, 0x1d172)]

/-- The character is written as it is. -/
def isVisible (c : Char) : Bool :=
  if c.toNat < 128 then 32 ≤ c.toNat && c.toNat < 127
  else !invisible.contains (Category.of c) &&
    !joining.any fun (first, last) => first ≤ c.toNat && c.toNat ≤ last

/-- One character between double quotes. -/
def encodeChar (c : Char) : List Char :=
  match c with
  | '"' => ['\\', '"']
  | '\\' => ['\\', '\\']
  | '\n' => ['\\', 'n']
  | '\r' => ['\\', 'r']
  | '\t' => ['\\', 't']
  | '\x00' => ['\\', '0']
  | c => if isVisible c then [c] else ['\\', 'u', '\x7b'] ++ hex c.toNat ++ ['\x7d']

/-- The text between double quotes. -/
def encode (s : String) : String :=
  String.ofList (('"' :: s.toList.flatMap encodeChar) ++ ['"'])

end CloudEmulator.Text.Quoted
