import CloudEmulator.Text.CaseFold
import CloudEmulator.Text.Category

/-!
# Upper and lower case

Texts in capitals or in small letters, in any alphabet. A letter whose capital
form takes two letters is written with both.
-/

namespace CloudEmulator.Text

/-- The character in upper case. -/
def capital (c : Char) : List Char :=
  if c == 'ß' then ['S', 'S']
  else if (c.isLower) then [c.toUpper]
  else if c.toNat < 128 || Category.of c == .uppercaseLetter then [c]
  else [((caseVariants c).find? fun u => Category.of u == .uppercaseLetter).getD c]

/-- The character in lower case. -/
def small (c : Char) : List Char :=
  if c.toNat < 128 then [c.toLower]
  else if c == 'İ' then ['i', '\u0307']
  else if [.uppercaseLetter, .titlecaseLetter].contains (Category.of c) then [foldCase c]
  else [c]

/-- The text in upper case. -/
def capitals (s : String) : String :=
  String.ofList (s.toList.flatMap capital)

/-- The text in lower case. -/
def smalls (s : String) : String :=
  String.ofList (s.toList.flatMap small)

end CloudEmulator.Text
