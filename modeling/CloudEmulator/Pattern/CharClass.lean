import CloudEmulator.Text.Category
import CloudEmulator.Text.CaseFold
import CloudEmulator.Text.Blank

/-!
# Character classes

The sets of characters that one position of a pattern may stand for, built
from ranges and Unicode properties by the set operations.
-/

namespace CloudEmulator.Pattern

open Text

/-- A set of characters, as a term over ranges and properties. -/
inductive CharClass where
  | range (low high : Char)
  | categories (cs : List Category)
  | blank
  | either (a b : CharClass)
  | both (a b : CharClass)
  | without (a b : CharClass)
  | complement (a : CharClass)
  /-- Closed under case variants. -/
  | caseless (a : CharClass)

namespace CharClass

/-- The set that a class term denotes. -/
def contains : CharClass → Char → Bool
  | range low high, c => low.toNat ≤ c.toNat && c.toNat ≤ high.toNat
  | categories cs, c => cs.contains (Category.of c)
  | blank, c => isBlank c
  | either a b, c => a.contains c || b.contains c
  | both a b, c => a.contains c && b.contains c
  | without a b, c => a.contains c && !b.contains c
  | complement a, c => !a.contains c
  | caseless a, c => (caseVariants c).any a.contains

/-- No character. -/
def nothing : CharClass :=
  categories []

/-- Every character. -/
def anything : CharClass :=
  complement nothing

/-- One character alone. -/
def single (c : Char) : CharClass :=
  range c c

/-- The union of several sets. -/
def anyOf (classes : List CharClass) : CharClass :=
  classes.foldr either nothing

/-- The characters in exactly one of two sets. -/
def exactlyOne (a b : CharClass) : CharClass :=
  without (either a b) (both a b)

/-- The complement where `negated` is set. -/
def negateIf (negated : Bool) (a : CharClass) : CharClass :=
  if negated then complement a else a

/-- The ASCII digits. -/
def asciiDigit : CharClass :=
  range '0' '9'

/-- The ASCII letters. -/
def asciiLetter : CharClass :=
  either (range 'a' 'z') (range 'A' 'Z')

/-- The ASCII letters, digits and the low line. -/
def asciiWord : CharClass :=
  anyOf [asciiLetter, asciiDigit, single '_']

/-- The ASCII blanks. -/
def asciiBlank : CharClass :=
  either (range '\t' '\r') (single ' ')

/-- The letters of every script. -/
def letter : CharClass :=
  categories [.uppercaseLetter, .lowercaseLetter, .titlecaseLetter, .modifierLetter, .otherLetter]

/-- The marks that combine with other characters. -/
def mark : CharClass :=
  categories [.nonspacingMark, .spacingMark, .enclosingMark]

/-- The characters of words: letters and letter-like symbols, marks, decimal
digits, connectors and the two joiners. -/
def word : CharClass :=
  anyOf [asciiWord, letter, mark, categories [.letterNumber, .decimalNumber, .connectorPunctuation],
    range '\u24b6' '\u24e9', range '\u200c' '\u200d', range '🄰' '🅉', range '🅐' '🅩',
    range '🅰' '🆉']

/-- The decimal digits of every script. -/
def digit : CharClass :=
  either asciiDigit (categories [.decimalNumber])

/-- The named classes that stand between `[:` and `:]`. -/
def posix? : String → Option CharClass
  | "alnum" => some (either asciiLetter asciiDigit)
  | "alpha" => some asciiLetter
  | "ascii" => some (range '\x00' '\x7f')
  | "blank" => some (either (single '\t') (single ' '))
  | "cntrl" => some (either (range '\x00' '\x1f') (single '\x7f'))
  | "digit" => some asciiDigit
  | "graph" => some (range '!' '~')
  | "lower" => some (range 'a' 'z')
  | "print" => some (range ' ' '~')
  | "punct" => some (anyOf [range '!' '/', range ':' '@', range '[' '\x60', range '\x7b' '~'])
  | "space" => some asciiBlank
  | "upper" => some (range 'A' 'Z')
  | "word" => some asciiWord
  | "xdigit" => some (anyOf [asciiDigit, range 'A' 'F', range 'a' 'f'])
  | _ => none

/-- The general categories and their groups, under abbreviation and long name
in lower case without separators. -/
def categoryGroups : List (String × String × List Category) :=
  [("l", "letter", [.uppercaseLetter, .lowercaseLetter, .titlecaseLetter, .modifierLetter,
      .otherLetter]),
   ("lc", "casedletter", [.uppercaseLetter, .lowercaseLetter, .titlecaseLetter]),
   ("lu", "uppercaseletter", [.uppercaseLetter]), ("ll", "lowercaseletter", [.lowercaseLetter]),
   ("lt", "titlecaseletter", [.titlecaseLetter]), ("lm", "modifierletter", [.modifierLetter]),
   ("lo", "otherletter", [.otherLetter]),
   ("m", "mark", [.nonspacingMark, .spacingMark, .enclosingMark]),
   ("mn", "nonspacingmark", [.nonspacingMark]), ("mc", "spacingmark", [.spacingMark]),
   ("me", "enclosingmark", [.enclosingMark]),
   ("n", "number", [.decimalNumber, .letterNumber, .otherNumber]),
   ("nd", "decimalnumber", [.decimalNumber]), ("nl", "letternumber", [.letterNumber]),
   ("no", "othernumber", [.otherNumber]),
   ("p", "punctuation", [.connectorPunctuation, .dashPunctuation, .openPunctuation,
      .closePunctuation, .initialPunctuation, .finalPunctuation, .otherPunctuation]),
   ("pc", "connectorpunctuation", [.connectorPunctuation]),
   ("pd", "dashpunctuation", [.dashPunctuation]), ("ps", "openpunctuation", [.openPunctuation]),
   ("pe", "closepunctuation", [.closePunctuation]),
   ("pi", "initialpunctuation", [.initialPunctuation]),
   ("pf", "finalpunctuation", [.finalPunctuation]), ("po", "otherpunctuation", [.otherPunctuation]),
   ("s", "symbol", [.mathSymbol, .currencySymbol, .modifierSymbol, .otherSymbol]),
   ("sm", "mathsymbol", [.mathSymbol]), ("sc", "currencysymbol", [.currencySymbol]),
   ("sk", "modifiersymbol", [.modifierSymbol]), ("so", "othersymbol", [.otherSymbol]),
   ("z", "separator", [.spaceSeparator, .lineSeparator, .paragraphSeparator]),
   ("zs", "spaceseparator", [.spaceSeparator]), ("zl", "lineseparator", [.lineSeparator]),
   ("zp", "paragraphseparator", [.paragraphSeparator]),
   ("c", "other", [.control, .format, .surrogate, .privateUse, .unassigned]),
   ("cc", "control", [.control]), ("cf", "format", [.format]), ("co", "privateuse", [.privateUse]),
   ("cn", "unassigned", [.unassigned])]

/-- Names are compared in lower case and without separators. -/
def looseName (name : String) : String :=
  let isSeparator c := isBlank c || c == '_' || c == '-'
  String.ofList ((name.toList.filter fun c => !isSeparator c).map Char.toLower)

/-- The class of a property name. -/
def property? (name : String) : Option CharClass :=
  let name := looseName name
  match categoryGroups.find? (fun (short, long, _) => name == short || name == long) with
  | some (_, _, cs) => some (categories cs)
  | none =>
    match name with
    | "any" => some anything
    | "assigned" => some (complement (categories [.unassigned]))
    | "ascii" => some (range '\x00' '\x7f')
    | "whitespace" | "space" | "wspace" => some blank
    | "alphabetic" | "alpha" => some (either letter (categories [.letterNumber]))
    | "uppercase" | "upper" => some (categories [.uppercaseLetter])
    | "lowercase" | "lower" => some (categories [.lowercaseLetter])
    | _ => none

end CharClass

end CloudEmulator.Pattern
