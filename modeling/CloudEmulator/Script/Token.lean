import CloudEmulator.Script.Value

/-!
# Words of scripts

What the text of a script is made of, and the reasons why a text is no script.
-/

namespace CloudEmulator.Script

/-- Why a text is no script. -/
inductive SyntaxFault where
  | badCharacter (c : Char)
  | badNumber
  | badEscape
  | unterminated
  | reserved (word : String)
  | unexpected
  | tooDeep
  | duplicate (name : String)
  | misplaced
  | notAssignable
  | wrongType
  deriving Repr

/-- A word of a script. -/
inductive Token where
  | int (n : Int)
  | float (x : Float)
  | char (c : Char)
  | str (s : String)
  /-- A piece of a text with insertions; `more` says that an insertion follows. -/
  | piece (s : String) (more : Bool)
  | name (s : String)
  | keyword (s : String)
  | symbol (s : String)
  deriving Inhabited

namespace Token

/-- The words of the language itself. -/
def keywords : List String :=
  ["true", "false", "let", "const", "if", "else", "switch", "do", "while", "until", "loop", "for",
    "in", "continue", "break", "fn", "private", "return", "throw", "try", "catch", "import",
    "export", "as", "this"]

/-- Functions whose names cannot be given to anything else. -/
def reservedFunctions : List String :=
  ["print", "debug", "type_of", "eval", "Fn", "call", "curry", "is_def_fn", "is_def_var",
    "is_shared"]

/-- Words that have no meaning yet. -/
def reservedWords : List String :=
  ["var", "static", "shared", "goto", "match", "case", "public", "protected", "new", "use", "with",
    "is", "module", "package", "super", "thread", "spawn", "go", "await", "async", "sync", "yield",
    "default", "void", "null", "nil", "exit", "global"]

/-- Symbols with a meaning, the longer ones first. -/
def symbols : List String :=
  ["**=", "..=", "<<=", ">>=", "**", "..", "+=", "-=", "*=", "/=", "%=", "&=", "|=", "^=", "==",
    "!=", "<=", ">=", "<<", ">>", "&&", "||", "??", "?.", "?[", "=>", "#\x7b", "+", "-", "*", "/",
    "%", "=", "<", ">", "!", "&", "|", "^", ".", ",", ";", ":", "(", ")", "[", "]", "\x7b", "\x7d"]

/-- Symbols without a meaning that a shorter one must not hide. -/
def reservedSymbols : List String :=
  ["===", "!==", "::<", "...", "->", "<-", ":=", "::", ":;", "++", "--", "(*", "*)", "!."]

/-- An operand may end with this word, so that a sign behind it is an operator. -/
def endsOperand : Token → Bool
  | int _ | float _ | char _ | str _ | piece _ false | name _ => true
  | keyword k => k == "true" || k == "false" || k == "this"
  | symbol s => s == ")" || s == "]" || s == "\x7d"
  | _ => false

end Token

end CloudEmulator.Script
