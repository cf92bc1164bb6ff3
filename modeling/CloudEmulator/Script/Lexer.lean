import CloudEmulator.Script.Token

/-!
# Reading the words of a script

Each step takes one word from the front of the text and hands on what is left.
Blanks and comments stand between words and mean nothing.
-/

namespace CloudEmulator.Script

namespace Token

/-- A character that a name may begin with. -/
def isNameStart (c : Char) : Bool :=
  c.isAlpha || c == '_'

/-- A character of a name. -/
def isNameChar (c : Char) : Bool :=
  c.isAlphanum || c == '_'

/-- A name has a letter before its first digit. -/
def isName (cs : List Char) : Bool :=
  (cs.dropWhile (· == '_')).head?.any Char.isAlpha

/-- A blank of the language. -/
def isSpace (c : Char) : Bool :=
  c == ' ' || c == '\t' || c == '\n' || c == '\r'

/-- What follows a comment that `depth` openings have begun; at the end of the
text the comment ends, too. -/
def skipComment : (depth : Nat) → List Char → List Char
  | 0, cs => cs
  | _ + 1, [] => []
  | depth + 1, '/' :: '*' :: cs => skipComment (depth + 2) cs
  | depth + 1, '*' :: '/' :: cs => skipComment depth cs
  | depth + 1, _ :: cs => skipComment (depth + 1) cs

/-- A digit of a number in the given base. -/
def isDigitIn (base : Nat) (c : Char) : Bool :=
  if base = 16 then c.isDigit || ('a' ≤ c && c ≤ 'f') || ('A' ≤ c && c ≤ 'F')
  else '0'.toNat ≤ c.toNat && c.toNat < '0'.toNat + base

/-- The value of a digit. -/
def digitValue (c : Char) : Nat :=
  if c.isDigit then c.toNat - 48 else c.toLower.toNat - 87

/-- The value of some digits. -/
def valueIn (base : Nat) (digits : List Char) : Nat :=
  digits.foldl (fun n c => n * base + digitValue c) 0

/-- The digits at the front, where separators do not count, and the rest. -/
def digits (base : Nat) (cs : List Char) : List Char × List Char :=
  let isPart c := isDigitIn base c || c == '_'
  ((cs.takeWhile isPart).filter (· != '_'), cs.dropWhile isPart)

/-- The digits behind the point of a number, or none where the point is not part
of it: it may begin a range or a property. -/
def fraction? : List Char → Option (List Char × List Char)
  | '.' :: cs =>
    match cs with
    | [] => none
    | c :: _ =>
      if c.isDigit then some (digits 10 cs)
      else if isNameStart c || c == '.' then none
      else some ([], cs)
  | _ => none

/-- The exponent of a number with its sign, or none where there is none. -/
def exponent? : List Char → Option (Bool × List Char × List Char)
  | 'e' :: cs =>
    match cs with
    | '-' :: cs => some (true, digits 10 cs)
    | '+' :: cs => some (false, digits 10 cs)
    | c :: _ => if c.isDigit then some (false, digits 10 cs) else none
    | [] => none
  | _ => none

/-- The float with the given decimal digits and exponent. -/
def decimal (negative : Bool) (mantissa : List Char) (exponent : Int) : Float :=
  let x := Float.ofScientific (valueIn 10 mantissa) (exponent < 0) exponent.natAbs
  if negative then -x else x

/-- An exponent, held within bounds outside of which all floats agree. -/
def boundedExponent (isNegative : Bool) (ds : List Char) : Int :=
  let n : Int := min (valueIn 10 ds) 5000
  if isNegative then -n else n

/-- A decimal number. A second point or exponent makes it malformed; integers
that are too large become floats. -/
def readDecimal (negative : Bool) (cs : List Char) : Except SyntaxFault (Token × List Char) := do
  let (whole, cs) := digits 10 cs
  match fraction? cs, exponent? cs with
  | none, none =>
    let n : Int := if negative then -(valueIn 10 whole) else valueIn 10 whole
    return (if Value.inRange n then int n else float (decimal negative whole 0), cs)
  | some (frac, cs), _ =>
    let (exponent, cs) ← match exponent? cs with
      | none => pure (0, cs)
      | some (_, [], _) => throw .badNumber
      | some (sign, ds, cs) => pure (boundedExponent sign ds, cs)
    if (fraction? cs).isSome then throw .badNumber
    return (float (decimal negative (whole ++ frac) (exponent - frac.length)), cs)
  | none, some (_, [], _) => throw .badNumber
  | none, some (sign, ds, cs) =>
    if (fraction? cs).isSome || (exponent? cs).isSome then throw .badNumber
    return (float (decimal negative whole (boundedExponent sign ds)), cs)

/-- A number in a base that a letter names, as 64 bits in two's complement. -/
def readBased (negative : Bool) (base : Nat) (cs : List Char) :
    Except SyntaxFault (Token × List Char) :=
  let (ds, rest) := digits base cs
  let n := valueIn base ds
  if ds.isEmpty || Nat.pow 2 64 ≤ n then .error .badNumber
  else
    let signed : Int := if n < Nat.pow 2 63 then n else n - Nat.pow 2 64
    .ok (int (if negative then Int.bmod (-signed) (Nat.pow 2 64) else signed), rest)

/-- The base named by the letter behind a leading zero. -/
def base? : Char → Option Nat
  | 'x' | 'X' => some 16
  | 'o' | 'O' => some 8
  | 'b' | 'B' => some 2
  | _ => none

/-- A number. -/
def readNumber (negative : Bool) (cs : List Char) : Except SyntaxFault (Token × List Char) :=
  match cs with
  | '0' :: c :: rest =>
    match base? c with
    | some base => readBased negative base rest
    | none => readDecimal negative cs
  | cs => readDecimal negative cs

/-- How many digits an escape with this letter has. -/
def escapeWidth? : Char → Option Nat
  | 'x' => some 2
  | 'u' => some 4
  | 'U' => some 8
  | _ => none

/-- The character that a letter behind a backslash stands for. -/
def escaped? (quote : Char) : Char → Option Char
  | '\\' => some '\\'
  | 't' => some '\t'
  | 'n' => some '\n'
  | 'r' => some '\r'
  | c => if c == quote then some c else none

/-- The characters up to the closing quote, last first in `sofar`. A doubled
quote stands for one; a backslash before the end of a line joins the lines. -/
def readQuoted (quote : Char) (sofar : List Char) :
    List Char → Except SyntaxFault (List Char × List Char)
  | [] => .error .unterminated
  | '\n' :: _ => .error .unterminated
  | ['\\'] => .error .unterminated
  | '\\' :: c :: cs =>
    match escapeWidth? c with
    | some width =>
      let ds := cs.take width
      let n := valueIn 16 ds
      if ds.length = width && ds.all (isDigitIn 16) && n.isValidChar then
        readQuoted quote (Char.ofNat n :: sofar) (cs.drop width)
      else .error .badEscape
    | none =>
      match escaped? quote c with
      | some c => readQuoted quote (c :: sofar) cs
      | none => if c == '\n' && quote == '"' then readQuoted quote sofar cs else .error .badEscape
  | c :: cs =>
    if c == quote then
      match cs with
      | d :: cs =>
        if d == quote then readQuoted quote (quote :: sofar) cs else .ok (sofar.reverse, d :: cs)
      | [] => .ok (sofar.reverse, [])
    else readQuoted quote (c :: sofar) cs
termination_by cs => cs.length
decreasing_by all_goals simp +arith

/-- The mark around texts with insertions. -/
def pieceMark : Char := '\x60'

/-- A piece of a text with insertions: up to the closing mark or to the opening
of an insertion, whose brace is left in place. -/
def readPiece (sofar : List Char) : List Char → Except SyntaxFault (Token × List Char)
  | [] => .error .unterminated
  | '$' :: '\x7b' :: cs => .ok (piece (String.ofList sofar.reverse) true, '\x7b' :: cs)
  | [c] => if c == pieceMark then .ok (piece (String.ofList sofar.reverse) false, [])
    else .error .unterminated
  | c :: d :: cs =>
    if c == pieceMark then
      if d == pieceMark then readPiece (c :: sofar) cs
      else .ok (piece (String.ofList sofar.reverse) false, d :: cs)
    else readPiece (c :: sofar) (d :: cs)
termination_by cs => cs.length

/-- A line break directly behind an opening mark does not count. -/
def skipLineBreak : List Char → List Char
  | '\r' :: '\n' :: cs => cs
  | '\r' :: cs => cs
  | '\n' :: cs => cs
  | cs => cs

/-- A name or a word of the language. -/
def readName (cs : List Char) : Except SyntaxFault (Token × List Char) :=
  let word := cs.takeWhile isNameChar
  let s := String.ofList word
  let rest := cs.dropWhile isNameChar
  if s == "_" then .ok (symbol "_", rest)
  else if reservedWords.contains s then .error (.reserved s)
  else if keywords.contains s then .ok (keyword s, rest)
  else if isName word then .ok (name s, rest)
  else .error (.reserved s)

/-- The first of some symbols that the text begins with, and what follows it. -/
def findSymbol? (candidates : List String) (cs : List Char) : Option (String × List Char) :=
  (candidates.find? fun s => s.toList.isPrefixOf cs).map fun s => (s, cs.drop s.length)

/-- The negated membership operator, when no longer name stands there. -/
def notIn? : List Char → Option (List Char)
  | '!' :: 'i' :: 'n' :: cs => if cs.head?.any isNameChar then none else some cs
  | _ => none

/-- A symbol. -/
def readSymbol (cs : List Char) : Except SyntaxFault (Token × List Char) :=
  match notIn? cs with
  | some rest => .ok (symbol "!in", rest)
  | none =>
    match findSymbol? reservedSymbols cs with
    | some (s, _) => .error (.reserved s)
    | none =>
      match findSymbol? symbols cs, cs with
      | some (s, rest), _ => .ok (symbol s, rest)
      | none, c :: _ => .error (.badCharacter c)
      | none, [] => .error .unexpected

/-- The word at the front of a text that begins with no blank or comment. -/
def readWord (afterOperand : Bool) : List Char → Except SyntaxFault (Token × List Char)
  | '"' :: cs => do
    let (s, rest) ← readQuoted '"' [] cs
    return (str (String.ofList s), rest)
  | '\'' :: cs => do
    match ← readQuoted '\'' [] cs with
    | ([c], rest) => return (char c, rest)
    | _ => throw (.badCharacter '\'')
  | '-' :: c :: cs =>
    if c.isDigit && !afterOperand then readNumber true (c :: cs) else readSymbol ('-' :: c :: cs)
  | c :: cs =>
    if c == pieceMark then readPiece [] (skipLineBreak cs)
    else if c.isDigit then readNumber false (c :: cs)
    else if isNameStart c then readName (c :: cs)
    else readSymbol (c :: cs)
  | [] => .error .unexpected

/-- The braces that are open inside of each insertion, after a word. An
insertion whose own brace closes is over. -/
inductive Nesting where
  | stays (levels : List Nat)
  | resumes (levels : List Nat)

/-- How a word changes the open braces. -/
def nesting (word : Token) (opened : List Nat) : Nesting :=
  match word, opened with
  | piece _ true, opened => .stays (0 :: opened)
  | symbol s, n :: outer =>
    if s == "\x7b" || s == "#\x7b" then .stays ((n + 1) :: outer)
    else if s == "\x7d" then if n ≤ 1 then .resumes outer else .stays ((n - 1) :: outer)
    else .stays (n :: outer)
  | _, opened => .stays opened

theorem skipComment_length_le (depth : Nat) (cs : List Char) :
    (skipComment depth cs).length ≤ cs.length := by
  induction depth, cs using skipComment.induct with
  | case1 | case2 => simp [skipComment]
  | case3 _ _ ih | case4 _ _ ih => simp only [skipComment, List.length_cons]; omega
  | case5 _ _ _ _ _ ih => simp only [skipComment, List.length_cons]; omega

/-- Read all words; `opened` counts the braces open inside of each insertion. -/
def readAll (opened : List Nat) (afterOperand : Bool) (sofar : List Token) (cs : List Char) :
    Except SyntaxFault (List Token) :=
  match cs with
  | [] => .ok sofar.reverse
  | '/' :: '/' :: rest => readAll opened afterOperand sofar (rest.dropWhile (· != '\n'))
  | '/' :: '*' :: rest => readAll opened afterOperand sofar (skipComment 1 rest)
  | c :: rest =>
    if isSpace c then readAll opened afterOperand sofar rest
    else
      match readWord afterOperand (c :: rest) with
      | .error fault => .error fault
      | .ok (word, after) =>
        if _ : after.length ≤ rest.length then
          match nesting word opened with
          | .stays opened => readAll opened word.endsOperand (word :: sofar) after
          | .resumes opened =>
            match readPiece [] after with
            | .error fault => .error fault
            | .ok (next, later) =>
              if _ : later.length ≤ rest.length then
                match nesting next opened with
                | .stays opened | .resumes opened =>
                  readAll opened next.endsOperand (next :: word :: sofar) later
              else .error .unexpected
        else .error .unexpected
termination_by cs.length
decreasing_by
  · have := (List.dropWhile_sublist (· != '\n') (l := rest)).length_le
    simp only [List.length_cons]; omega
  · have := skipComment_length_le 1 rest
    simp only [List.length_cons]; omega
  all_goals simp only [List.length_cons]; omega

end Token

/-- The words of a script. -/
def tokens (source : String) : Except SyntaxFault (List Token) :=
  Token.readAll [] false [] source.toList

end CloudEmulator.Script
