import CloudEmulator.Pattern.Match
import CloudEmulator.Pattern.Repetition

/-!
# Escapes of written patterns

What a backslash announces, which reads the same inside a bracketed class and
outside of it.
-/

namespace CloudEmulator.Pattern

open Reading

/-- What an escape stands for. -/
inductive Escape where
  | literal (c : Char)
  | cls (c : CharClass)
  /-- A check, and how often it is made where a count is written right behind it. -/
  | check (c : Check) (times : Option Bounds)

/-- The value of a hexadecimal digit. -/
def hexValue? (c : Char) : Option Nat :=
  if c.isDigit then some (c.toNat - 48)
  else if 'a' ≤ c ∧ c ≤ 'f' then some (c.toNat - 87)
  else if 'A' ≤ c ∧ c ≤ 'F' then some (c.toNat - 55)
  else none

/-- The number that hexadecimal digits write, most significant first. -/
def hexNumber? (digits : List Char) : Option Nat :=
  digits.foldl (fun n c => do some ((← n) * 16 + (← hexValue? c))) (some 0)

/-- The character with a code point. -/
def scalar (n : Nat) : Except Fault Char :=
  if n.isValidChar then .ok (Char.ofNat n) else .error .badCodePoint

/-- The character whose code point hexadecimal digits write. -/
def hexCharacter (digits : List Char) : Except Fault Char :=
  if digits.isEmpty then .error .badEscape
  else match hexNumber? digits with
    | some n => scalar n
    | none => .error .badEscape

/-- Read `count` hexadecimal digits, or any number of them between braces. Without Unicode,
two digits are an octet, which is text only in ASCII. -/
def readHex (flags : Flags) (count : Nat) : Reading Char := do
  skipIgnored flags
  if ← accept ['\x7b'] then
    let written ← upTo '\x7d' .badEscape
    hexCharacter (written.filter fun c => !(flags.extended && Text.isBlank c))
  else
    let c ← hexCharacter (← exactly .badEscape count)
    if count == 2 && !flags.unicode && 127 < c.toNat then throw .beyondUtf8 else return c

/-- The class of a property as written after `\p`: a name, or a key with a value. -/
def propertyClass (written : String) : Except Fault CharClass :=
  let cs := written.toList
  let (key, value, unequal) :=
    if cs.contains '!' && cs.contains '=' then
      (cs.takeWhile (· != '!'), (cs.dropWhile (· != '=')).drop 1, true)
    else if cs.contains ':' then (cs.takeWhile (· != ':'), (cs.dropWhile (· != ':')).drop 1, false)
    else if cs.contains '=' then (cs.takeWhile (· != '='), (cs.dropWhile (· != '=')).drop 1, false)
    else ([], cs, false)
  let known := key.isEmpty || ["gc", "generalcategory"].contains
    (CharClass.looseName (String.ofList key))
  match known, CharClass.property? (String.ofList value) with
  | true, some cls => .ok (CharClass.negateIf unequal cls)
  | _, _ => .error .unknownProperty

/-- A class escape under the flags: case variants are added before the class is negated. -/
def foldedClass (flags : Flags) (negated : Bool) (cls : CharClass) : CharClass :=
  CharClass.negateIf negated (if flags.caseless then .caseless cls else cls)

/-- Read the name of a property: one character, or the text between braces. -/
def readPropertyName (flags : Flags) : Reading (List Char) := do
  skipIgnored flags
  if ← accept ['\x7b'] then upTo '\x7d' .badEscape
  else
    let c ← next .badEscape
    if c == '\\' then throw .badEscape else return [c]

/-- Read a property class after `\p` or `\P`. -/
def readProperty (flags : Flags) (negated : Bool) : Reading CharClass := do
  if flags.unicode then
    let cls ← propertyClass (String.ofList (← readPropertyName flags))
    return foldedClass flags negated cls
  else throw .beyondUtf8

/-- The class of words, digits or blanks under the flags. -/
def shorthandClass (flags : Flags) (kind : Char) : CharClass :=
  match kind, flags.unicode with
  | 'd', true => .digit
  | 'd', false => .asciiDigit
  | 's', true => .blank
  | 's', false => .asciiBlank
  | _, true => .word
  | _, false => .asciiWord

/-- Characters with a meaning of their own in patterns; a backslash takes it away. -/
def isMeta (c : Char) : Bool :=
  "\\.+*?()|[]\x7b\x7d^$#&-~".toList.contains c

/-- Characters that a backslash may stand before without need. -/
def isEscapable (c : Char) : Bool :=
  isMeta c || (c.toNat < 128 && !c.isAlphanum && c != '<' && c != '>')

/-- The named forms of a word boundary. -/
def boundaryForm? (word : CharClass) : String → Option Check
  | "start" => some (.wordStart word)
  | "end" => some (.wordEnd word)
  | "start-half" => some (.wordStartHalf word)
  | "end-half" => some (.wordEndHalf word)
  | _ => none

/-- The check of a named form between braces. -/
def boundaryForm (word : CharClass) (name : List Char) : Except Fault Check :=
  match boundaryForm? word (String.ofList name) with
  | some form => .ok form
  | none => .error .badEscape

/-- Read what follows `\b`: a named form between braces, or nothing. Braces
without a name count how often the check is made. -/
def readBoundary (flags : Flags) : Reading Escape := do
  let word := shorthandClass flags 'w'
  if ← accept ['\x7b'] then
    skipIgnored flags
    let name ← run fun c => c.isAlpha || c == '-'
    if name.isEmpty then return .check (.boundary word) (some (← readCounted flags))
    else
      skipIgnored flags
      expect ['\x7d'] .badEscape
      return .check (← boundaryForm word name) none
  else return .check (.boundary word) none

/-- Read what a backslash announces. -/
def readEscape (flags : Flags) : Reading Escape := do
  let word := shorthandClass flags 'w'
  let c ← next .badEscape
  if c.isDigit then throw .backReference
  else if isMeta c || isEscapable c then return .literal c
  else match c with
    | 'x' => return .literal (← readHex flags 2)
    | 'u' => return .literal (← readHex flags 4)
    | 'U' => return .literal (← readHex flags 8)
    | 'p' => return .cls (← readProperty flags false)
    | 'P' => return .cls (← readProperty flags true)
    | 'd' | 's' | 'w' => return .cls (shorthandClass flags c)
    | 'D' | 'S' | 'W' =>
      if flags.unicode then return .cls (.complement (shorthandClass flags c.toLower))
      else throw .beyondUtf8
    | 'a' => return .literal '\x07'
    | 'f' => return .literal '\x0c'
    | 't' => return .literal '\t'
    | 'n' => return .literal '\n'
    | 'r' => return .literal '\r'
    | 'v' => return .literal '\x0b'
    | 'A' => return .check .textStart none
    | 'z' => return .check .textEnd none
    | 'b' => readBoundary flags
    | 'B' => return .check (.notBoundary word) none
    | '<' => return .check (.wordStart word) none
    | '>' => return .check (.wordEnd word) none
    | _ => throw .badEscape

end CloudEmulator.Pattern
