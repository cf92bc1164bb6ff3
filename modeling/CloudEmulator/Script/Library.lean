import CloudEmulator.Script.Clock
import CloudEmulator.Script.Operator
import CloudEmulator.Script.Lexer
import CloudEmulator.Text.Date
import CloudEmulator.Text.LetterCase
import CloudEmulator.Text.Blank

/-!
# Functions that every script can call

A function gets the values of its arguments and may change the first of them,
which is then the value a method was called on.

These are the functions that hooks use most, not all of the language's: there are none that
take a function (`sort`, `map`, `filter`, `reduce`, `some`, `all`), none that go through JSON
(`parse_json`, `to_json`) or in steps (`range` and `bits` with three arguments), no `drain`,
`retain`, `splice`, `chop`, `dedup`, `pad` or `crop`, none of trigonometry, and none that read
or write parts of a blob as numbers. A call of such a function ends as that of a function
that does not exist.
-/

namespace CloudEmulator.Script

/-- The outcome of a function: its result, and its first argument afterwards. -/
structure Effect where
  result : Value
  first : Value

namespace Library

open Value

/-- A function with these arguments: none where there is no such function. -/
abbrev Outcome := Option (Except Fault Effect)

/-- Give a result and leave the first argument as it was. -/
def giving (first result : Value) : Outcome :=
  some (.ok ⟨result, first⟩)

/-- Change the first argument and give nothing. -/
def changing (first : Value) : Outcome :=
  some (.ok ⟨unit, first⟩)

/-- Give a result, or fail. -/
def trying (first : Value) (result : Except Fault Value) : Outcome :=
  some (result.map (⟨·, first⟩))

/-- The place of an index among `size` items; negative ones count from the end. -/
def place? (size : Nat) (i : Int) : Option Nat :=
  if 0 ≤ i then if i.toNat < size then some i.toNat else none
  else if i.natAbs ≤ size then some (size - i.natAbs) else none

/-- The start of a part among `size` items: negative ones count from the end and
stop at the beginning. -/
def start (size : Nat) (i : Int) : Nat :=
  if 0 ≤ i then i.toNat else size - i.natAbs

/-- The characters from `start` on, at most `length` of them. -/
def part (s : String) (i length : Int) : String :=
  let cs := s.toList
  String.ofList ((cs.drop (start cs.length i)).take length.toNat)

/-- The pieces of a text between the occurrences of a separator. -/
def pieces (s separator : String) : List String :=
  if separator.isEmpty then "" :: s.toList.map String.singleton ++ [""]
  else s.splitOn separator

/-- At most `limit` pieces; the last one keeps the rest. -/
def firstPieces (s separator : String) (limit : Nat) : List String :=
  let all := pieces s separator
  if limit = 0 then []
  else if all.length ≤ limit then all
  else all.take (limit - 1) ++ [separator.intercalate (all.drop (limit - 1))]

/-- The runs of characters that are not blank. -/
def words (s : String) : List String :=
  ((s.toList.splitOnP Text.isBlank).filter (!·.isEmpty)).map String.ofList

/-- An array of texts. -/
def texts (parts : List String) : Value :=
  array (parts.map str).toArray

/-- The value of a digit in bases up to 36. -/
def digit? (base : Nat) (c : Char) : Option Nat :=
  let n := if c.isDigit then c.toNat - 48
    else if c.isAlpha then c.toLower.toNat - 87 else 36
  if n < base then some n else none

/-- The integer that a text stands for in a base. -/
def parseInt (s : String) (base : Int) : Except Fault Value :=
  let (isNegative, body) : Bool × List Char := match (Text.trim s).toList with
    | '-' :: cs => (true, cs)
    | '+' :: cs => (false, cs)
    | cs => (false, cs)
  if base < 2 || 36 < base || body.isEmpty then .error .badText
  else
    match body.mapM (digit? base.toNat) with
    | none => .error .badText
    | some ds =>
      let n : Nat := ds.foldl (fun n d => n * base.toNat + d) 0
      let signed : Int := if isNegative then -n else n
      if inRange signed then .ok (int signed) else .error .badText

/-- The float that a text stands for. -/
def parseFloat (s : String) : Except Fault Value :=
  let cs := (Text.trim s).toList
  let (isNegative, body) : Bool × List Char := match cs with
    | '-' :: cs => (true, cs)
    | '+' :: cs => (false, cs)
    | cs => (false, cs)
  let whole := body.takeWhile Char.isDigit
  let (frac, rest) := match body.dropWhile Char.isDigit with
    | '.' :: cs => (cs.takeWhile Char.isDigit, cs.dropWhile Char.isDigit)
    | cs => ([], cs)
  let exponent : Option Int := match rest with
    | [] => some 0
    | 'e' :: '-' :: ds | 'E' :: '-' :: ds => if ds.isEmpty || !ds.all Char.isDigit then none
        else some (Token.boundedExponent true ds)
    | 'e' :: '+' :: ds | 'E' :: '+' :: ds | 'e' :: ds | 'E' :: ds =>
      if ds.isEmpty || !ds.all Char.isDigit then none else some (Token.boundedExponent false ds)
    | _ => none
  match exponent with
  | some e =>
    if whole.isEmpty && frac.isEmpty then .error .badText
    else .ok (float (Token.decimal isNegative (whole ++ frac) (e - frac.length)))
  | none => .error .badText

/-- The position of a part in a text, or minus one. -/
def indexOf (s part : String) (skip : Nat) : Value :=
  let cs := s.toList
  let found := (List.range (cs.length + 1)).find? fun i =>
    skip ≤ i && part.toList.isPrefixOf (cs.drop i)
  match found with
  | some i => int i
  | none => int (-1)

/-- The text that an argument stands for, if it is a text or a character. -/
def asText? : Value → Option String
  | str s => some s
  | char c => some (String.singleton c)
  | _ => none

/-- The text with one part replaced by another. -/
def replaced (s part other : String) : String :=
  other.intercalate (pieces s part)

/-- Functions on texts. -/
def onText (name : String) (s : String) (rest : List Value) : Outcome :=
  let v := str s
  match name, rest with
  | "len", [] => giving v (int s.length)
  | "is_empty", [] => giving v (bool s.isEmpty)
  | "to_upper", [] => giving v (str (Text.capitals s))
  | "to_lower", [] => giving v (str (Text.smalls s))
  | "make_upper", [] => changing (str (Text.capitals s))
  | "make_lower", [] => changing (str (Text.smalls s))
  | "clear", [] => changing (str "")
  | "trim", [] => changing (str (Text.trim s))
  | "parse_int", [] => trying v (parseInt s 10)
  | "parse_int", [int base] => trying v (parseInt s base)
  | "parse_float", [] => trying v (parseFloat s)
  | "split", [] => giving v (texts (words s))
  | "split", [int i] =>
    let cut := start s.length i
    giving v (texts [String.ofList (s.toList.take cut), String.ofList (s.toList.drop cut)])
  | "sub_string", [int i] => giving v (str (part s i s.length))
  | "sub_string", [int i, int n] => giving v (str (part s i n))
  | "sub_string", [range low high closed] =>
    let low := max low 0
    giving v (str (part s low (high - low + if closed then 1 else 0)))
  | "truncate", [int n] => changing (str (part s 0 n))
  | "pop", [] =>
    match s.toList.reverse with
    | c :: cs => some (.ok ⟨char c, str (String.ofList cs.reverse)⟩)
    | [] => giving v unit
  | "chars", [] => giving v (array (s.toList.map char).toArray)
  | "to_chars", [] => giving v (array (s.toList.map char).toArray)
  | "to_blob", [] => giving v (blob (Utf8.encode s))
  | "bytes", [] => giving v (int (Utf8.encode s).length)
  | "append", [w] => changing (str (s ++ w.joined))
  | name, [w] =>
    match asText? w with
    | none => none
    | some t =>
      match name with
      | "contains" => giving v (bool (holdsText s t))
      | "starts_with" => giving v (bool (t.toList.isPrefixOf s.toList))
      | "ends_with" => giving v (bool (t.toList.isSuffixOf s.toList))
      | "split" => giving v (texts (pieces s t))
      | "split_rev" => giving v (texts (pieces s t).reverse)
      | "index_of" => giving v (indexOf s t 0)
      | "remove" => changing (str (without s t))
      | _ => none
  | "split", [w, int n] => (asText? w).bind fun t => giving v (texts (firstPieces s t n.toNat))
  | "index_of", [w, int i] =>
    (asText? w).bind fun t => giving v (indexOf s t (start s.length i))
  | "replace", [w, u] => do changing (str (replaced s (← asText? w) (← asText? u)))
  | _, _ => none

/-- Functions on characters. A letter whose other case takes two characters stays. -/
def onChar (name : String) (c : Char) (rest : List Value) : Outcome :=
  let only : List Char → Value
    | [d] => char d
    | _ => char c
  match name, rest with
  | "to_upper", [] => giving (char c) (only (Text.capital c))
  | "to_lower", [] => giving (char c) (only (Text.small c))
  | "make_upper", [] => changing (only (Text.capital c))
  | "make_lower", [] => changing (only (Text.small c))
  | _, _ => none

/-- Functions on arrays. -/
def onArray (name : String) (items : Array Value) (rest : List Value) : Outcome :=
  let v := array items
  match name, rest with
  | "len", [] => giving v (int items.size)
  | "is_empty", [] => giving v (bool items.isEmpty)
  | "push", [w] => changing (array (items.push w))
  | "append", [array more] => changing (array (items ++ more))
  | "pop", [] => some (.ok ⟨items.back?.getD unit, array items.pop⟩)
  | "shift", [] => some (.ok ⟨items[0]?.getD unit, array (items.extract 1 items.size)⟩)
  | "clear", [] => changing (array #[])
  | "contains", [w] => giving v (bool (items.any (equal · w)))
  | "index_of", [w] =>
    giving v (int ((items.findIdx? (equal · w)).elim (-1) fun (i : Nat) => (i : Int)))
  | "reverse", [] => changing (array items.reverse)
  | "truncate", [int n] => changing (array (items.extract 0 n.toNat))
  | "get", [int i] => giving v ((place? items.size i).bind (items[·]?) |>.getD unit)
  | "set", [int i, w] =>
    match place? items.size i with
    | some i => changing (array (items.setIfInBounds i w))
    | none => some (.error .outOfBounds)
  | "insert", [int i, w] =>
    let cut := min (start items.size i) items.size
    changing (array ((items.extract 0 cut).push w ++ items.extract cut items.size))
  | "remove", [int i] =>
    match place? items.size i with
    | some i => some (.ok ⟨items[i]?.getD unit, array (items.eraseIdxIfInBounds i)⟩)
    | none => giving v unit
  | _, _ => none

/-- Functions on maps. -/
def onMap (name : String) (entries : List (String × Value)) (rest : List Value) : Outcome :=
  let v := map entries
  match name, rest with
  | "len", [] => giving v (int entries.length)
  | "is_empty", [] => giving v (bool entries.isEmpty)
  | "keys", [] => giving v (texts (entries.map (·.1)))
  | "values", [] => giving v (array (entries.map (·.2)).toArray)
  | "clear", [] => changing (map [])
  | "contains", [str s] => giving v (bool (find? s entries).isSome)
  | "get", [str s] => giving v ((find? s entries).getD unit)
  | "set", [str s, w] => changing (map (insertEntry s w entries))
  | "remove", [str s] =>
    some (.ok ⟨(find? s entries).getD unit, map (eraseEntry s entries)⟩)
  | "mixin", [map more] => changing (map (overlay entries more))
  | "fill_with", [map more] => changing (map (overlay more entries))
  | _, _ => none

/-- Functions on blobs. -/
def onBlob (name : String) (bytes : Bytes) (rest : List Value) : Outcome :=
  let v := blob bytes
  match name, rest with
  | "len", [] => giving v (int bytes.length)
  | "is_empty", [] => giving v (bool bytes.isEmpty)
  | "push", [int n] => changing (blob (bytes ++ [UInt8.ofInt n]))
  | "append", [blob more] => changing (blob (bytes ++ more))
  | "clear", [] => changing (blob [])
  | "remove", [int i] =>
    match place? bytes.length i with
    | some i => some (.ok ⟨int (bytes.getD i 0).toNat, blob (bytes.eraseIdx i)⟩)
    | none => giving v (int 0)
  | "contains", [int n] => giving v (bool (bytes.any fun b => (b.toNat : Int) == n))
  | "as_string", [] => giving v (str (Utf8.lossy bytes))
  | _, _ => none

/-- The whole part of a float, if it has 64 bits. -/
def truncated (x : Float) : Except Fault Value :=
  if x.isFinite then
    let (m, q) := Decimal.decompose x
    let n : Nat := if 0 ≤ q then m * Nat.pow 2 q.toNat else m / Nat.pow 2 (-q).toNat
    checked (if Decimal.isNegative x then -n else n)
  else .error .overflow

/-- Functions on numbers. -/
def onNumber (name : String) (v : Value) (rest : List Value) : Outcome :=
  match name, v, rest with
  | "abs", int n, [] => trying v (checked n.natAbs)
  | "abs", float x, [] => giving v (float x.abs)
  | "sign", int n, [] => giving v (int n.sign)
  | "is_zero", int n, [] => giving v (bool (n == 0))
  | "is_odd", int n, [] => giving v (bool (n % 2 == 1))
  | "is_even", int n, [] => giving v (bool (n % 2 == 0))
  | "to_int", int _, [] => giving v v
  | "to_int", float x, [] => trying v (truncated x)
  | "to_float", int n, [] => giving v (float (Float.ofInt n))
  | "to_float", float _, [] => giving v v
  | "floor", float x, [] => giving v (float x.floor)
  | "ceiling", float x, [] => giving v (float x.ceil)
  | "round", float x, [] => giving v (float x.round)
  | "sqrt", float x, [] => giving v (float x.sqrt)
  | "min", int m, [int n] => giving v (int (min m n))
  | "max", int m, [int n] => giving v (int (max m n))
  | "min", float x, [float y] => giving v (float (if y < x then y else x))
  | "max", float x, [float y] => giving v (float (if x < y then y else x))
  | _, _, _ => none

/-- Functions on values of any type. -/
def onAny (name : String) (args : List Value) : Outcome :=
  match name, args with
  | "type_of", [v] => giving v (str v.scriptTypeName)
  | "to_string", [v] => giving v (str v.text)
  | "to_debug", [v] => giving v (str v.inner)
  | "print", [] | "debug", [] => changing unit
  | "print", [v] | "debug", [v] => giving v unit
  | "blob", [] => giving unit (blob [])
  | "blob", [int n] => giving (int n) (blob (List.replicate n.toNat 0))
  | "blob", [int n, int b] => giving (int n) (blob (List.replicate n.toNat (UInt8.ofInt b)))
  | "range", [int low, int high] => giving (int low) (range low high false)
  | "Fn", [str s] => if Token.isName s.toList && s.toList.all Token.isNameChar then
      giving (str s) (function s) else some (.error .badText)
  | "name", [function f] => giving (function f) (str f)
  | "contains", [range low high closed, int n] =>
    giving (range low high closed) (bool (inBounds n low high closed))
  | _, _ => none

/-- The function of a name for these arguments. -/
def call (name : String) (args : List Value) : Outcome :=
  let own : Outcome := match args with
    | str s :: rest => onText name s rest
    | char c :: rest => onChar name c rest
    | array items :: rest => onArray name items rest
    | map entries :: rest => onMap name entries rest
    | blob bytes :: rest => onBlob name bytes rest
    | v :: rest => onNumber name v rest
    | [] => none
  own.or (onAny name args)

/-- The functions that read the clocks, as functions of what these show. -/
def timed? (name : String) (args : List Value) : Option (Moment → Except Fault Value) :=
  match name, args with
  | "timestamp_header", [] => some fun now => .ok (str (Date.headerText now.seconds))
  | "timestamp", [] => some fun now => .ok (timestamp now.steady)
  | "elapsed", [timestamp begun] => some fun now =>
    if now.steady < begun then .error .overflow else .ok (float (inSeconds (now.steady - begun)))
  | _, _ => none

/-- Properties that values other than maps have. -/
def property? (name : String) : Value → Option Value
  | str s => if name == "len" then some (int s.length) else none
  | array items => if name == "len" then some (int items.size) else none
  | blob bytes => if name == "len" then some (int bytes.length) else none
  | range low high _ =>
    if name == "start" then some (int low) else if name == "end" then some (int high) else none
  | function f => if name == "name" then some (str f) else none
  | _ => none

end Library

end CloudEmulator.Script
