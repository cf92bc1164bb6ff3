/-!
# YAML nodes
-/

namespace CloudEmulator.Yaml

/-- A node of a document. A plain scalar is one that was written without quotes;
its text decides what else it may stand for. -/
inductive Node where
  | scalar (text : String) (isPlain : Bool)
  | list (items : List Node)
  | map (entries : List (Node × Node))
  deriving Inhabited

namespace Node

/-- The node of a value that is left out. -/
def empty : Node :=
  scalar "" true

/-- The text of a scalar. -/
def text? : Node → Option String
  | scalar text _ => some text
  | _ => none

/-- The truth value of a plain scalar. -/
def bool? : Node → Option Bool
  | scalar text true =>
    if ["true", "True", "TRUE"].contains text then some true
    else if ["false", "False", "FALSE"].contains text then some false
    else none
  | _ => none

/-- The value of a digit in bases up to 16. -/
def digit? (base : Nat) (c : Char) : Option Nat :=
  let n := if c.isDigit then c.toNat - 48
    else if 'a' ≤ c && c ≤ 'f' then c.toNat - 87
    else if 'A' ≤ c && c ≤ 'F' then c.toNat - 55
    else 16
  if n < base then some n else none

/-- The number that digits stand for, of which there must be one. -/
def number? (base : Nat) (cs : List Char) : Option Nat :=
  if cs.isEmpty then none
  else (cs.mapM (digit? base)).map (·.foldl (fun n d => n * base + d) 0)

/-- The natural number of a plain scalar: decimal without a leading zero, or with
a mark of its base. A plus sign may stand in front. -/
def nat? : Node → Option Nat
  | scalar text true =>
    let cs := match text.toList with
      | '+' :: cs => cs
      | cs => cs
    match cs with
    | '0' :: 'x' :: ds => number? 16 ds
    | '0' :: 'o' :: ds => number? 8 ds
    | '0' :: 'b' :: ds => number? 2 ds
    | '0' :: _ :: _ => none
    | ds => number? 10 ds
  | _ => none

/-- The entries of a map under their keys, which must be scalars. A value that is
left out is an empty map. -/
def entries? : Node → Option (List (String × Node))
  | map entries => entries.mapM fun (k, v) => do return (← k.text?, v)
  | scalar "" true => some []
  | _ => none

/-- The values under a key. -/
def values (key : String) (entries : List (String × Node)) : List Node :=
  (entries.filter (·.1 == key)).map (·.2)

end Node

/-- The value of a field: the default where the key is missing, and nothing where
it is repeated or has no value of the right kind. -/
def field (entries : List (String × Node)) (key : String) (read : Node → Option α) (default : α) :
    Option α :=
  match Node.values key entries with
  | [] => some default
  | [v] => read v
  | _ => none

end CloudEmulator.Yaml
