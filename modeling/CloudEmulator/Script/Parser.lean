import CloudEmulator.Script.Lexer
import CloudEmulator.Script.Tree

/-!
# Reading scripts

From words to syntax trees. Every reader takes words from the front of what is
left and never more; expressions may nest up to a limit, which is lower inside
of functions.
-/

namespace CloudEmulator.Script

/-- What surrounds the words under reading. -/
structure Surroundings where
  depth : Nat := 0
  limit : Nat := 128
  inFunction : Bool := false
  inLoop : Bool := false
  atTop : Bool := false
  /-- A bar separates the labels of a case here, and is no operator. -/
  inLabels : Bool := false

/-- What has been read: the words left, the functions, and the variables in
view, last first, each with whether it is constant. -/
structure Reading where
  rest : List Token
  functions : List Function := []
  names : List (String × Bool) := []

/-- A reader of a part of a script. -/
abbrev Parser := StateT Reading (Except SyntaxFault)

namespace Parser

/-- How deeply expressions of a file may nest. -/
def fileLimit : Nat := 128

/-- How deeply expressions of a function may nest. -/
def functionLimit : Nat := 64

/-- One level further down. -/
def deeper (around : Surroundings) : Parser Surroundings :=
  if around.depth < around.limit then pure { around with depth := around.depth + 1 }
  else throw .tooDeep

/-- The next word, left in place. -/
def peek : Parser (Option Token) :=
  return (← get).rest.head?

/-- Take one word. -/
def take : Parser Token := do
  let r ← get
  match r.rest with
  | t :: rest => set { r with rest }; return t
  | [] => throw .unexpected

/-- Drop one word. -/
def drop : Parser Unit :=
  modify fun r => { r with rest := r.rest.drop 1 }

/-- The next word is the symbol. -/
def atSymbol (s : String) : Parser Bool := do
  match ← peek with
  | some (.symbol t) => return t == s
  | _ => return false

/-- The next word is the keyword. -/
def atKeyword (s : String) : Parser Bool := do
  match ← peek with
  | some (.keyword t) => return t == s
  | _ => return false

/-- Take a symbol if it stands here. -/
def takeSymbol? (s : String) : Parser Bool := do
  if ← atSymbol s then drop; return true else return false

/-- Take a keyword if it stands here. -/
def takeKeyword? (s : String) : Parser Bool := do
  if ← atKeyword s then drop; return true else return false

/-- Take a symbol, which must stand here. -/
def symbol (s : String) : Parser Unit := do
  unless ← takeSymbol? s do throw .unexpected

/-- Take a keyword, which must stand here. -/
def keyword (s : String) : Parser Unit := do
  unless ← takeKeyword? s do throw .unexpected

/-- Take a name that may be given to something. -/
def newName : Parser String := do
  match ← take with
  | .name s => if Token.reservedFunctions.contains s then throw (.reserved s) else return s
  | _ => throw .unexpected

/-- Bring a variable into view. -/
def declare (name : String) (isConst : Bool) : Parser Unit :=
  modify fun r => { r with names := (name, isConst) :: r.names }

/-- Read a part whose variables go out of view behind it. -/
def inScope (p : Parser α) : Parser α := do
  let before := (← get).names
  let a ← p
  modify fun r => { r with names := before }
  return a

/-- How an operator binds: its strength, whether it groups to the right, and what
it builds. Nothing binds with strength zero. -/
structure Binding where
  strength : Nat
  toRight : Bool := false
  build : Expr → Expr → Expr

/-- An operator that computes from both operands. -/
def computing (strength : Nat) (op : BinaryOp) : Binding :=
  ⟨strength, false, .binary op⟩

/-- The binary operator of a symbol. -/
def binding? : Token → Option Binding
  | .symbol "||" => some ⟨30, false, .shortcut .or⟩
  | .symbol "|" => some (computing 30 .bitOr)
  | .symbol "^" => some (computing 30 .bitXor)
  | .symbol "&&" => some ⟨60, false, .shortcut .and⟩
  | .symbol "&" => some (computing 60 .bitAnd)
  | .symbol "==" => some (computing 90 .equal)
  | .symbol "!=" => some (computing 90 .unequal)
  | .keyword "in" => some (computing 110 .member)
  | .symbol "!in" => some (computing 110 .notMember)
  | .symbol "<" => some (computing 130 .less)
  | .symbol "<=" => some (computing 130 .lessEqual)
  | .symbol ">" => some (computing 130 .greater)
  | .symbol ">=" => some (computing 130 .greaterEqual)
  | .symbol "??" => some ⟨135, false, .shortcut .coalesce⟩
  | .symbol ".." => some (computing 140 .range)
  | .symbol "..=" => some (computing 140 .closedRange)
  | .symbol "+" => some (computing 150 .add)
  | .symbol "-" => some (computing 150 .sub)
  | .symbol "*" => some (computing 180 .mul)
  | .symbol "/" => some (computing 180 .div)
  | .symbol "%" => some (computing 180 .mod)
  | .symbol "**" => some ⟨190, true, .binary .pow⟩
  | .symbol "<<" => some (computing 210 .shiftLeft)
  | .symbol ">>" => some (computing 210 .shiftRight)
  | _ => none

/-- The operator that stands here, as far as the surroundings know it. -/
def currentBinding (around : Surroundings) : Parser (Option Binding) := do
  match ← peek with
  | some (.symbol "|") => return if around.inLabels then none else some (computing 30 .bitOr)
  | some t => return binding? t
  | none => return none

/-- The operator that an assignment combines with, if the symbol assigns. -/
def assignment? : Token → Option (Option BinaryOp)
  | .symbol "=" => some none
  | .symbol "+=" => some (some .add)
  | .symbol "-=" => some (some .sub)
  | .symbol "*=" => some (some .mul)
  | .symbol "/=" => some (some .div)
  | .symbol "%=" => some (some .mod)
  | .symbol "**=" => some (some .pow)
  | .symbol "<<=" => some (some .shiftLeft)
  | .symbol ">>=" => some (some .shiftRight)
  | .symbol "&=" => some (some .bitAnd)
  | .symbol "|=" => some (some .bitOr)
  | .symbol "^=" => some (some .bitXor)
  | _ => none

/-- Build what an operator makes of two operands. Operators on conditions refuse
operands that are never conditions. -/
def build (b : Binding) (left right : Expr) : Parser Expr :=
  match b.build left right with
  | .shortcut .coalesce l r => return .shortcut .coalesce l r
  | .shortcut op l r =>
    if l.isNeverBool || r.isNeverBool then throw .wrongType else return .shortcut op l r
  | e => return e

/-- Check that a value can be assigned to the expression. -/
def checkTarget : Expr → Parser Unit
  | .variable name => do
    if (← get).names.lookup name == some true then throw .notAssignable
  | .this => return
  | .chain (.variable _) links | .chain .this links =>
    if Expr.linksAssignable links then return else throw .notAssignable
  | _ => throw .notAssignable

/-- The label of a case, from an expression that is constant. -/
def caseLabel : Expr → Parser CaseLabel
  | .literal v => return .value v
  | .binary .range (.literal (.int low)) (.literal (.int high)) => return .range low high false
  | .binary .closedRange (.literal (.int low)) (.literal (.int high)) => return .range low high true
  | _ => throw .unexpected

/-- The negation of an expression, computed at once for numbers. -/
def negated : Expr → Expr
  | .literal (.int n) =>
    if Value.inRange (-n) then .literal (.int (-n)) else .unary .negate (.literal (.int n))
  | .literal (.float x) => .literal (.float (-x))
  | e => .unary .negate e

/-- The statement that an expression stands for when it is a block in itself. -/
def asBlock : Stmt → Expr
  | .expr e => e
  | s => .block [s]

mutual

/-- Read an expression. -/
def expr (fuel : Nat) (around : Surroundings) : Parser Expr :=
  match fuel with
  | 0 => throw .tooDeep
  | fuel + 1 => do
    let around ← deeper around
    let left ← unary fuel around
    operators fuel around 1 left

/-- Read the operators that bind stronger than `strength`, and their operands. -/
def operators (fuel : Nat) (around : Surroundings) (strength : Nat) (left : Expr) : Parser Expr :=
  match fuel with
  | 0 => throw .tooDeep
  | fuel + 1 => do
    match ← currentBinding around with
    | none => return left
    | some b =>
      if b.strength < strength || (b.strength == strength && !b.toRight) then return left
      drop
      let right ← unary fuel around
      let next := ((← currentBinding around).map (·.strength)).getD 0
      let deep ← deeper around
      let right ← if b.strength < next || (b.strength == next && b.toRight) then
          operators fuel deep b.strength right
        else pure right
      operators fuel deep strength (← build b left right)

/-- Read an expression that begins with its signs. -/
def unary (fuel : Nat) (around : Surroundings) : Parser Expr :=
  match fuel with
  | 0 => throw .tooDeep
  | fuel + 1 => do
    if ← takeSymbol? "-" then return negated (← unary fuel (← deeper around))
    else if ← takeSymbol? "+" then
      match ← unary fuel (← deeper around) with
      | .literal (.int n) => return .literal (.int n)
      | .literal (.float x) => return .literal (.float x)
      | e => return .unary .plus e
    else if ← takeSymbol? "!" then return .unary .not (← unary fuel (← deeper around))
    else links fuel around (← primary fuel around) []

/-- Read an expression that no operator takes apart. -/
def primary (fuel : Nat) (around : Surroundings) : Parser Expr :=
  match fuel with
  | 0 => throw .tooDeep
  | fuel + 1 => do
    match ← peek with
    | some (.int n) => drop; return .literal (.int n)
    | some (.float x) => drop; return .literal (.float x)
    | some (.char c) => drop; return .literal (.char c)
    | some (.str s) => drop; return .literal (.str s)
    | some (.piece s false) => drop; return .literal (.str s)
    | some (.piece _ true) => return .template (← pieces fuel (← deeper around) [])
    | some (.keyword "true") => drop; return .literal (.bool true)
    | some (.keyword "false") => drop; return .literal (.bool false)
    | some (.keyword "this") =>
      drop
      if around.inFunction then return .this else throw .misplaced
    | some (.keyword "if") | some (.keyword "switch") | some (.keyword "while")
    | some (.keyword "loop") | some (.keyword "do") | some (.keyword "for")
    | some (.symbol "\x7b") =>
      return asBlock (← statement fuel { (← deeper around) with atTop := false })
    | some (.symbol "(") =>
      drop
      if ← takeSymbol? ")" then return .literal .unit
      let e ← expr fuel { (← deeper around) with inLabels := false }
      symbol ")"
      return e
    | some (.symbol "[") =>
      drop
      return .array (← items fuel { (← deeper around) with inLabels := false } "]")
    | some (.symbol "#\x7b") =>
      drop
      return .map (← entries fuel { (← deeper around) with inLabels := false } [])
    | some (.name s) =>
      drop
      if ← takeSymbol? "(" then
        return .call s (← items fuel { (← deeper around) with inLabels := false } ")")
      else if Token.reservedFunctions.contains s then throw (.reserved s)
      else return .variable s
    | _ => throw .unexpected

/-- Read the pieces of a text with insertions; the parts come last first. -/
def pieces (fuel : Nat) (around : Surroundings) (sofar : List Expr) : Parser (List Expr) :=
  match fuel with
  | 0 => throw .tooDeep
  | fuel + 1 => do
    match ← take with
    | .piece s more =>
      let sofar := if s.isEmpty then sofar else .literal (.str s) :: sofar
      if more then
        let body ← block fuel { around with atTop := false, inLabels := false }
        pieces fuel around (.block body :: sofar)
      else return sofar.reverse
    | _ => throw .unexpected

/-- Read expressions with commas between them up to a closing symbol. -/
def items (fuel : Nat) (around : Surroundings) (closing : String) : Parser (List Expr) :=
  match fuel with
  | 0 => throw .tooDeep
  | fuel + 1 => do
    if ← takeSymbol? closing then return []
    let e ← expr fuel around
    if ← takeSymbol? "," then return e :: (← items fuel around closing)
    symbol closing
    return [e]

/-- Read the entries of a map; their names must differ. -/
def entries (fuel : Nat) (around : Surroundings) (names : List String) :
    Parser (List (String × Expr)) :=
  match fuel with
  | 0 => throw .tooDeep
  | fuel + 1 => do
    if ← takeSymbol? "\x7d" then return []
    let name ← match ← take with
      | .name s => if Token.reservedFunctions.contains s then throw (.reserved s) else pure s
      | .str s | .piece s false => pure s
      | _ => throw .unexpected
    if names.contains name then throw (.duplicate name)
    symbol ":"
    let e ← expr fuel around
    if ← takeSymbol? "," then return (name, e) :: (← entries fuel around (name :: names))
    symbol "\x7d"
    return [(name, e)]

/-- Read the links behind the root of a chain; they come last first. -/
def links (fuel : Nat) (around : Surroundings) (root : Expr) (sofar : List Link) : Parser Expr :=
  match fuel with
  | 0 => throw .tooDeep
  | fuel + 1 => do
    match ← peek with
    | some (.symbol "[") | some (.symbol "?[") =>
      let isOptional ← atSymbol "?["
      drop
      let e ← expr fuel { (← deeper around) with inLabels := false }
      symbol "]"
      if sofar.isEmpty && !root.canIndex e then throw .wrongType
      links fuel around root (.index e isOptional :: sofar)
    | some (.symbol ".") | some (.symbol "?.") =>
      let isOptional ← atSymbol "?."
      drop
      match ← take with
      | .name s =>
        if ← takeSymbol? "(" then
          let args ← items fuel { (← deeper around) with inLabels := false } ")"
          links fuel around root (.method s args isOptional :: sofar)
        else if Token.reservedFunctions.contains s then throw (.reserved s)
        else links fuel around root (.property s isOptional :: sofar)
      | _ => throw .unexpected
    | _ => return if sofar.isEmpty then root else .chain root sofar.reverse

/-- Read a condition, which no brace may begin. -/
def condition (fuel : Nat) (around : Surroundings) : Parser Expr :=
  match fuel with
  | 0 => throw .tooDeep
  | fuel + 1 => do
    if ← atSymbol "\x7b" then throw .unexpected
    let e ← expr fuel around
    if e.isNeverBool then throw .wrongType
    return e

/-- Read a block between braces. -/
def block (fuel : Nat) (around : Surroundings) : Parser (List Stmt) :=
  match fuel with
  | 0 => throw .tooDeep
  | fuel + 1 => do
    symbol "\x7b"
    inScope (statements fuel (← deeper around))

/-- Read the statements of a block up to its closing brace. -/
def statements (fuel : Nat) (around : Surroundings) : Parser (List Stmt) :=
  match fuel with
  | 0 => throw .tooDeep
  | fuel + 1 => do
    if ← takeSymbol? "\x7d" then return []
    else if ← takeSymbol? ";" then statements fuel around
    else
      let s ← statement fuel (← deeper around)
      if ← takeSymbol? "\x7d" then return [s]
      unless (← takeSymbol? ";") || s.endsItself do throw .unexpected
      return s :: (← statements fuel around)

/-- Read a branch, from its keyword on. -/
def branch (fuel : Nat) (around : Surroundings) : Parser Stmt :=
  match fuel with
  | 0 => throw .tooDeep
  | fuel + 1 => do
    keyword "if"
    let c ← condition fuel around
    let yes ← block fuel around
    if ← takeKeyword? "else" then
      if ← atKeyword "if" then return .branch c yes [← branch fuel (← deeper around)]
      else return .branch c yes (← block fuel around)
    else return .branch c yes []

/-- Read the labels of a case. -/
def labels (fuel : Nat) (around : Surroundings) : Parser (List CaseLabel) :=
  match fuel with
  | 0 => throw .tooDeep
  | fuel + 1 => do
    let label ← caseLabel (← expr fuel { around with inLabels := true })
    if ← takeSymbol? "|" then return label :: (← labels fuel around)
    else return [label]

/-- Read the cases of a switch up to its closing brace. -/
def cases (fuel : Nat) (around : Surroundings) (sofar : List Case) (otherwise : Option Stmt) :
    Parser (List Case × Option Stmt) :=
  match fuel with
  | 0 => throw .tooDeep
  | fuel + 1 => do
    if ← takeSymbol? "\x7d" then return (sofar.reverse, otherwise)
    if otherwise.isSome then throw .misplaced
    let isDefault ← takeSymbol? "_"
    let ls ← if isDefault then pure [] else labels fuel around
    let guard ← if ← takeKeyword? "if" then
        if isDefault then throw .misplaced else some <$> condition fuel around
      else pure none
    symbol "=>"
    let action ← statement fuel { (← deeper around) with atTop := false }
    unless (← takeSymbol? ",") || (← atSymbol "\x7d") || action.endsItself do throw .unexpected
    if isDefault then cases fuel around sofar (some action)
    else cases fuel around (.mk ls guard action :: sofar) otherwise

/-- Read a loop over items, behind its keyword. -/
def each (fuel : Nat) (around : Surroundings) : Parser Stmt :=
  match fuel with
  | 0 => throw .tooDeep
  | fuel + 1 => do
    let (name, counter) ← if ← takeSymbol? "(" then do
        let name ← newName
        symbol ","
        let counter ← newName
        if name == counter then throw (.duplicate name)
        symbol ")"
        pure (name, some counter)
      else do pure (← newName, none)
    keyword "in"
    if ← atSymbol "\x7b" then throw .unexpected
    let e ← expr fuel around
    if e.isNeverIterable then throw .wrongType
    let body ← inScope do
      match counter with
      | some counter => declare counter false
      | none => pure ()
      declare name false
      block fuel { around with inLoop := true, atTop := false }
    return .each name counter e body

/-- Read an expression where one may be left out: before a semicolon, a closing
brace or the end. -/
def optionalExpr (fuel : Nat) (around : Surroundings) : Parser (Option Expr) :=
  match fuel with
  | 0 => throw .tooDeep
  | fuel + 1 => do
    match ← peek with
    | none | some (.symbol ";") | some (.symbol "\x7d") => return none
    | _ => some <$> expr fuel around

/-- Read a statement. -/
def statement (fuel : Nat) (around : Surroundings) : Parser Stmt :=
  match fuel with
  | 0 => throw .tooDeep
  | fuel + 1 => do
    let inner := { around with atTop := false }
    match ← peek with
    | some (.symbol "\x7b") => return .block (← block fuel inner)
    | some (.keyword "if") => branch fuel (← deeper inner)
    | some (.keyword "switch") =>
      drop
      if ← atSymbol "\x7b" then throw .unexpected
      let inner ← deeper inner
      let subject ← expr fuel inner
      symbol "\x7b"
      let (cs, otherwise) ← cases fuel inner [] none
      return .switch subject cs otherwise
    | some (.keyword "while") =>
      drop
      let inner ← deeper inner
      let c ← condition fuel inner
      return .loop (some c) (← block fuel { inner with inLoop := true })
    | some (.keyword "loop") =>
      drop
      return .loop none (← block fuel { (← deeper inner) with inLoop := true })
    | some (.keyword "do") =>
      drop
      let inner ← deeper inner
      let body ← block fuel { inner with inLoop := true }
      let goOn ← if ← takeKeyword? "while" then pure true
        else do keyword "until"; pure false
      return .repeated body (← condition fuel inner) goOn
    | some (.keyword "for") => drop; each fuel (← deeper inner)
    | some (.keyword "continue") =>
      drop
      if around.inLoop then return .skip else throw .misplaced
    | some (.keyword "break") =>
      drop
      if around.inLoop then return .leave (← optionalExpr fuel inner) else throw .misplaced
    | some (.keyword "return") => drop; return .answer (← optionalExpr fuel inner)
    | some (.keyword "throw") => drop; return .raise (← optionalExpr fuel inner)
    | some (.keyword "try") =>
      drop
      let inner ← deeper inner
      let body ← block fuel inner
      keyword "catch"
      let name ← if ← takeSymbol? "(" then do
          let name ← newName
          symbol ")"
          pure (some name)
        else pure none
      let handler ← inScope do
        match name with
        | some name => declare name false
        | none => pure ()
        block fuel inner
      return .guard body name handler
    | some (.keyword "let") => drop; bind fuel inner false
    | some (.keyword "const") => drop; bind fuel inner true
    | some (.keyword "import") =>
      drop
      let source ← expr fuel inner
      if ← takeKeyword? "as" then let _ ← newName
      return .load source
    | some (.keyword "export") =>
      drop
      unless around.atTop do throw .misplaced
      if ← takeKeyword? "let" then bind fuel inner false
      else if ← takeKeyword? "const" then bind fuel inner true
      else
        let name ← newName
        if ← takeKeyword? "as" then let _ ← newName
        return .expr (.variable name)
    | some (.keyword "fn") | some (.keyword "private") =>
      unless around.atTop do throw .misplaced
      let _ ← takeKeyword? "private"
      keyword "fn"
      function fuel
      return .block []
    | _ =>
      let inner ← deeper inner
      let target ← expr fuel inner
      match (← peek).bind assignment? with
      | none => return .expr target
      | some op =>
        drop
        let value ← expr fuel inner
        checkTarget target
        return .assign op target value

/-- Read the declaration of a variable behind its keyword. -/
def bind (fuel : Nat) (around : Surroundings) (isConst : Bool) : Parser Stmt :=
  match fuel with
  | 0 => throw .tooDeep
  | fuel + 1 => do
    let name ← newName
    let start ← if ← takeSymbol? "=" then some <$> expr fuel around else pure none
    declare name isConst
    return .bind name isConst start

/-- Read the parameters of a function up to the closing parenthesis. -/
def params (fuel : Nat) (sofar : List String) : Parser (List String) :=
  match fuel with
  | 0 => throw .tooDeep
  | fuel + 1 => do
    if ← takeSymbol? ")" then return sofar.reverse
    let name ← newName
    if sofar.contains name then throw (.duplicate name)
    if ← takeSymbol? "," then params fuel (name :: sofar)
    else
      symbol ")"
      return (name :: sofar).reverse

/-- Read a function behind its keyword. No two functions share name and arity. -/
def function (fuel : Nat) : Parser Unit :=
  match fuel with
  | 0 => throw .tooDeep
  | fuel + 1 => do
    let name ← newName
    symbol "("
    let ps ← params fuel []
    if (← get).functions.any fun f => f.name == name && f.arity == ps.length then
      throw (.duplicate name)
    let names := (← get).names
    modify fun r => { r with names := ps.map (·, false) }
    let body ← block fuel { limit := functionLimit, inFunction := true }
    modify fun r => { r with names, functions := r.functions ++ [⟨name, ps, body⟩] }

end

/-- Read the statements of a file up to its end. -/
def file (steps fuel : Nat) : Parser (List Stmt) :=
  match steps with
  | 0 => throw .tooDeep
  | steps + 1 => do
    match ← peek with
    | none => return []
    | some (.symbol ";") => drop; file steps fuel
    | _ =>
      let s ← statement fuel { limit := fileLimit, atTop := true }
      if (← peek).isNone then return [s]
      unless (← takeSymbol? ";") || s.endsItself do throw .unexpected
      return s :: (← file steps fuel)

end Parser

/-- The script that a text stands for. Some forms of the language are not read, and their texts
are refused: anonymous functions and what they capture, methods for values of one type, and the
constants of a file by the name `global`. An `import` is read, and finds no module when it runs. -/
def Program.ofSource (source : String) : Except SyntaxFault Program := do
  let words ← tokens source
  let fuel := 16 * (words.length + 4)
  let (body, reading) ← (Parser.file (words.length + 1) fuel).run { rest := words }
  return ⟨reading.functions, body⟩

end CloudEmulator.Script
