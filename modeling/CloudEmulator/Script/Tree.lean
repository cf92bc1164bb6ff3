import CloudEmulator.Script.Value

/-!
# Syntax trees of scripts

Statements have values, so that any statement may stand where an expression is
expected; `Expr.block` does that.
-/

namespace CloudEmulator.Script

/-- Operators that compute from the values of both operands. -/
inductive BinaryOp where
  | add | sub | mul | div | mod | pow | shiftLeft | shiftRight | bitAnd | bitOr | bitXor
  | equal | unequal | less | lessEqual | greater | greaterEqual
  | range | closedRange | member | notMember
  deriving DecidableEq, Repr

/-- Operators that may leave out their right operand. -/
inductive ShortcutOp where
  | and | or | coalesce
  deriving DecidableEq, Repr

/-- Operators with one operand. -/
inductive UnaryOp where
  | negate | plus | not
  deriving DecidableEq, Repr

/-- What a case of a switch stands for. -/
inductive CaseLabel where
  | value (v : Value)
  | range (low high : Int) (closed : Bool)

mutual

/-- An expression. -/
inductive Expr where
  | literal (v : Value)
  | template (parts : List Expr)
  | array (items : List Expr)
  | map (entries : List (String × Expr))
  | variable (name : String)
  | this
  | unary (op : UnaryOp) (e : Expr)
  | binary (op : BinaryOp) (left right : Expr)
  | shortcut (op : ShortcutOp) (left right : Expr)
  | call (name : String) (args : List Expr)
  | chain (root : Expr) (links : List Link)
  | block (body : List Stmt)

/-- One link of a chain behind its root. An optional link ends the chain when
there is nothing to go on from. -/
inductive Link where
  | property (name : String) (isOptional : Bool)
  | index (e : Expr) (isOptional : Bool)
  | method (name : String) (args : List Expr) (isOptional : Bool)

/-- A statement. -/
inductive Stmt where
  | expr (e : Expr)
  | bind (name : String) (isConst : Bool) (start : Option Expr)
  | assign (op : Option BinaryOp) (target value : Expr)
  | block (body : List Stmt)
  | branch (condition : Expr) (yes no : List Stmt)
  | switch (subject : Expr) (cases : List Case) (otherwise : Option Stmt)
  /-- Repeats while the condition holds, or until it is left. -/
  | loop (condition : Option Expr) (body : List Stmt)
  /-- Repeats as long as the condition has the value `goOn`. -/
  | repeated (body : List Stmt) (condition : Expr) (goOn : Bool)
  | each (name : String) (counter : Option String) (items : Expr) (body : List Stmt)
  | leave (value : Option Expr)
  | skip
  | answer (value : Option Expr)
  | raise (value : Option Expr)
  | guard (body : List Stmt) (name : Option String) (handler : List Stmt)
  | load (source : Expr)

/-- One case of a switch: its labels, its condition and what it runs. -/
inductive Case where
  | mk (labels : List CaseLabel) (condition : Option Expr) (action : Stmt)

end

deriving instance Inhabited for Expr, Stmt

/-- A function that a script defines. -/
structure Function where
  name : String
  params : List String
  body : List Stmt

/-- The number of parameters of a function. -/
def Function.arity (f : Function) : Nat :=
  f.params.length

/-- A script: its functions and the statements of the file itself. -/
structure Program where
  functions : List Function := []
  body : List Stmt := []

namespace Stmt

/-- The statement needs no semicolon behind it. -/
def endsItself : Stmt → Bool
  | block _ | branch .. | switch .. | loop .. | each .. | guard .. => true
  | _ => false

end Stmt

namespace Expr

/-- The expression can have no boolean value. -/
def isNeverBool : Expr → Bool
  | literal (.bool _) => false
  | literal _ | template _ | array _ | map _ => true
  | _ => false

/-- The expression can have no items to go through. -/
def isNeverIterable : Expr → Bool
  | literal .unit | literal (.bool _) | literal (.int _) | literal (.float _) | literal (.char _) =>
    true
  | map _ => true
  | _ => false

/-- The expression has no parts to be found by index. -/
def isNeverIndexed : Expr → Bool
  | literal .unit | literal (.bool _) | literal (.float _) | literal (.char _) => true
  | shortcut .. => true
  | _ => false

/-- The index can find something in the expression. -/
def canIndex (root index : Expr) : Bool :=
  match index with
  | literal (.int _) =>
    !root.isNeverIndexed && (match root with | map _ => false | _ => true)
  | literal (.str _) | template _ =>
    !root.isNeverIndexed &&
      (match root with
        | array _ | template _ | literal (.str _) | literal (.int _) => false
        | _ => true)
  | literal _ | shortcut .. => false
  | _ => true

/-- The links lead to a part that may be set. -/
def linksAssignable : List Link → Bool
  | [] => true
  | .property _ false :: links | .index _ false :: links => linksAssignable links
  | _ :: _ => false

/-- The value of an expression that needs no evaluation. -/
def constant? : Expr → Option Value
  | literal v => some v
  | _ => none

end Expr

end CloudEmulator.Script
