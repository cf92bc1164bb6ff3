/-!
# Faults of running scripts
-/

namespace CloudEmulator.Script

/-- Why a script cannot go on. A script may catch any of these. -/
inductive Fault where
  | overflow
  | divisionByZero
  | unknownVariable (name : String)
  | unknownFunction (name : String)
  | unknownProperty (name : String)
  | outOfBounds
  | readOnly (name : String)
  | wrongType (found : String)
  | noThis
  | notIterable
  | badText
  | noModule
  deriving DecidableEq, Repr

namespace Fault

/-- The kind of a fault, as a script that catches it sees it. -/
def kind : Fault → String
  | overflow | divisionByZero => "ErrorArithmetic"
  | unknownVariable _ => "ErrorVariableNotFound"
  | unknownFunction _ => "ErrorFunctionNotFound"
  | unknownProperty _ => "ErrorDotExpr"
  | outOfBounds => "ErrorArrayBounds"
  | readOnly _ => "ErrorAssignmentToConstant"
  | wrongType _ => "ErrorMismatchDataType"
  | noThis => "ErrorUnboundThis"
  | notIterable => "ErrorFor"
  | badText => "ErrorRuntime"
  | noModule => "ErrorModuleNotFound"

end Fault

end CloudEmulator.Script
