import CloudEmulator.Script.Evaluation

/-!
# Functions that a script finds

A script comes to its functions by name and number of arguments alone. So two scripts that
find the same functions run alike, in whatever order they define them.
-/

namespace CloudEmulator.Script

variable {functions functions' : List Function} {fuel : Nat}

/-- The same function, or none, is found for every name and number of parameters. -/
def Function.FoundAlike (functions functions' : List Function) : Prop :=
  ∀ name arity, find? functions name arity = find? functions' name arity

/-- With so many steps, all parts of a script run alike on both lists of functions. -/
structure RunAlike (functions functions' : List Function) (fuel : Nat) : Prop where
  evaluate : evaluate fuel functions = evaluate fuel functions'
  evaluateAll : evaluateAll fuel functions = evaluateAll fuel functions'
  evaluateLinks : evaluateLinks fuel functions = evaluateLinks fuel functions'
  follow : follow fuel functions = follow fuel functions'
  followTo : followTo fuel functions = followTo fuel functions'
  callMethod : callMethod fuel functions = callMethod fuel functions'
  callScript : callScript fuel functions = callScript fuel functions'
  evaluateCall : evaluateCall fuel functions = evaluateCall fuel functions'
  callLibrary : callLibrary fuel functions = callLibrary fuel functions'
  runAll : runAll fuel functions = runAll fuel functions'
  run : run fuel functions = run fuel functions'
  evaluateOr : evaluateOr fuel functions = evaluateOr fuel functions'
  runCase : runCase fuel functions = runCase fuel functions'
  runLoop : runLoop fuel functions = runLoop fuel functions'
  runRepeated : runRepeated fuel functions = runRepeated fuel functions'
  runEach : runEach fuel functions = runEach fuel functions'

/-- Without steps nothing runs. -/
theorem runAlike_zero (functions functions' : List Function) :
    RunAlike functions functions' 0 := by
  constructor <;> rfl

/-- One more step finds the same functions and goes on alike. -/
theorem RunAlike.succ (h : RunAlike functions functions' fuel)
    (hfound : Function.FoundAlike functions functions') :
    RunAlike functions functions' (fuel + 1) := by
  constructor
  case evaluate =>
    funext e
    simp only [Script.evaluate, h.evaluate, h.evaluateAll, h.evaluateCall, h.evaluateLinks,
      h.follow, h.runAll]
  case evaluateAll =>
    funext es
    simp only [Script.evaluateAll, h.evaluate, h.evaluateAll]
  case evaluateLinks =>
    funext links
    simp only [Script.evaluateLinks, h.evaluate, h.evaluateAll, h.evaluateLinks]
  case follow =>
    funext v path
    simp only [Script.follow, h.follow, h.followTo, h.callMethod]
  case followTo =>
    funext v target path
    simp only [Script.followTo, h.follow]
  case callMethod =>
    have hsame (name : String) (arity : Nat) :
        Function.find? functions name arity = Function.find? functions' name arity :=
      hfound name arity
    funext name v args
    simp only [Script.callMethod, hsame, h.callScript]
  case callScript =>
    funext f args self
    simp only [Script.callScript, h.runAll]
  case evaluateCall =>
    funext name args
    simp only [Script.evaluateCall, hfound name args.length, h.evaluateAll, h.callScript,
      h.callLibrary]
  case callLibrary =>
    funext name args
    simp only [Script.callLibrary, h.runAll]
  case runAll =>
    funext body last
    simp only [Script.runAll, h.run, h.runAll]
  case run =>
    funext s
    simp only [Script.run, h.evaluate, h.evaluateLinks, h.evaluateOr, h.runAll, h.runCase,
      h.runLoop, h.runRepeated, h.runEach]
  case evaluateOr =>
    funext e
    simp only [Script.evaluateOr, h.evaluate]
  case runCase =>
    funext cases otherwise
    simp only [Script.runCase, h.evaluate, h.run, h.runCase]
  case runLoop =>
    funext condition body
    simp only [Script.runLoop, h.evaluate, h.runAll, h.runLoop]
  case runRepeated =>
    funext body condition goOn
    simp only [Script.runRepeated, h.evaluate, h.runAll, h.runRepeated]
  case runEach =>
    funext name counter index items body
    simp only [Script.runEach, h.runAll, h.runEach]

/-- With any number of steps, scripts that find the same functions run alike. -/
theorem runAlike (hfound : Function.FoundAlike functions functions') (fuel : Nat) :
    RunAlike functions functions' fuel := by
  induction fuel with
  | zero => exact runAlike_zero functions functions'
  | succ fuel ih => exact ih.succ hfound

/-- With the same readings of the clocks, a call ends alike in scripts that find the same
functions, whatever their files do. -/
theorem Program.call_congr {program program' : Program}
    (hfound : Function.FoundAlike program.functions program'.functions) (clock : Clock)
    (name : String) (args : List Value) (this : Option Value) :
    program.call clock name args this = program'.call clock name args this := by
  unfold call
  rw [hfound name args.length, (runAlike hfound supply).runAll]

end CloudEmulator.Script
