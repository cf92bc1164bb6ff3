import CloudEmulator.Proofs.Fallible
import CloudEmulator.Proofs.Script.Lookup

/-!
# The signatures of functions

A function is read only at the top of a file, and only if no function before has its name and
its number of parameters. So a script that is read has one function for each signature.
-/

namespace CloudEmulator.Script

/-- No two functions share name and number of parameters. -/
def Function.Distinct (functions : List Function) : Prop :=
  functions.Pairwise fun f g => ¬ (f.name = g.name ∧ f.arity = g.arity)

section Distinct

variable {functions functions' : List Function} {name : String} {arity : Nat} {f : Function}

/-- Among functions of distinct signatures, the one that is found is the one that is there. -/
theorem Function.Distinct.find?_eq_some (h : Distinct functions) :
    find? functions name arity = some f ↔ f ∈ functions ∧ f.name = name ∧ f.arity = arity := by
  have hmatches : (f.name == name && f.arity == arity) = true ↔
      f.name = name ∧ f.arity = arity := by
    simp
  rw [find?, List.find?_eq_some_iff_append, hmatches]
  constructor
  · rintro ⟨hf, front, later, rfl, -⟩
    exact ⟨List.mem_append_right _ List.mem_cons_self, hf⟩
  · rintro ⟨hmem, hf⟩
    obtain ⟨front, later, rfl⟩ := List.append_of_mem hmem
    refine ⟨hf, front, later, rfl, fun g hg => ?_⟩
    have hother := (List.pairwise_append.mp h).2.2 g hg f List.mem_cons_self
    rw [hf.1, hf.2] at hother
    simpa [imp_iff_not_or] using hother

/-- Functions of distinct signatures are found in whatever order they stand. -/
theorem Function.Distinct.foundAlike (h : Distinct functions) (h' : Distinct functions')
    (hsame : ∀ f, f ∈ functions ↔ f ∈ functions') : FoundAlike functions functions' := by
  intro name arity
  refine Option.ext fun f => ?_
  rw [h.find?_eq_some, h'.find?_eq_some, hsame]

/-- Functions of distinct signatures differ. -/
theorem Function.Distinct.nodup (h : Distinct functions) : functions.Nodup := by
  refine List.Pairwise.imp (fun hother heq => ?_) h
  rw [heq] at hother
  exact hother ⟨rfl, rfl⟩

end Distinct

namespace Parser

variable {α β : Type} {holds : List Function → Prop} {p : Parser α} {fuel : Nat}
  {around : Surroundings}

/-- What holds of the functions before the reader holds of those behind it. -/
def Preserves (holds : List Function → Prop) (p : Parser α) : Prop :=
  ∀ ⦃r a r'⦄, p.run r = .ok (a, r') → holds r.functions → holds r'.functions

section Steps

theorem preserves_pure (a : α) : Preserves holds (pure a) := by
  intro r b r' h
  cases h
  exact id

theorem preserves_throw (fault : SyntaxFault) : Preserves holds (throw fault : Parser α) := by
  intro r b r' h
  cases h

/-- Nothing is read behind a failure. -/
theorem preserves_throw_bind (fault : SyntaxFault) (f : α → Parser β) :
    Preserves holds ((throw fault : Parser α) >>= f) := by
  intro r b r' h
  cases h

/-- A check that ends the reading where it holds. -/
theorem Preserves.refusing {c : Prop} [Decidable c] {fault : SyntaxFault} {f : α → Parser β}
    {q : Parser β} (hq : Preserves holds q) :
    Preserves holds (if c then (throw fault : Parser α) >>= f else q) := by
  split
  · exact preserves_throw_bind fault f
  · exact hq

/-- A check that ends the reading where it does not hold. -/
theorem Preserves.requiring {c : Prop} [Decidable c] {fault : SyntaxFault} {f : α → Parser β}
    {q : Parser β} (hq : Preserves holds q) :
    Preserves holds (if c then q else (throw fault : Parser α) >>= f) := by
  split
  · exact hq
  · exact preserves_throw_bind fault f

theorem preserves_get : Preserves holds (get : Parser Reading) := by
  intro r b r' h
  cases h
  exact id

/-- A change that leaves the functions as they are. -/
theorem preserves_modify {f : Reading → Reading} (hf : ∀ r, (f r).functions = r.functions) :
    Preserves holds (modify f : Parser Unit) := by
  intro r b r' h hr
  cases h
  rw [hf]
  exact hr

theorem Preserves.bind {f : α → Parser β} (hp : Preserves holds p)
    (hf : ∀ a, Preserves holds (f a)) : Preserves holds (p >>= f) := by
  intro r b r' h hr
  rw [StateT.run_bind] at h
  cases hrun : p.run r with
  | error fault =>
    rw [hrun] at h
    cases h
  | ok read =>
    rw [hrun] at h
    exact hf read.1 h (hp hrun hr)

/-- One of two readers, and what follows both. -/
theorem Preserves.either {c : Prop} [Decidable c] {q : Parser α} {f : α → Parser β}
    (hp : Preserves holds p) (hq : Preserves holds q) (hf : ∀ a, Preserves holds (f a)) :
    Preserves holds (if c then p >>= f else q >>= f) := by
  split
  · exact hp.bind hf
  · exact hq.bind hf

theorem Preserves.map {f : α → β} (hp : Preserves holds p) : Preserves holds (f <$> p) := by
  rw [map_eq_pure_bind]
  exact hp.bind fun a => preserves_pure (f a)

theorem preserves_peek : Preserves holds peek :=
  preserves_get.bind fun r => preserves_pure r.rest.head?

theorem preserves_drop : Preserves holds drop :=
  preserves_modify fun _ => rfl

theorem preserves_declare (name : String) (isConst : Bool) :
    Preserves holds (declare name isConst) :=
  preserves_modify fun _ => rfl

theorem preserves_take : Preserves holds take := by
  intro r t r' h
  obtain ⟨rest, functions, names⟩ := r
  cases rest with
  | nil => cases h
  | cons first rest =>
    cases h
    exact id

theorem preserves_atSymbol (s : String) : Preserves holds (atSymbol s) := by
  refine preserves_peek.bind fun t => ?_
  split <;> exact preserves_pure _

theorem preserves_atKeyword (s : String) : Preserves holds (atKeyword s) := by
  refine preserves_peek.bind fun t => ?_
  split <;> exact preserves_pure _

theorem preserves_takeSymbol? (s : String) : Preserves holds (takeSymbol? s) := by
  refine (preserves_atSymbol s).bind fun here => ?_
  split
  · exact preserves_drop.bind fun _ => preserves_pure true
  · exact preserves_pure false

theorem preserves_takeKeyword? (s : String) : Preserves holds (takeKeyword? s) := by
  refine (preserves_atKeyword s).bind fun here => ?_
  split
  · exact preserves_drop.bind fun _ => preserves_pure true
  · exact preserves_pure false

theorem preserves_symbol (s : String) : Preserves holds (symbol s) := by
  refine (preserves_takeSymbol? s).bind fun taken => ?_
  split
  · exact preserves_pure ()
  · exact preserves_throw _

theorem preserves_keyword (s : String) : Preserves holds (keyword s) := by
  refine (preserves_takeKeyword? s).bind fun taken => ?_
  split
  · exact preserves_pure ()
  · exact preserves_throw _

theorem preserves_newName : Preserves holds newName := by
  refine preserves_take.bind fun t => ?_
  split
  · split
    · exact preserves_throw _
    · exact preserves_pure _
  · exact preserves_throw _

/-- The surroundings further down are at the top only if those here are. -/
theorem preserves_deeper_bind {f : Surroundings → Parser β} (h : around.atTop = false)
    (hf : ∀ around : Surroundings, around.atTop = false → Preserves holds (f around)) :
    Preserves holds (deeper around >>= f) := by
  unfold deeper
  split
  · exact (hf _ h)
  · exact preserves_throw_bind _ f

theorem Preserves.inScope (hp : Preserves holds p) : Preserves holds (inScope p) :=
  preserves_get.bind fun _ => hp.bind fun a =>
    Preserves.bind (preserves_modify fun _ => rfl) fun _ => preserves_pure a

theorem preserves_currentBinding (around : Surroundings) :
    Preserves holds (currentBinding around) := by
  refine preserves_peek.bind fun t => ?_
  split <;> exact preserves_pure _

theorem preserves_build (b : Binding) (left right : Expr) :
    Preserves holds (build b left right) := by
  unfold build
  split
  · exact preserves_pure _
  · split
    · exact preserves_throw _
    · exact preserves_pure _
  · exact preserves_pure _

theorem preserves_checkTarget (target : Expr) : Preserves holds (checkTarget target) := by
  unfold checkTarget
  split
  · refine preserves_get.bind fun r => ?_
    split
    · exact preserves_throw _
    · exact preserves_pure _
  · exact preserves_pure _
  · split
    · exact preserves_pure _
    · exact preserves_throw _
  · split
    · exact preserves_pure _
    · exact preserves_throw _
  · exact preserves_throw _

theorem preserves_caseLabel (e : Expr) : Preserves holds (caseLabel e) := by
  unfold caseLabel
  split
  · exact preserves_pure _
  · exact preserves_pure _
  · exact preserves_pure _
  · exact preserves_throw _

end Steps

/-- With so many steps, no reader of a part of a script that is not at the top of a file reads
a function. -/
structure ReadersPreserve (fuel : Nat) : Prop where
  expr : ∀ {holds around}, around.atTop = false → Preserves holds (expr fuel around)
  operators : ∀ {holds around strength left}, around.atTop = false →
    Preserves holds (operators fuel around strength left)
  unary : ∀ {holds around}, around.atTop = false → Preserves holds (unary fuel around)
  primary : ∀ {holds around}, around.atTop = false → Preserves holds (primary fuel around)
  pieces : ∀ {holds around sofar}, around.atTop = false →
    Preserves holds (pieces fuel around sofar)
  items : ∀ {holds around closing}, around.atTop = false →
    Preserves holds (items fuel around closing)
  entries : ∀ {holds around names}, around.atTop = false →
    Preserves holds (entries fuel around names)
  links : ∀ {holds around root sofar}, around.atTop = false →
    Preserves holds (links fuel around root sofar)
  condition : ∀ {holds around}, around.atTop = false → Preserves holds (condition fuel around)
  block : ∀ {holds around}, around.atTop = false → Preserves holds (block fuel around)
  statements : ∀ {holds around}, around.atTop = false → Preserves holds (statements fuel around)
  branch : ∀ {holds around}, around.atTop = false → Preserves holds (branch fuel around)
  labels : ∀ {holds around}, around.atTop = false → Preserves holds (labels fuel around)
  cases : ∀ {holds around sofar otherwise}, around.atTop = false →
    Preserves holds (cases fuel around sofar otherwise)
  each : ∀ {holds around}, around.atTop = false → Preserves holds (each fuel around)
  optionalExpr : ∀ {holds around}, around.atTop = false →
    Preserves holds (optionalExpr fuel around)
  statement : ∀ {holds around}, around.atTop = false → Preserves holds (statement fuel around)
  bind : ∀ {holds around isConst}, around.atTop = false →
    Preserves holds (bind fuel around isConst)
  params : ∀ {holds sofar}, Preserves holds (params fuel sofar)

namespace ReadersPreserve

variable (ih : ReadersPreserve fuel)
include ih

theorem expr_succ (h : around.atTop = false) : Preserves holds (Parser.expr (fuel + 1) around) := by
  unfold Parser.expr
  refine preserves_deeper_bind h fun around h => ?_
  exact (ih.unary h).bind fun left => ih.operators h

theorem operators_succ {strength : Nat} {left : Expr} (h : around.atTop = false) :
    Preserves holds (Parser.operators (fuel + 1) around strength left) := by
  unfold Parser.operators
  refine (preserves_currentBinding around).bind fun b? => ?_
  split
  · exact preserves_pure left
  · split
    · exact preserves_pure left
    refine preserves_drop.bind fun _ => (ih.unary h).bind fun right => ?_
    refine (preserves_currentBinding around).bind fun next? => ?_
    refine preserves_deeper_bind h fun deep hdeep => ?_
    have hgoOn : ∀ b right, Preserves holds
        (Parser.build b left right >>= Parser.operators fuel deep strength) :=
      fun b right => (preserves_build b left right).bind fun _ => ih.operators hdeep
    dsimp only
    split
    · exact (ih.operators hdeep).bind fun right => hgoOn _ right
    · exact hgoOn _ right

theorem unary_succ (h : around.atTop = false) :
    Preserves holds (Parser.unary (fuel + 1) around) := by
  unfold Parser.unary
  refine (preserves_takeSymbol? "-").bind fun minus => ?_
  split
  · exact preserves_deeper_bind h fun around h => (ih.unary h).bind fun e => preserves_pure _
  refine (preserves_takeSymbol? "+").bind fun plus => ?_
  split
  · refine preserves_deeper_bind h fun around h => (ih.unary h).bind fun e => ?_
    split <;> exact preserves_pure _
  refine (preserves_takeSymbol? "!").bind fun not => ?_
  split
  · exact preserves_deeper_bind h fun around h => (ih.unary h).bind fun e => preserves_pure _
  · exact (ih.primary h).bind fun e => ih.links h

theorem primary_succ (h : around.atTop = false) :
    Preserves holds (Parser.primary (fuel + 1) around) := by
  unfold Parser.primary
  refine preserves_peek.bind fun t => ?_
  split
  case h_1 | h_2 | h_3 | h_4 | h_5 | h_7 | h_8 =>
    exact preserves_drop.bind fun _ => preserves_pure _
  case h_6 =>
    exact preserves_deeper_bind h fun around h => (ih.pieces h).bind fun _ => preserves_pure _
  case h_9 =>
    refine preserves_drop.bind fun _ => ?_
    split
    · exact preserves_pure _
    · exact preserves_throw _
  case h_10 | h_11 | h_12 | h_13 | h_14 | h_15 | h_16 =>
    exact preserves_deeper_bind h fun around _ => (ih.statement rfl).bind fun s => preserves_pure _
  case h_17 =>
    refine preserves_drop.bind fun _ => (preserves_takeSymbol? _).bind fun closed => ?_
    split
    · exact preserves_pure _
    · refine preserves_deeper_bind h fun around h => (ih.expr ?_).bind fun e => ?_
      · exact h
      · exact (preserves_symbol _).bind fun _ => preserves_pure e
  case h_18 =>
    refine preserves_drop.bind fun _ => preserves_deeper_bind h fun around h => ?_
    refine (ih.items ?_).bind fun es => preserves_pure _
    exact h
  case h_19 =>
    refine preserves_drop.bind fun _ => preserves_deeper_bind h fun around h => ?_
    refine (ih.entries ?_).bind fun es => preserves_pure _
    exact h
  case h_20 =>
    refine preserves_drop.bind fun _ => (preserves_takeSymbol? _).bind fun opened => ?_
    split
    · refine preserves_deeper_bind h fun around h => ?_
      refine (ih.items ?_).bind fun args => preserves_pure _
      exact h
    · split
      · exact preserves_throw _
      · exact preserves_pure _
  case h_21 => exact preserves_throw _

theorem pieces_succ {sofar : List Expr} (h : around.atTop = false) :
    Preserves holds (Parser.pieces (fuel + 1) around sofar) := by
  unfold Parser.pieces
  refine preserves_take.bind fun t => ?_
  split
  · dsimp only
    split
    · exact (ih.block rfl).bind fun body => ih.pieces h
    · exact preserves_pure _
  · exact preserves_throw _

theorem items_succ {closing : String} (h : around.atTop = false) :
    Preserves holds (Parser.items (fuel + 1) around closing) := by
  unfold Parser.items
  refine (preserves_takeSymbol? closing).bind fun closed => ?_
  split
  · exact preserves_pure _
  refine (ih.expr h).bind fun e => (preserves_takeSymbol? ",").bind fun more => ?_
  split
  · exact (ih.items h).bind fun es => preserves_pure _
  · exact (preserves_symbol closing).bind fun _ => preserves_pure _

theorem entries_succ {names : List String} (h : around.atTop = false) :
    Preserves holds (Parser.entries (fuel + 1) around names) := by
  unfold Parser.entries
  refine (preserves_takeSymbol? _).bind fun closed => ?_
  split
  · exact preserves_pure _
  have hentry : ∀ name, Preserves holds (do
      symbol ":"
      let e ← Parser.expr fuel around
      if ← takeSymbol? "," then
        return (name, e) :: (← Parser.entries fuel around (name :: names))
      symbol "\x7d"
      return [(name, e)]) := by
    intro name
    refine (preserves_symbol _).bind fun _ => (ih.expr h).bind fun e => ?_
    refine (preserves_takeSymbol? _).bind fun more => ?_
    split
    · exact (ih.entries h).bind fun rest => preserves_pure _
    · exact (preserves_symbol _).bind fun _ => preserves_pure _
  refine preserves_take.bind fun t => ?_
  dsimp only
  split
  · exact .refusing (.refusing (hentry _))
  · exact .refusing (hentry _)
  · exact .refusing (hentry _)
  · exact preserves_throw_bind _ _

theorem links_succ {root : Expr} {sofar : List Link} (h : around.atTop = false) :
    Preserves holds (Parser.links (fuel + 1) around root sofar) := by
  unfold Parser.links
  refine preserves_peek.bind fun t => ?_
  split
  case h_1 | h_2 =>
    refine (preserves_atSymbol _).bind fun isOptional => preserves_drop.bind fun _ => ?_
    refine preserves_deeper_bind h fun inner hinner => (ih.expr ?_).bind fun e => ?_
    · exact hinner
    exact (preserves_symbol _).bind fun _ => .refusing (ih.links h)
  case h_3 | h_4 =>
    refine (preserves_atSymbol _).bind fun isOptional => preserves_drop.bind fun _ => ?_
    refine preserves_take.bind fun t => ?_
    split
    · refine (preserves_takeSymbol? _).bind fun opened => ?_
      split
      · refine preserves_deeper_bind h fun inner hinner => (ih.items ?_).bind fun args => ih.links h
        exact hinner
      · split
        · exact preserves_throw _
        · exact ih.links h
    · exact preserves_throw _
  case h_5 => exact preserves_pure _

theorem condition_succ (h : around.atTop = false) :
    Preserves holds (Parser.condition (fuel + 1) around) := by
  unfold Parser.condition
  refine (preserves_atSymbol _).bind fun opened => .refusing ?_
  exact (ih.expr h).bind fun e => .refusing (preserves_pure e)

theorem block_succ (h : around.atTop = false) :
    Preserves holds (Parser.block (fuel + 1) around) := by
  unfold Parser.block
  refine (preserves_symbol _).bind fun _ => preserves_deeper_bind h fun around h => ?_
  exact (ih.statements h).inScope

theorem statements_succ (h : around.atTop = false) :
    Preserves holds (Parser.statements (fuel + 1) around) := by
  unfold Parser.statements
  refine (preserves_takeSymbol? _).bind fun closed => ?_
  split
  · exact preserves_pure _
  refine (preserves_takeSymbol? _).bind fun empty => ?_
  split
  · exact ih.statements h
  refine preserves_deeper_bind h fun inner hinner => (ih.statement hinner).bind fun s => ?_
  refine (preserves_takeSymbol? _).bind fun closed => ?_
  split
  · exact preserves_pure _
  refine (preserves_takeSymbol? _).bind fun ended => .requiring ?_
  exact (ih.statements h).bind fun rest => preserves_pure _

theorem branch_succ (h : around.atTop = false) :
    Preserves holds (Parser.branch (fuel + 1) around) := by
  unfold Parser.branch
  refine (preserves_keyword _).bind fun _ => (ih.condition h).bind fun c => ?_
  refine (ih.block h).bind fun yes => (preserves_takeKeyword? _).bind fun more => ?_
  split
  · refine (preserves_atKeyword _).bind fun chained => ?_
    split
    · exact preserves_deeper_bind h fun around h => (ih.branch h).bind fun no => preserves_pure _
    · exact (ih.block h).bind fun no => preserves_pure _
  · exact preserves_pure _

theorem labels_succ (h : around.atTop = false) :
    Preserves holds (Parser.labels (fuel + 1) around) := by
  unfold Parser.labels
  refine Preserves.bind (ih.expr ?_) fun e => (preserves_caseLabel e).bind fun label => ?_
  · exact h
  refine (preserves_takeSymbol? _).bind fun more => ?_
  split
  · exact (ih.labels h).bind fun rest => preserves_pure _
  · exact preserves_pure _

theorem cases_succ {sofar : List Case} {otherwise : Option Stmt} (h : around.atTop = false) :
    Preserves holds (Parser.cases (fuel + 1) around sofar otherwise) := by
  unfold Parser.cases
  refine (preserves_takeSymbol? _).bind fun closed => ?_
  split
  · exact preserves_pure _
  refine .refusing ((preserves_takeSymbol? _).bind fun isDefault => ?_)
  refine .either (preserves_pure _) (ih.labels h) fun ls => ?_
  refine (preserves_takeKeyword? _).bind fun guarded => ?_
  have haction : ∀ guard, Preserves holds (do
      symbol "=>"
      let action ← Parser.statement fuel { (← deeper around) with atTop := false }
      unless (← takeSymbol? ",") || (← atSymbol "\x7d") || action.endsItself do throw .unexpected
      if isDefault then Parser.cases fuel around sofar (some action)
      else Parser.cases fuel around (.mk ls guard action :: sofar) otherwise) := by
    intro guard
    refine (preserves_symbol _).bind fun _ => preserves_deeper_bind h fun inner _ => ?_
    refine (ih.statement rfl).bind fun action => (preserves_takeSymbol? _).bind fun more => ?_
    refine (preserves_atSymbol _).bind fun last => .requiring ?_
    split <;> exact ih.cases h
  cases guarded with
  | true => exact .refusing ((ih.condition h).map.bind haction)
  | false => exact haction none

theorem each_succ (h : around.atTop = false) :
    Preserves holds (Parser.each (fuel + 1) around) := by
  unfold Parser.each
  -- The counter is declared in front of the name, if there is one.
  have hnamed : ∀ name : String, Preserves holds (do
      declare name false
      Parser.block fuel { around with inLoop := true, atTop := false }) :=
    fun name => (preserves_declare _ _).bind fun _ => ih.block rfl
  have hbody : ∀ (name : String) (counter : Option String) (inside : Parser (List Stmt)),
      Preserves holds inside → Preserves holds (do
        keyword "in"
        if ← atSymbol "\x7b" then throw .unexpected
        let e ← Parser.expr fuel around
        if e.isNeverIterable then throw .wrongType
        let body ← inScope inside
        return Stmt.each name counter e body) := by
    intro name counter inside hinside
    refine (preserves_keyword _).bind fun _ => (preserves_atSymbol _).bind fun opened => ?_
    refine .refusing ((ih.expr h).bind fun e => .refusing ?_)
    exact Preserves.bind (.inScope hinside) fun body => preserves_pure _
  refine (preserves_takeSymbol? _).bind fun opened => ?_
  split
  · refine preserves_newName.bind fun name => (preserves_symbol _).bind fun _ => ?_
    refine preserves_newName.bind fun counter => .refusing ?_
    refine (preserves_symbol _).bind fun _ => hbody name (some counter) _ ?_
    exact (preserves_declare _ _).bind fun _ => hnamed name
  · exact preserves_newName.bind fun name => hbody name none _ (hnamed name)

theorem optionalExpr_succ (h : around.atTop = false) :
    Preserves holds (Parser.optionalExpr (fuel + 1) around) := by
  unfold Parser.optionalExpr
  refine preserves_peek.bind fun t => ?_
  split
  case h_1 | h_2 | h_3 => exact preserves_pure _
  case h_4 => exact (ih.expr h).map

theorem bind_succ {isConst : Bool} (h : around.atTop = false) :
    Preserves holds (Parser.bind (fuel + 1) around isConst) := by
  unfold Parser.bind
  refine preserves_newName.bind fun name => (preserves_takeSymbol? _).bind fun given => ?_
  refine .either (ih.expr h).map (preserves_pure none) fun start => ?_
  exact (preserves_declare _ _).bind fun _ => preserves_pure _

theorem params_succ {sofar : List String} :
    Preserves holds (Parser.params (fuel + 1) sofar) := by
  unfold Parser.params
  refine (preserves_takeSymbol? _).bind fun closed => ?_
  split
  · exact preserves_pure _
  refine preserves_newName.bind fun name => .refusing ?_
  refine (preserves_takeSymbol? _).bind fun more => ?_
  split
  · exact ih.params
  · exact (preserves_symbol _).bind fun _ => preserves_pure _

/-- A statement reads a function only at the top of a file. -/
theorem statement_succ
    (hfunction : around.atTop = true → Preserves holds (Parser.function fuel)) :
    Preserves holds (Parser.statement (fuel + 1) around) := by
  unfold Parser.statement
  have hinner : ({ around with atTop := false } : Surroundings).atTop = false := rfl
  refine preserves_peek.bind fun t => ?_
  split
  case h_1 => exact (ih.block hinner).bind fun body => preserves_pure _
  case h_2 => exact preserves_deeper_bind hinner fun inner h => ih.branch h
  case h_3 =>
    refine preserves_drop.bind fun _ => (preserves_atSymbol _).bind fun opened => .refusing ?_
    refine preserves_deeper_bind hinner fun inner h => (ih.expr h).bind fun subject => ?_
    refine (preserves_symbol _).bind fun _ => (ih.cases h).bind fun read => ?_
    exact preserves_pure _
  case h_4 =>
    refine preserves_drop.bind fun _ => preserves_deeper_bind hinner fun inner h => ?_
    refine (ih.condition h).bind fun c => (ih.block ?_).bind fun body => preserves_pure _
    exact h
  case h_5 =>
    refine preserves_drop.bind fun _ => preserves_deeper_bind hinner fun inner h => ?_
    refine (ih.block ?_).bind fun body => preserves_pure _
    exact h
  case h_6 =>
    refine preserves_drop.bind fun _ => preserves_deeper_bind hinner fun inner h => ?_
    refine (ih.block ?_).bind fun body => (preserves_takeKeyword? _).bind fun goOn => ?_
    · exact h
    have hloop : ∀ goOn, Preserves holds (do
        return Stmt.repeated body (← Parser.condition fuel inner) goOn) :=
      fun goOn => (ih.condition h).bind fun c => preserves_pure _
    split
    · exact hloop true
    · exact (preserves_keyword _).bind fun _ => hloop false
  case h_7 =>
    exact preserves_drop.bind fun _ => preserves_deeper_bind hinner fun inner h => ih.each h
  case h_8 =>
    refine preserves_drop.bind fun _ => ?_
    split
    · exact preserves_pure _
    · exact preserves_throw _
  case h_9 =>
    refine preserves_drop.bind fun _ => ?_
    split
    · exact (ih.optionalExpr hinner).bind fun e => preserves_pure _
    · exact preserves_throw _
  case h_10 | h_11 =>
    exact preserves_drop.bind fun _ => (ih.optionalExpr hinner).bind fun e => preserves_pure _
  case h_12 =>
    refine preserves_drop.bind fun _ => preserves_deeper_bind hinner fun inner h => ?_
    refine (ih.block h).bind fun body => (preserves_keyword _).bind fun _ => ?_
    have hhandler : ∀ (name : Option String) (inside : Parser (List Stmt)),
        Preserves holds inside → Preserves holds (do
          let handler ← inScope inside
          return Stmt.guard body name handler) :=
      fun name inside hinside => hinside.inScope.bind fun handler => preserves_pure _
    refine (preserves_takeSymbol? _).bind fun named => ?_
    split
    · refine preserves_newName.bind fun name => (preserves_symbol _).bind fun _ => ?_
      exact hhandler (some name) _ ((preserves_declare _ _).bind fun _ => ih.block h)
    · exact hhandler none _ (ih.block h)
  case h_13 | h_14 => exact preserves_drop.bind fun _ => ih.bind hinner
  case h_15 =>
    refine preserves_drop.bind fun _ => (ih.expr hinner).bind fun source => ?_
    refine (preserves_takeKeyword? _).bind fun renamed => ?_
    split
    · exact preserves_newName.bind fun _ => preserves_pure _
    · exact preserves_pure _
  case h_16 =>
    refine preserves_drop.bind fun _ => .requiring ?_
    refine (preserves_takeKeyword? _).bind fun isLet => ?_
    split
    · exact ih.bind hinner
    refine (preserves_takeKeyword? _).bind fun isConst => ?_
    split
    · exact ih.bind hinner
    refine preserves_newName.bind fun name => (preserves_takeKeyword? _).bind fun renamed => ?_
    split
    · exact preserves_newName.bind fun _ => preserves_pure _
    · exact preserves_pure _
  case h_17 | h_18 =>
    dsimp only
    split
    next htop =>
      refine (preserves_takeKeyword? _).bind fun _ => (preserves_keyword _).bind fun _ => ?_
      exact (hfunction htop).bind fun _ => preserves_pure _
    next => exact preserves_throw_bind _ _
  case h_19 =>
    refine preserves_deeper_bind hinner fun inner h => (ih.expr h).bind fun target => ?_
    refine preserves_peek.bind fun t => ?_
    split
    · exact preserves_pure _
    refine preserves_drop.bind fun _ => (ih.expr h).bind fun value => ?_
    exact (preserves_checkTarget target).bind fun _ => preserves_pure _

end ReadersPreserve

/-- No reader of a part that is not at the top of a file reads a function. -/
theorem readersPreserve (fuel : Nat) : ReadersPreserve fuel := by
  induction fuel with
  | zero => constructor <;> intros <;> exact preserves_throw _
  | succ fuel ih =>
    constructor
    case expr => exact ih.expr_succ
    case operators => exact ih.operators_succ
    case unary => exact ih.unary_succ
    case primary => exact ih.primary_succ
    case pieces => exact ih.pieces_succ
    case items => exact ih.items_succ
    case entries => exact ih.entries_succ
    case links => exact ih.links_succ
    case condition => exact ih.condition_succ
    case block => exact ih.block_succ
    case statements => exact ih.statements_succ
    case branch => exact ih.branch_succ
    case labels => exact ih.labels_succ
    case cases => exact ih.cases_succ
    case each => exact ih.each_succ
    case optionalExpr => exact ih.optionalExpr_succ
    case bind => exact ih.bind_succ
    case params =>
      intro holds sofar
      exact ih.params_succ
    case statement =>
      intro holds around h
      exact ih.statement_succ fun htop => absurd (h.symm.trans htop) Bool.false_ne_true

/-- A function that is read has a new signature: its body does not read others. -/
theorem preserves_function (fuel : Nat) : Preserves Function.Distinct (function fuel) := by
  cases fuel with
  | zero => exact preserves_throw _
  | succ fuel =>
    unfold function
    refine preserves_newName.bind fun name => (preserves_symbol _).bind fun _ => ?_
    refine (readersPreserve fuel).params.bind fun ps => ?_
    intro r a r' h hr
    simp only [StateT.run_bind, StateT.run_get, pure_bind] at h
    split at h
    next => cases h
    next hnew =>
      simp only [StateT.run_bind, StateT.run_get, StateT.run_modify, pure_bind] at h
      obtain ⟨⟨body, behind⟩, hbody, h⟩ := Fallible.bind_eq_ok.mp h
      obtain rfl := (Prod.mk.inj (Fallible.pure_eq_ok.mp h)).2
      let same : List Function → Prop := (· = r.functions)
      have hkept : same behind.functions := (readersPreserve fuel).block rfl hbody rfl
      rw [Bool.not_eq_true, List.any_eq_false] at hnew
      refine List.pairwise_append.mpr ⟨?_, List.pairwise_singleton _ _, ?_⟩
      · rw [hkept]
        exact hr
      · intro f hf g hg
        rw [hkept] at hf
        rw [List.mem_singleton.mp hg]
        simpa [Function.arity] using hnew f hf

/-- The statements of a file read functions of distinct signatures. -/
theorem preserves_file (steps fuel : Nat) : Preserves Function.Distinct (file steps fuel) := by
  induction steps with
  | zero => exact preserves_throw _
  | succ steps ih =>
    unfold file
    refine preserves_peek.bind fun t => ?_
    split
    · exact preserves_pure _
    · exact preserves_drop.bind fun _ => ih
    have hstatement : ∀ around, Preserves Function.Distinct (statement fuel around) := by
      intro around
      cases fuel with
      | zero => exact preserves_throw _
      | succ fuel => exact (readersPreserve fuel).statement_succ fun _ => preserves_function fuel
    refine (hstatement _).bind fun s => preserves_peek.bind fun t => ?_
    split
    · exact preserves_pure _
    refine (preserves_takeSymbol? _).bind fun ended => .requiring ?_
    exact ih.bind fun rest => preserves_pure _

end Parser

/-- The functions of a script that is read have distinct signatures. -/
theorem Program.distinct_of_ofSource {source : String} {program : Program}
    (h : ofSource source = .ok program) : Function.Distinct program.functions := by
  obtain ⟨words, -, h⟩ := Fallible.bind_eq_ok.mp h
  obtain ⟨⟨body, reading⟩, hread, h⟩ := Fallible.bind_eq_ok.mp h
  obtain rfl := Fallible.pure_eq_ok.mp h
  exact Parser.preserves_file _ _ hread List.Pairwise.nil

end CloudEmulator.Script
