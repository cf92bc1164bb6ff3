import CloudEmulator.Backend.Stub
import CloudEmulator.Emulator.Activation
import Mathlib.Data.List.Forall2

/-!
# Nested scopes

Along every history of scopes that are opened and ended, in any order and with too
many ends, the depth counts the scopes that are open, and the switch of the emulator
is on exactly while one is. Only the end of the outermost scope can reset anything.
-/

namespace CloudEmulator

variable {σ : Type}

/-- What a reset makes of an instance. If its service is registered, the backend resets its
state; an instance of a registration that was replaced stays as it is. -/
inductive Registry.ResetsTo (registry : Registry σ) : Instance σ → Instance σ → Prop where
  | reset {i : Instance σ} (current : ∃ s ∈ registry.registrations, s.number = i.registration) :
      ResetsTo registry i { i with state := i.backend.reset i.state }
  | kept {i : Instance σ} (replaced : ∀ s ∈ registry.registrations, s.number ≠ i.registration) :
      ResetsTo registry i i

namespace Emulator

/-- What a reset of all backends leaves: each instance as it is reset, and all else as it was. -/
structure ResetsTo (e next : Emulator σ) : Prop where
  instances : List.Forall₂ e.registry.ResetsTo e.registry.instances next.registry.instances
  rest : next = { e with registry := { e.registry with instances := next.registry.instances } }

/-- A reset leaves what a reset of all backends leaves. -/
theorem resetsTo_reset (e : Emulator σ) : e.ResetsTo e.reset.1 where
  instances := by
    have hinstances : e.reset.1.registry.instances = e.registry.instances.map fun i =>
        if e.registry.registrations.any (·.number == i.registration) then
          { i with state := i.backend.reset i.state }
        else i := rfl
    rw [hinstances, List.forall₂_map_right_iff, List.forall₂_same]
    intro i _
    split
    next hcurrent => exact .reset (by simpa using hcurrent)
    next hreplaced => exact .kept (by simpa using hreplaced)
  rest := rfl

/-- The emulator with its switch on or off. -/
def switched (e : Emulator σ) (on : Bool) : Emulator σ :=
  { e with intercepting := on }

/-- A switch that is where it should be can be left alone. -/
theorem switched_eq_self {e : Emulator σ} {on : Bool} (h : e.intercepting = on) :
    e.switched on = e := by
  rw [← h]
  rfl

end Emulator

namespace Activation

variable {a : Activation σ}

/-- What can be done around an emulator: open a scope, with a guard or without, end
one, drop a guard, or work on in the host, which leaves the switch alone. -/
inductive Call (σ : Type) where
  | start
  | activate
  | stop (reset : Bool)
  | dropGuard
  | host (work : Emulator σ → Emulator σ) (vars : Environment → Environment)

namespace Call

/-- The call opens a scope. -/
def opens : Call σ → Bool
  | start | activate => true
  | _ => false

/-- For a call that is to end a scope: whether it asks for a reset. -/
def ending? : Call σ → Option Bool
  | stop reset => some reset
  | dropGuard => some true
  | _ => none

/-- The call is about a scope and no work of the host. -/
def ofScope : Call σ → Bool
  | host .. => false
  | _ => true

end Call

/-- Work of the host between two calls. -/
def worked (a : Activation σ) (work : Emulator σ → Emulator σ)
    (vars : Environment → Environment) : Activation σ :=
  { a with
    emulator := (work a.emulator).switched a.emulator.intercepting
    env := vars a.env }

/-- What a call leaves and what happens meanwhile. -/
def perform (a : Activation σ) : Call σ → Except LifecycleError (Activation σ × List Event)
  | .start | .activate => .ok (a.start, [])
  | .stop reset => a.stop reset
  | .dropGuard => .ok a.dropGuard
  | .host work vars => .ok (a.worked work vars, [])

/-- The state after a call; one that fails leaves none of its own. -/
def after (a : Activation σ) (call : Call σ) : Activation σ :=
  match a.perform call with
  | .ok (b, _) => b
  | .error _ => a

/-- What happens during a call. -/
def events (a : Activation σ) (call : Call σ) : List Event :=
  match a.perform call with
  | .ok (_, events) => events
  | .error _ => []

/-- The state after a history of calls. -/
def run (a : Activation σ) (calls : List (Call σ)) : Activation σ :=
  calls.foldl after a

/-- The call ends a scope, and does not fail in it. -/
def ends (a : Activation σ) (call : Call σ) : Bool :=
  call.ending?.any fun reset => (a.stop reset).toBool

/-- How many scopes a history opens. -/
def opened (calls : List (Call σ)) : Nat :=
  calls.countP Call.opens

/-- How many calls of a history end a scope without failing. -/
def ended (a : Activation σ) : List (Call σ) → Nat
  | [] => 0
  | call :: calls => (a.ends call).toNat + (a.after call).ended calls

/-- The call takes the depth from one to zero and asks for a reset. -/
def resets (a : Activation σ) (call : Call σ) : Bool :=
  a.depth == 1 && (a.after call).depth == 0 && call.ending? == some true

/-- The end of the outermost scope. -/
def closed (a : Activation σ) : Activation σ :=
  { (a.restore.setIntercepting false) with depth := 0 }

/-- The state after a reset of the backends. -/
def cleared (a : Activation σ) : Activation σ :=
  { a with emulator := a.emulator.reset.1 }

/-- The runs of all reset hooks. -/
def hookRuns (a : Activation σ) : List Event :=
  a.emulator.resetHooks.map .resetHook

/-- Without an open scope there is none to end. -/
theorem stop_of_depth_zero (h : a.depth = 0) (reset : Bool) : a.stop reset = .error .underflow := by
  simp [stop, h]

/-- The end of the outermost scope resets the backends if asked to. -/
theorem stop_of_depth_one (h : a.depth = 1) (reset : Bool) :
    a.stop reset = .ok (if reset then (a.closed.cleared, a.hookRuns) else (a.closed, [])) := by
  cases reset <;>
    simp [stop, h, closed, cleared, hookRuns, restore, setIntercepting, Emulator.reset]

/-- The end of an inner scope counts it, and no more. -/
theorem stop_of_depth_inner {n : Nat} (h : a.depth = n + 2) (reset : Bool) :
    a.stop reset = .ok ({ a with depth := n + 1 }, []) := by
  simp [stop, h]

/-- Ending a scope fails in one way, and only where none is open. -/
theorem stop_eq_error_iff {reset : Bool} {fault : LifecycleError} :
    a.stop reset = .error fault ↔ fault = .underflow ∧ a.depth = 0 := by
  rcases hdepth : a.depth with _ | _ | n
  · rw [stop_of_depth_zero hdepth]
    simp
  · rw [stop_of_depth_one hdepth]
    simp
  · rw [stop_of_depth_inner hdepth]
    simp

/-- The switch is on exactly while a scope is open. -/
def Switched (a : Activation σ) : Prop :=
  a.emulator.intercepting = decide (0 < a.depth)

/-- Opening a scope counts it. -/
theorem start_depth (a : Activation σ) : a.start.depth = a.depth + 1 := by
  simp only [start]
  split
  · rfl
  · split <;> rfl

/-- Opening a scope does no more to the emulator than to switch it on. -/
theorem Switched.start_emulator (h : a.Switched) :
    a.start.emulator = a.emulator.switched true := by
  simp only [start]
  split
  next hinner =>
    have hopen : 0 < a.depth := Nat.lt_of_succ_lt_succ hinner
    exact (Emulator.switched_eq_self (h.trans (decide_eq_true hopen))).symm
  next => split <;> rfl

/-- A call that ends a scope does what the end of the scope does, and nothing where
that fails. -/
theorem after_ending {call : Call σ} {reset : Bool} (h : call.ending? = some reset) :
    a.after call = (match a.stop reset with | .ok (b, _) => b | .error _ => a) ∧
      a.events call = (match a.stop reset with | .ok (_, events) => events | .error _ => []) := by
  cases call with
  | stop reset' =>
    obtain rfl : reset' = reset := by simpa [Call.ending?] using h
    exact ⟨rfl, rfl⟩
  | dropGuard =>
    obtain rfl : true = reset := by simpa [Call.ending?] using h
    simp only [after, events, perform, dropGuard]
    cases a.stop true <;> exact ⟨rfl, rfl⟩
  | _ => cases h

/-- A call moves the depth by what it opens and ends. -/
theorem depth_after (a : Activation σ) (call : Call σ) :
    (a.after call).depth + (a.ends call).toNat = a.depth + call.opens.toNat := by
  cases hending : call.ending? with
  | some reset =>
    have hopens : call.opens = false := by cases call <;> first | rfl | cases hending
    rw [(after_ending hending).1, hopens]
    simp only [ends, hending, Option.any_some]
    rcases hdepth : a.depth with _ | _ | n
    · simp [stop_of_depth_zero hdepth, hdepth, Except.toBool]
    · cases reset <;>
        simp [stop_of_depth_one hdepth, closed, cleared, Except.toBool]
    · simp [stop_of_depth_inner hdepth, Except.toBool]
  | none =>
    cases call with
    | start => exact a.start_depth
    | activate => exact a.start_depth
    | stop reset => cases hending
    | dropGuard => cases hending
    | host work vars => rfl

/-- The depth after a history, and the scopes ended in it, are the scopes that were
open before it or are opened in it. -/
theorem depth_run (a : Activation σ) (calls : List (Call σ)) :
    (a.run calls).depth + a.ended calls = a.depth + opened calls := by
  induction calls generalizing a with
  | nil => rfl
  | cons call calls ih =>
    have hcall := a.depth_after call
    have hcalls := ih (a.after call)
    have hopened : opened (call :: calls) = opened calls + call.opens.toNat := by
      cases hopens : call.opens <;> simp [opened, hopens]
    change ((a.after call).run calls).depth + ((a.ends call).toNat + (a.after call).ended calls) =
      a.depth + opened (call :: calls)
    omega

/-- What the calls around scopes do to the emulator, and what happens meanwhile: all
backends are reset and every hook is run once where the outermost scope ends with a
reset, and besides that only the switch is touched. -/
theorem Switched.after_scope (h : a.Switched) {call : Call σ} (hscope : call.ofScope = true) :
    (a.after call).emulator =
        (if a.resets call then a.emulator.reset.1 else a.emulator).switched
          (decide (0 < (a.after call).depth)) ∧
      a.events call = if a.resets call then a.hookRuns else [] := by
  cases hending : call.ending? with
  | some reset =>
    obtain ⟨hafter, hevents⟩ := after_ending (a := a) hending
    rcases hdepth : a.depth with _ | _ | n
    · have hresets : a.resets call = false := by simp [resets, hdepth]
      rw [hresets, hafter, hevents, stop_of_depth_zero hdepth]
      exact ⟨(Emulator.switched_eq_self h).symm, rfl⟩
    · rw [stop_of_depth_one hdepth] at hafter hevents
      have hresets : a.resets call = reset := by
        cases reset <;> simp [resets, hdepth, hafter, hending, closed, cleared]
      rw [hresets, hafter, hevents]
      cases reset <;> exact ⟨rfl, rfl⟩
    · rw [stop_of_depth_inner hdepth] at hafter hevents
      have hresets : a.resets call = false := by simp [resets, hdepth]
      have hopen : a.emulator.intercepting = true := by rw [h, hdepth]; rfl
      rw [hresets, hafter, hevents]
      exact ⟨(Emulator.switched_eq_self hopen).symm, rfl⟩
  | none =>
    have hresets : a.resets call = false := by simp [resets, hending]
    have hstart : a.start.emulator = a.emulator.switched (decide (0 < a.start.depth)) := by
      rw [h.start_emulator, start_depth]
      rfl
    rw [hresets]
    cases call with
    | start => exact ⟨hstart, rfl⟩
    | activate => exact ⟨hstart, rfl⟩
    | stop reset => cases hending
    | dropGuard => cases hending
    | host work vars => cases hscope

/-- Every call keeps the switch in step with the depth. -/
theorem Switched.after (h : a.Switched) (call : Call σ) : (a.after call).Switched := by
  cases hscope : call.ofScope with
  | true =>
    unfold Switched
    rw [(h.after_scope hscope).1]
    rfl
  | false =>
    cases call with
    | host work vars => exact h
    | _ => cases hscope

/-- Every history keeps the switch in step with the depth. -/
theorem Switched.run (h : a.Switched) (calls : List (Call σ)) : (a.run calls).Switched := by
  induction calls generalizing a with
  | nil => exact h
  | cons call calls ih => exact ih (h.after call)

/-- A call that resets is about a scope, and leaves none open. -/
theorem depth_of_resets {call : Call σ} (h : a.resets call = true) :
    (a.after call).depth = 0 ∧ call.ofScope = true := by
  simp only [resets, Bool.and_eq_true, beq_iff_eq] at h
  refine ⟨h.1.2, ?_⟩
  cases call with
  | host work vars => cases h.2
  | _ => rfl

/-- What holds after a history of calls, and of whatever is called next. -/
structure ScopeLaws (first : Activation σ) (calls : List (Call σ)) : Prop where
  /-- The depth is the number of scopes opened less the number of scopes ended. -/
  depth : (first.run calls).depth + first.ended calls = opened calls
  /-- The emulator intercepts exactly while a scope is open. -/
  intercepting : (first.run calls).emulator.intercepting = true ↔ 0 < (first.run calls).depth
  /-- Ending a scope fails exactly where none is open. -/
  underflow : ∀ {reset : Bool} {fault : LifecycleError},
    (first.run calls).perform (.stop reset) = .error fault ↔
      fault = .underflow ∧ (first.run calls).depth = 0
  /-- Where none is open, neither an end nor the drop of a guard changes anything. -/
  unchanged : (first.run calls).depth = 0 → ∀ {call : Call σ}, call.ending?.isSome = true →
    (first.run calls).after call = first.run calls ∧ (first.run calls).events call = []
  /-- The calls that take the depth from one to zero and ask for it reset all backends of the
  emulator, which is switched off then, and run every hook once. -/
  reset : ∀ {call : Call σ}, (first.run calls).resets call = true →
    ((first.run calls).emulator.switched false).ResetsTo
        ((first.run calls).after call).emulator ∧
      (first.run calls).events call = (first.run calls).hookRuns
  /-- No other call about scopes touches more than the switch, and none runs a hook. -/
  kept : ∀ {call : Call σ}, call.ofScope = true → (first.run calls).resets call = false →
    ((first.run calls).after call).emulator = (first.run calls).emulator.switched
        (decide (0 < ((first.run calls).after call).depth)) ∧
      (first.run calls).events call = []
  /-- Whether the end of an inner scope asks for a reset makes no difference. -/
  inner : (first.run calls).depth ≠ 1 → ∀ reset reset' : Bool,
    (first.run calls).perform (.stop reset) = (first.run calls).perform (.stop reset')

/-- **Nested scopes.** From an emulator that is switched off, every history of scopes
opened and ended keeps the depth true, intercepts exactly while a scope is open, and
resets exactly at the ends of outermost scopes that ask for it. -/
theorem scopeLaws (e : Emulator σ) (env : Environment) (hoff : e.intercepting = false)
    (calls : List (Call σ)) : ScopeLaws { emulator := e, env } calls where
  depth := by
    have h := depth_run { emulator := e, env } calls
    rwa [Nat.zero_add] at h
  intercepting := by
    have hfirst : Switched { emulator := e, env } := hoff
    rw [hfirst.run calls, decide_eq_true_iff]
  underflow := stop_eq_error_iff
  unchanged := by
    intro hdepth call hcall
    obtain ⟨reset, hending⟩ := Option.isSome_iff_exists.mp hcall
    obtain ⟨hafter, hevents⟩ := after_ending hending
    rw [hafter, hevents, stop_of_depth_zero hdepth]
    exact ⟨rfl, rfl⟩
  reset := by
    intro call hresets
    have hfirst : Switched { emulator := e, env } := hoff
    generalize hrun : run { emulator := e, env } calls = a at hresets
    have hswitched : a.Switched := hrun ▸ hfirst.run calls
    obtain ⟨hclosed, hscope⟩ := depth_of_resets hresets
    obtain ⟨hemulator, hevents⟩ := hswitched.after_scope hscope
    rw [hresets] at hemulator hevents
    rw [hemulator, hevents, hclosed]
    exact ⟨(a.emulator.switched false).resetsTo_reset, rfl⟩
  kept := by
    intro call hscope hkept
    have hfirst : Switched { emulator := e, env } := hoff
    have hafter := (hfirst.run calls).after_scope hscope
    rw [hkept] at hafter
    exact hafter
  inner := by
    intro hdepth reset reset'
    generalize run { emulator := e, env } calls = a at hdepth ⊢
    change a.stop reset = a.stop reset'
    rcases hn : a.depth with _ | _ | n
    · rw [stop_of_depth_zero hn, stop_of_depth_zero hn]
    · exact absurd hn hdepth
    · rw [stop_of_depth_inner hn, stop_of_depth_inner hn]

/-- A service that keeps notes. -/
def notes : Stub.Service where
  name := "notes"
  scope := .everywhere
  urlBases := []
  operations := []
  routes := []
  routeBases := []
  failFirst := 0

/-- An emulator with an instance of that service and one reset hook. -/
def hooked : Emulator Stub.State where
  config := {}
  registry := ((({} : Registry Stub.State).register notes.descriptor).instanceFor
    "notes" "123456789012" "global").1
  resetHooks := ["models"]

/-- Work of the host that leaves a note. -/
def note (e : Emulator Stub.State) : Emulator Stub.State :=
  { e with registry := e.registry.setState 0 (some ["note"]) }

/-- A scope inside of a guarded one, with one end too many, and a note in a scope behind them. -/
def overended : List (Call Stub.State) :=
  [.activate, .start, .stop true, .dropGuard, .stop true, .start, .host note id]

/-- The laws of a history with nested scopes and one end too many, which leaves a scope
open whose end takes the note away and runs the hook. -/
theorem scopeLaws_overended :
    hooked.intercepting = false ∧ ScopeLaws { emulator := hooked } overended ∧
      (run { emulator := hooked } overended).depth = 1 ∧
      (run { emulator := hooked } overended).resets (.stop true) = true ∧
      (run { emulator := hooked } overended).emulator.registry.instances.map (·.state) =
        [some ["note"]] ∧
      ((run { emulator := hooked } overended).after
        (.stop true)).emulator.registry.instances.map (·.state) = [some []] :=
  ⟨rfl, scopeLaws hooked {} rfl overended, rfl, rfl, by decide +kernel, by decide +kernel⟩

end Activation

end CloudEmulator
