import CloudEmulator.Proofs.Emulator.Frame

/-!
# Handlers that break

A handler that panics or fails fatally, and leaves the state of its instance as it found it,
changes nothing that requests see. At most an instance was constructed for its request, the
one that the next request for the service would have constructed. A reset finds the same
faces with that instance and without it, as the contract of backends has it.
-/

namespace CloudEmulator

variable {σ : Type}

/-- The face with what its backend makes of the state at a reset. -/
def Face.reset (f : Face σ) : Face σ :=
  { f with state := f.backend.reset f.state }

namespace Front

variable {f : Front σ}

/-- The front with all faces reset. -/
def reset (f : Front σ) : Front σ :=
  { f with face? := fun service => (f.face? service).map Face.reset }

/-- The face that is there already changes nothing. -/
theorem put_self {service : String} {face : Face σ} (h : f.face? service = some face) :
    f.put service face = f := by
  rw [put, ← h, Function.update_eq_self]

/-- Faces are renewed from a reset as from any other state. -/
@[simp] theorem renewed_reset (f : Front σ) : f.reset.renewed = f.renewed := by
  have hface : ∀ face? : Option (Face σ),
      (face?.map Face.reset).map Face.renewed = face?.map Face.renewed := by
    intro face?
    cases face? <;> rfl
  simp only [renewed, reset, hface]

end Front

/-- The front that is left when the request was handled, with what the backends make of their
states at a reset. -/
def Visit.left (f : Front σ) : Visit σ → Front σ
  | arrived _ _ (.management .reset) => f.reset
  | visit => visit.moved f

/-- A handler that resets nothing moves the front, and leaves it so. -/
theorem Visit.left_of_keeps {request : ServiceRequest} {face : Face σ} {handler : Handler σ}
    {f : Front σ} (h : handler.action? ≠ some .reset) :
    (arrived request face handler).left f = (arrived request face handler).moved f := by
  cases handler with
  | own run => rfl
  | management action =>
    cases action with
    | reset => exact absurd rfl h
    | health => rfl
    | listBackends => rfl
    | metrics => rfl

/-- Handling a request leaves the faces that renewal would leave. -/
theorem Front.renewed_left (f : Front σ) (r : IncomingRequest) :
    ((f.visit r).left f).renewed = f.renewed := by
  have hmoved := f.renewed_moved r
  cases hvisit : f.visit r with
  | refused name => rfl
  | nowhere => rfl
  | arrived request face handler =>
    rw [hvisit] at hmoved
    by_cases hreset : handler.action? = some .reset
    · obtain rfl := Handler.action?_eq_some_iff.mp hreset
      exact f.renewed_reset
    · rw [Visit.left_of_keeps hreset, hmoved]

namespace Emulator

variable {e e' : Emulator σ} {r : IncomingRequest} {fault : DispatchError}

/-- The services keep the contract of backends for fresh instances: a reset returns the state
to what a fresh instance holds. -/
def KeepsFresh (e : Emulator σ) : Prop :=
  ∀ g ∈ e.registry.registrations, g.descriptor.KeepsFresh

/-- A dispatch of the request comes to a handler that fails with the fault, which is to panic
or to fail fatally, and leaves the state of the instance as it found it. -/
def Breaks (e : Emulator σ) (r : IncomingRequest) (fault : DispatchError) : Prop :=
  ∃ a matched run, e.Admits r a ∧ a.route r = some matched ∧ matched.handler = .own run ∧
    (run a.target.state (a.request e r)).1 = a.target.state ∧
    (run a.target.state (a.request e r)).2.outcome (a.request e r) = .error fault

/-- What the handler that a request comes to fails with, if it leaves the state as it found it. -/
def breakage? [DecidableEq σ] (e : Emulator σ) (r : IncomingRequest) : Option DispatchError := do
  let a ← e.admission? r
  let matched ← a.route r
  match matched.handler with
  | .own run =>
    let (state, result) := run a.target.state (a.request e r)
    match result.outcome (a.request e r) with
    | .error fault => if state = a.target.state then some fault else none
    | .ok _ => none
  | .management _ => none

/-- Where evaluation finds such a failure, the request breaks. -/
theorem breaks_of_breakage? [DecidableEq σ] (h : e.breakage? r = some fault) :
    e.Breaks r fault := by
  obtain ⟨a, hadmission, h⟩ := Option.bind_eq_some_iff.mp h
  obtain ⟨matched, hroute, h⟩ := Option.bind_eq_some_iff.mp h
  have hadmits := admission?_eq_some_iff.mp hadmission
  split at h
  · next run hhandler =>
    simp only at h
    split at h
    · next fault' hfault =>
      obtain ⟨hstate, hsame⟩ := Option.ite_none_right_eq_some.mp h
      obtain rfl := Option.some.inj hsame
      exact ⟨a, matched, run, hadmits, hroute, hhandler, hstate, hfault⟩
    · cases h
  · cases h

/-- The same services keep the same contract. -/
theorem KeepsFresh.of_sameServices (h : e.KeepsFresh)
    (hsame : Registry.SameServices e.registry e'.registry) : e'.KeepsFresh := by
  intro g hg
  obtain ⟨s, hs, hdescriptor⟩ := hsame.exists_mem hg
  rw [hdescriptor]
  exact h s hs

/-- A reset resets the faces of all services: what a service would construct is not seen to
change, as the contract is kept. -/
theorem front_reset (h : e.KeepsFresh) : e.reset.1.front = e.front.reset := by
  have hface : e.registry.resetAll.1.face? e.config.account =
      fun service => (e.registry.face? e.config.account service).map Face.reset := by
    funext service
    refine Registry.face?_resetAll_of (fun i _ => rfl) ?_
    intro g b hget hcall
    have hkeeps := h g (List.mem_of_find?_eq_some hget) g.attempts e.config.account
      g.descriptor.scope.preferred b g.descriptor.scope.contains_preferred hcall
    rw [Face.reset, hkeeps]
  exact congrArg (Front.mk e.config.account e.index) hface

namespace Sturdy

/-- A dispatch leaves an emulator sturdy. -/
theorem dispatch (h : e.Sturdy) (r : IncomingRequest) : (e.dispatch r).1.Sturdy := by
  have hkept := Kept.dispatch e r
  constructor
  · have hstateless := hkept.extensions
    rw [h.hookless, List.map_nil] at hstateless
    exact List.map_eq_nil_iff.mp hstateless
  · exact (e.leaves_dispatch r).consistent h.consistent
  · intro g hg
    obtain ⟨s, hs, hdescriptor⟩ := hkept.services.exists_mem hg
    rw [hdescriptor]
    exact h.services s hs

/-- A dispatch leaves the front that its visit leaves. The contract is asked for where it
resets all backends. -/
theorem front_dispatch (h : e.Sturdy) (hfresh : e.endpoint? r = some .reset → e.KeepsFresh) :
    (e.dispatch r).1.front = (e.front.visit r).left e.front := by
  rw [h.endpoint?_eq] at hfresh
  have hcourse := h.course r
  generalize (e.dispatch r).1 = next, (e.dispatch r).2.2 = ending at hcourse ⊢
  cases hcourse with
  | refused unadmitted visit =>
    rw [visit]
    rfl
  | unserved unadmitted visit =>
    rw [visit]
    rfl
  | unrouted counters admits missing visit =>
    obtain ⟨-, hfront, -⟩ := h.admitted admits
    rw [visit]
    exact hfront
  | @handled a matched next events result counters admits found visit run =>
    obtain ⟨hconsistent, hfront, hholds⟩ := h.admitted admits
    let accessed : Emulator σ := { e with registry := a.registry }
    rw [visit] at hfresh ⊢
    by_cases hreset : matched.handler.action? = some .reset
    · -- Only here the contract counts: the access may have constructed an instance to reset.
      have haccessed : accessed.KeepsFresh :=
        (hfresh hreset).of_sameServices (.accessed admits.accessed)
      have hdone := front_reset haccessed
      rw [hfront] at hdone
      rw [Handler.action?_eq_some_iff.mp hreset] at run ⊢
      cases run
      exact hdone
    · have hmoved := front_handle (e := accessed) hconsistent (a.request e r) matched.handler
        hholds hreset
      rw [run, hfront] at hmoved
      rw [Visit.left_of_keeps hreset]
      exact hmoved

/-- A request comes to the same endpoint after another one. -/
theorem endpoint?_dispatch (h : e.Sturdy) (hfresh : e.endpoint? r = some .reset → e.KeepsFresh)
    (later : IncomingRequest) : (e.dispatch r).1.endpoint? later = e.endpoint? later := by
  refine (h.dispatch r).endpoint?_congr h ?_ later
  rw [h.front_dispatch hfresh, Front.renewed_left]

/-- A request that breaks changes nothing that requests see. -/
theorem dispatch_of_breaks (h : e.Sturdy) (hbreaks : e.Breaks r fault) :
    (e.dispatch r).1.front = e.front ∧ (e.dispatch r).2.2 = .error fault := by
  obtain ⟨a, matched, run, hadmits, hroute, hhandler, hstate, hfault⟩ := hbreaks
  have hvisit := h.visit_of_admits hadmits
  simp only [hroute, hhandler] at hvisit
  have hendpoint : e.endpoint? r = none := by
    rw [h.endpoint?_eq, hvisit]
    rfl
  constructor
  · have hface := Front.face?_of_visit hvisit
    rw [h.front_dispatch (by simp [hendpoint]), hvisit]
    change e.front.put _ { a.target.face with state := (run a.target.state _).1 } = e.front
    rw [hstate]
    exact Front.put_self hface
  · refine h.outcome_eq r ?_
    rw [hvisit]
    exact congrArg some hfault

end Sturdy

end Emulator

end CloudEmulator
