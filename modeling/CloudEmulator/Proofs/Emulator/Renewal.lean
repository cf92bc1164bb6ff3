import CloudEmulator.Proofs.Emulator.Management
import CloudEmulator.Proofs.Emulator.Scopes

/-!
# Renewal by a reset

An emulator without extensions whose backends keep their contract forgets at a reset what
it was asked before. However the reset comes about, it answers later requests like an
emulator that was never asked anything.
-/

namespace CloudEmulator

variable {σ : Type}

/-- A stub that fails in no construction keeps the contract. -/
theorem Stub.Service.descriptor_renews {s : Stub.Service} {table : RouteTable (Handler Stub.State)}
    (hfirst : s.failFirst = 0)
    (hbuild : RouteTable.build s.routeBases (s.routes.map Stub.handlerSpec) = .ok table) :
    s.descriptor.Renews := by
  intro calls account region _
  refine ⟨⟨table, some [], fun _ => some []⟩, ?_, fun _ _ => rfl⟩
  have hlate : ¬ calls + 1 ≤ s.failFirst := by omega
  change Stub.construct s (calls + 1) region account = _
  rw [Stub.construct, if_neg hlate, hbuild]

namespace Emulator

variable {e next : Emulator σ} {d : ServiceDescriptor σ} {later : List IncomingRequest}

/-- An emulator without extensions, whose services and their instances keep the contract,
and which has answered nothing so far: these instances are fresh. -/
structure Pristine (e : Emulator σ) : Prop where
  hookless : e.pipeline.entries = []
  reached : ∃ ops, e.registry = ({} : Registry σ).run ops
  services : ∀ g ∈ e.registry.registrations, g.descriptor.Renews
  instances : ∀ i, e.registry.Active i → i.backend.Renews ∧ i.state = i.backend.state

/-- A pristine emulator can be renewed. -/
theorem Pristine.plain (h : e.Pristine) : e.Plain := by
  have hconsistent : Registry.Consistent e.registry := by
    obtain ⟨ops, hrun⟩ := h.reached
    rw [hrun]
    exact Registry.consistent_empty.run ops
  refine ⟨h.hookless, hconsistent, h.services, ?_⟩
  intro i hactive
  obtain ⟨hrenews, hstate⟩ := h.instances i hactive
  refine ⟨hrenews, ?_⟩
  rw [hstate]
  exact .fresh

/-- Its faces are as renewal would leave them. -/
theorem Pristine.renewed_front (h : e.Pristine) : e.front.renewed = e.front := by
  have hfresh : ∀ i, e.registry.Active i → i.state = i.backend.state :=
    fun i hactive => (h.instances i hactive).2
  have hfaces := Registry.face?_map_renewed hfresh e.config.account
  exact congrArg (Front.mk e.config.account e.index) (funext hfaces)

/-- The switch is no part of it. -/
theorem Pristine.switched (h : e.Pristine) (on : Bool) : (e.switched on).Pristine :=
  ⟨h.hookless, h.reached, h.services, h.instances⟩

/-- A pristine emulator stays so when a service that keeps the contract is registered. -/
theorem Pristine.registerService (h : e.Pristine) (hd : d.Renews)
    (hregister : e.registerService d = .ok next) : next.Pristine := by
  obtain ⟨patterns, rfl⟩ := registerService_eq hregister
  obtain ⟨ops, hrun⟩ := h.reached
  have howned : e.registry.Owned := by
    rw [hrun]
    exact Registry.consistent_empty.owned_run nofun ops
  refine ⟨h.hookless, ?_, ?_, fun i hactive => h.instances i (howned.active_of_register hactive)⟩
  · refine ⟨ops ++ [.register d], ?_⟩
    calc e.registry.register d = (({} : Registry σ).run ops).register d := by rw [hrun]
      _ = ({} : Registry σ).run (ops ++ [.register d]) := by
        rw [Registry.run, Registry.run, List.foldl_append]
        rfl
  · intro g hg
    rcases Registry.mem_place hg with rfl | hold
    · exact hd
    · exact h.services g hold

/-- A new emulator is pristine. -/
theorem pristine_new [Inhabited σ] (config : EmulatorConfig) :
    (new config : Emulator σ).Pristine := by
  obtain ⟨pattern, hnew, -⟩ := new_eq (σ := σ) config
  rw [hnew]
  refine ⟨rfl, ⟨[.register Management.descriptor], rfl⟩, ?_, ?_⟩
  · intro g hg
    obtain rfl := List.mem_singleton.mp hg
    exact Management.descriptor_renews
  · rintro i ⟨hi, -⟩
    cases hi

/-- Its front is all that later requests are answered from. -/
theorem Pristine.outcomes_eq (h : e.Pristine) (hplain : next.Plain)
    (hfront : next.front = e.front) (hquiet : ∀ r ∈ later, e.Quiet r) :
    next.outcomes later = e.outcomes later :=
  (h.plain.outcomes_eq hplain hfront.symm hquiet).symm

/-- A reset brings the front back, whatever was asked before. -/
theorem Pristine.served_reset (h : e.Pristine) (before : List IncomingRequest) :
    (e.served before).reset.1.Plain ∧ (e.served before).reset.1.front = e.front := by
  obtain ⟨hplain, hrenewed⟩ := h.plain.served before
  obtain ⟨hreset, hfront⟩ := hplain.reset
  exact ⟨hreset, hfront.trans (hrenewed.trans h.renewed_front)⟩

/-- So does a request for a reset. -/
theorem Pristine.served_request (h : e.Pristine) (before : List IncomingRequest)
    {r : IncomingRequest} (hreset : e.endpoint? r = some .reset) :
    ((e.served before).dispatch r).1.Plain ∧ ((e.served before).dispatch r).1.front = e.front := by
  obtain ⟨hplain, hrenewed⟩ := h.plain.served before
  have hmirrored := hplain.mirrored r
  have hendpoint : ((e.served before).front.visit r).endpoint? = some .reset := by
    rw [← hmirrored.endpoint, hplain.sturdy.endpoint?_congr h.plain.sturdy hrenewed, hreset]
  refine ⟨hmirrored.plain, ?_⟩
  rw [hmirrored.front, Front.moved_of_reset hendpoint, hrenewed, h.renewed_front]

/-- A reset after some requests is as good as no request, for all later requests but those
that ask for what is behind the front. -/
structure RenewalLaws (e : Emulator σ) (before later : List IncomingRequest) : Prop where
  reset : (e.served before).reset.1.outcomes later = e.outcomes later
  /-- The end of the outermost scope, with interception on or off before. -/
  scope : ∀ on (a : Activation σ), a.depth = 1 → a.emulator = (e.switched on).served before →
    ∃ ended, a.stop true = .ok (ended, a.hookRuns) ∧
      ended.emulator.outcomes later = e.outcomes later
  request : ∀ r, e.endpoint? r = some .reset →
    ((e.served before).dispatch r).1.outcomes later = e.outcomes later
  /-- A reset counts the instances, each by its own key. -/
  count : (e.served before).reset.2.2 = (e.served before).registry.materialized.length ∧
    (e.served before).registry.materialized.Nodup

/-- **A reset renews.** A pristine emulator that was asked anything and then reset, directly,
at the end of the outermost scope or on request, answers like the pristine one. -/
theorem renewalLaws (h : e.Pristine) (before : List IncomingRequest)
    (hquiet : ∀ r ∈ later, e.Quiet r) : RenewalLaws e before later := by
  constructor
  · obtain ⟨hplain, hfront⟩ := h.served_reset before
    exact h.outcomes_eq hplain hfront hquiet
  · intro on a hdepth hemulator
    obtain ⟨hplain, hfront⟩ := (h.switched on).served_reset before
    have hended : a.closed.cleared.emulator =
        ((e.switched on).served before).reset.1.switched false := by
      rw [← hemulator]
      rfl
    refine ⟨a.closed.cleared, Activation.stop_of_depth_one hdepth true, ?_⟩
    rw [hended]
    exact h.outcomes_eq ⟨hplain.hookless, hplain.renewable⟩ hfront hquiet
  · intro r hreset
    obtain ⟨hplain, hfront⟩ := h.served_request before hreset
    exact h.outcomes_eq hplain hfront hquiet
  · obtain ⟨hplain, -⟩ := h.plain.served before
    exact ⟨Registry.resetAll_count _, hplain.renewable.consistent.nodup_materialized⟩

/-- A service that keeps notes. -/
def notebook : Stub.Service where
  name := "notes"
  scope := .regional ["eu-west-1"]
  urlBases := ["http://n"]
  operations := ["Add", "List"]
  routes := [{ path := "/add", operation := some "Add", handler := .push },
    { path := "/list", operation := some "List", handler := .list }]
  routeBases := ["http://n"]
  failFirst := 0

/-- An emulator with that service. -/
def noting : Emulator Stub.State :=
  ((new {}).registerService notebook.descriptor).toOption.getD (new {})

/-- A note to add. -/
def addNote : IncomingRequest where
  method := "POST"
  url := "http://n/add"
  body := Utf8.encode "note"

/-- A request for the notes. -/
def listNotes : IncomingRequest where
  method := "GET"
  url := "http://n/list"

/-- A note is there until the reset, and not after it. -/
theorem renewalLaws_noting :
    noting.endpoint? Management.resetRequest = some .reset ∧
      ((noting.served [addNote]).outcomes [listNotes]).map (fun outcome =>
        outcome.toOption.map (·.body)) = [some (Utf8.encode "note")] ∧
      (noting.outcomes [listNotes]).map (fun outcome =>
        outcome.toOption.map (·.body)) = [some (Utf8.encode "")] ∧
      RenewalLaws noting [addNote] [listNotes] := by
  have hrenews : notebook.descriptor.Renews := by
    have hvalid : (RouteTable.build notebook.routeBases
        (notebook.routes.map Stub.handlerSpec)).toOption.isSome = true := by
      decide +kernel
    obtain ⟨table, htable⟩ := Option.isSome_iff_exists.mp hvalid
    exact Stub.Service.descriptor_renews rfl (Fallible.toOption_eq_some.mp htable)
  have hregistered : ∃ e, (new {}).registerService notebook.descriptor = .ok e ∧ noting = e := by
    have hvalid : ((new {}).registerService notebook.descriptor).toOption.isSome = true := by
      decide +kernel
    obtain ⟨e, he⟩ := Option.isSome_iff_exists.mp hvalid
    refine ⟨e, Fallible.toOption_eq_some.mp he, ?_⟩
    rw [noting, he, Option.getD_some]
  obtain ⟨e, hregister, hnoting⟩ := hregistered
  have hpristine : noting.Pristine := hnoting ▸ (pristine_new {}).registerService hrenews hregister
  have hmanaged : noting.Managed := by
    rw [hnoting]
    exact (managed_new {}).registerService (by decide) hregister
  have hquiet : ∀ r ∈ [listNotes], noting.Quiet r := by
    intro r hr
    obtain rfl := List.mem_singleton.mp hr
    refine ⟨?_, ?_⟩ <;> decide +kernel
  refine ⟨hmanaged.endpoint?_resetRequest hpristine.plain, ?_, ?_, renewalLaws hpristine _ hquiet⟩
  · decide +kernel
  · decide +kernel

end Emulator

end CloudEmulator
