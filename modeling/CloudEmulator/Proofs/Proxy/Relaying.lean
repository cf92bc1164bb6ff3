import CloudEmulator.Proxy.Relay
import Mathlib.Data.List.TakeWhile

/-!
# What a relay passes on

A buffer keeps what earlier reads left behind the end of a later one, so what a side receives
rests on how much of the buffer is written. Step by step, each side receives exactly what the
other one gave, up to the first event that ends the tunnel.
-/

namespace CloudEmulator

namespace TunnelEvent

/-- The tunnel goes on behind the event: something was read. -/
def goesOn : TunnelEvent → Bool
  | read _ octets => !octets.isEmpty
  | _ => false

/-- What the event gives of a side. -/
def octetsOf (side : TunnelSide) : TunnelEvent → Bytes
  | read reader octets => if reader = side then octets else []
  | _ => []

/-- What was read has room in a buffer. -/
def fits : TunnelEvent → Bool
  | read _ octets => octets.length ≤ Relay.bufferSize
  | _ => true

/-- How the event ends a tunnel with these counts. -/
def ending (stats : RelayStats) : TunnelEvent → RelayEnd
  | readFailed _ => .failed
  | _ => .closed stats

end TunnelEvent

namespace Relay

/-- What a side gives in some events: its chunks, one after the other. -/
def given (side : TunnelSide) (events : List TunnelEvent) : Bytes :=
  events.flatMap (TunnelEvent.octetsOf side)

/-- The counts, and what the sides give in some events counted besides. -/
def counting (stats : RelayStats) (events : List TunnelEvent) : RelayStats where
  clientToOrigin := stats.clientToOrigin + (given .client events).length
  originToClient := stats.originToClient + (given .origin events).length

/-- The events before the first one that ends the tunnel. -/
def live (events : List TunnelEvent) : List TunnelEvent :=
  events.takeWhile TunnelEvent.goesOn

/-- What the event that ends a tunnel leaves of it: shut sides, unless a read has failed. -/
def left (r : Relay) : TunnelEvent → Relay
  | .readFailed _ => r
  | _ => r.close.1

/-- Both buffers have their size. -/
def Roomy (r : Relay) : Prop :=
  r.upstream.length = bufferSize ∧ r.downstream.length = bufferSize

variable {r next last : Relay} {side : TunnelSide} {event : TunnelEvent}
  {events front later : List TunnelEvent} {buffer octets : Bytes}

/-- The front of a buffer is what the last read gave, whatever was there before. -/
theorem take_fill (buffer octets : Bytes) : (fill buffer octets).take octets.length = octets :=
  List.take_left

/-- A read that has room in a buffer leaves its size as it is. -/
theorem length_fill (h : octets.length ≤ buffer.length) :
    (fill buffer octets).length = buffer.length := by
  rw [fill, List.length_append, List.length_drop]
  omega

/-- What a tunnel takes in from some events, none of which ends it. -/
structure Takes (events : List TunnelEvent) (r next : Relay) : Prop where
  toOrigin : next.toOrigin = r.toOrigin ++ given .client events
  toClient : next.toClient = r.toClient ++ given .origin events
  stats : next.stats = counting r.stats events
  originShut : next.originShut = r.originShut
  clientShut : next.clientShut = r.clientShut
  roomy : (∀ event ∈ events, event.fits = true) → r.Roomy → next.Roomy

/-- Nothing is taken in from no events. -/
theorem Takes.refl (r : Relay) : Takes [] r r where
  toOrigin := (List.append_nil _).symm
  toClient := (List.append_nil _).symm
  stats := rfl
  originShut := rfl
  clientShut := rfl
  roomy := fun _ h => h

/-- What events in front give comes before what later ones give. -/
theorem Takes.trans (hfront : Takes front r next) (hlater : Takes later next last) :
    Takes (front ++ later) r last where
  toOrigin := by
    rw [hlater.toOrigin, hfront.toOrigin, given, given, given, List.flatMap_append,
      List.append_assoc]
  toClient := by
    rw [hlater.toClient, hfront.toClient, given, given, given, List.flatMap_append,
      List.append_assoc]
  stats := by
    rw [hlater.stats, hfront.stats]
    simp only [counting, given, List.flatMap_append, List.length_append, Nat.add_assoc]
  originShut := hlater.originShut.trans hfront.originShut
  clientShut := hlater.clientShut.trans hfront.clientShut
  roomy := by
    intro hfits hroomy
    obtain ⟨hfitsFront, hfitsLater⟩ := List.forall_mem_append.mp hfits
    exact hlater.roomy hfitsLater (hfront.roomy hfitsFront hroomy)

/-- To forward what a side gave is to take it in. -/
theorem takes_forward (r : Relay) (side : TunnelSide) (octets : Bytes) :
    Takes [.read side octets] r (r.forward side octets) := by
  have hroom {buffer : Bytes} (hfits : ∀ event ∈ [TunnelEvent.read side octets], event.fits = true)
      (hsize : buffer.length = bufferSize) : (fill buffer octets).length = bufferSize := by
    have hlength : octets.length ≤ bufferSize := by
      simpa [TunnelEvent.fits] using hfits
    rw [length_fill (hsize ▸ hlength), hsize]
  cases side with
  | client =>
    refine ⟨?_, ?_, ?_, rfl, rfl, fun hfits hroomy => ⟨hroom hfits hroomy.1, hroomy.2⟩⟩
    · simp [forward, take_fill, given, TunnelEvent.octetsOf]
    · simp [forward, given, TunnelEvent.octetsOf]
    · simp [forward, counting, given, TunnelEvent.octetsOf]
  | origin =>
    refine ⟨?_, ?_, ?_, rfl, rfl, fun hfits hroomy => ⟨hroomy.1, hroom hfits hroomy.2⟩⟩
    · simp [forward, given, TunnelEvent.octetsOf]
    · simp [forward, take_fill, given, TunnelEvent.octetsOf]
    · simp [forward, counting, given, TunnelEvent.octetsOf]

/-- An event behind which the tunnel goes on is taken in. -/
theorem step_of_goesOn (r : Relay) (h : event.goesOn = true) :
    r.step event = ((r.step event).1, none) ∧ Takes [event] r (r.step event).1 := by
  cases event with
  | read side octets =>
    cases octets with
    | nil => cases h
    | cons first octets => exact ⟨rfl, takes_forward r side (first :: octets)⟩
  | readFailed side => cases h
  | idle => cases h

/-- Any other event ends the tunnel. -/
theorem step_of_not_goesOn (r : Relay) (h : event.goesOn = false) :
    r.step event = (r.left event, some (event.ending r.stats)) := by
  cases event with
  | read side octets =>
    cases octets with
    | nil => rfl
    | cons first octets => cases h
  | readFailed side => rfl
  | idle => rfl

/-- At its end a tunnel passes nothing on. -/
theorem left_received (r : Relay) (event : TunnelEvent) :
    (r.left event).toOrigin = r.toOrigin ∧ (r.left event).toClient = r.toClient := by
  cases event <;> exact ⟨rfl, rfl⟩

/-- The end of a tunnel does not touch the buffers. -/
theorem left_roomy (h : r.Roomy) (event : TunnelEvent) : (r.left event).Roomy := by
  cases event <;> exact h

/-- Where a tunnel is closed its counts are told and both sides are shut. -/
theorem ending_closed {stats told : RelayStats} (h : event.ending stats = .closed told)
    (r : Relay) :
    told = stats ∧ (r.left event).originShut = true ∧ (r.left event).clientShut = true := by
  cases event with
  | read | idle => exact ⟨(RelayEnd.closed.inj h).symm, rfl, rfl⟩
  | readFailed => cases h

/-- Events behind which the tunnel goes on are taken in one by one. -/
theorem run_of_goesOn (r : Relay) (hall : ∀ event ∈ events, event.goesOn = true) :
    r.run events = ((r.run events).1, none) ∧ Takes events r (r.run events).1 := by
  induction events generalizing r with
  | nil => exact ⟨rfl, .refl r⟩
  | cons event events ih =>
    obtain ⟨hevent, hrest⟩ := List.forall_mem_cons.mp hall
    obtain ⟨hstep, htakes⟩ := r.step_of_goesOn hevent
    obtain ⟨hrun, hlater⟩ := ih (r.step event).1 hrest
    rw [run, hstep]
    exact ⟨hrun, htakes.trans hlater⟩

/-- Behind such events come the others. -/
theorem run_append (r : Relay) (hfront : ∀ event ∈ front, event.goesOn = true)
    (later : List TunnelEvent) : r.run (front ++ later) = (r.run front).1.run later := by
  induction front generalizing r with
  | nil => rfl
  | cons event front ih =>
    obtain ⟨hevent, hrest⟩ := List.forall_mem_cons.mp hfront
    rw [List.cons_append, run, run, (r.step_of_goesOn hevent).1]
    exact ih (r.step event).1 hrest

/-- The events that a tunnel takes in are those in front of the first that ends it. -/
theorem live_append (hfront : ∀ event ∈ front, event.goesOn = true)
    (hend : event.goesOn = false) (later : List TunnelEvent) :
    live (front ++ event :: later) = front := by
  rw [live, List.takeWhile_append_of_pos hfront, List.takeWhile_cons_of_neg (by simp [hend]),
    List.append_nil]

/-- Either all events let the tunnel go on, or there is a first that ends it. -/
theorem goesOn_or_ends (events : List TunnelEvent) :
    (∀ event ∈ events, event.goesOn = true) ∨
      ∃ front event later, events = front ++ event :: later ∧
        (∀ event ∈ front, event.goesOn = true) ∧ event.goesOn = false := by
  induction events with
  | nil => exact .inl (by simp)
  | cons first events ih =>
    cases hfirst : first.goesOn with
    | false => exact .inr ⟨[], first, events, rfl, by simp, hfirst⟩
    | true =>
      rcases ih with hall | ⟨front, event, later, rfl, hfront, hend⟩
      · exact .inl (List.forall_mem_cons.mpr ⟨hfirst, hall⟩)
      · exact .inr ⟨first :: front, event, later, rfl,
          List.forall_mem_cons.mpr ⟨hfirst, hfront⟩, hend⟩

/-- The counts of a new tunnel. -/
theorem counting_new (events : List TunnelEvent) :
    counting {} events = ⟨(given .client events).length, (given .origin events).length⟩ := by
  simp only [counting, Nat.zero_add]

/-- The first event that ends a new tunnel leaves it as the events before have made it. -/
theorem run_new (hfront : ∀ event ∈ front, event.goesOn = true) (hend : event.goesOn = false)
    (later : List TunnelEvent) :
    run {} (front ++ event :: later) = ((run {} front).1.left event, some (event.ending
      ⟨(given .client front).length, (given .origin front).length⟩)) := by
  have htakes := (run_of_goesOn {} hfront).2
  rw [run_append {} hfront, run, step_of_not_goesOn _ hend, htakes.stats, counting_new]

/-- What holds of a new tunnel in which some events happen. -/
structure RelayLaws (events : List TunnelEvent) : Prop where
  /-- Each side has received what the other gave before the tunnel ended, and nothing else. -/
  toOrigin : (run {} events).1.toOrigin = given .client (live events)
  toClient : (run {} events).1.toClient = given .origin (live events)
  /-- The tunnel is open as long as something is read in every event. -/
  open_iff : (run {} events).2 = none ↔ ∀ event ∈ events, event.goesOn = true
  /-- The first other event ends it: nothing behind that event is taken in. Where a read has
  failed so has the tunnel, and otherwise it is closed with the counts of what was given. -/
  stops : ∀ front event later, events = front ++ event :: later →
    (∀ event ∈ front, event.goesOn = true) → event.goesOn = false →
    live events = front ∧ run {} events = run {} (front ++ [event]) ∧
      (run {} events).2 = some (event.ending
        ⟨(given .client front).length, (given .origin front).length⟩)
  /-- A tunnel that is closed has counted what each side received, and both sides are shut. -/
  closed : ∀ stats, (run {} events).2 = some (.closed stats) →
    stats.clientToOrigin = (run {} events).1.toOrigin.length ∧
      stats.originToClient = (run {} events).1.toClient.length ∧
      (run {} events).1.originShut = true ∧ (run {} events).1.clientShut = true
  /-- There is always room for as many octets as a read may give. -/
  roomy : (∀ event ∈ events, event.fits = true) → (run {} events).1.Roomy

/-- **Relayed octets.** Whatever happens in a tunnel, each side receives what the other one gave,
octet by octet in that order, up to the first end of a side, failed read or pause that is too
long. There the tunnel ends, and unless a read has failed it tells how much went each way and
shuts both sides. -/
theorem relayLaws (events : List TunnelEvent) : RelayLaws events := by
  have hnew : ({} : Relay).Roomy := ⟨List.length_replicate, List.length_replicate⟩
  rcases goesOn_or_ends events with hall | ⟨front, event, later, hevents, hfront, hend⟩
  · obtain ⟨hrun, htakes⟩ := run_of_goesOn {} hall
    have hlive : live events = events := List.takeWhile_eq_self_iff.mpr hall
    have hopen : (run {} events).2 = none := by rw [hrun]
    constructor
    case toOrigin => rw [htakes.toOrigin, hlive, List.nil_append]
    case toClient => rw [htakes.toClient, hlive, List.nil_append]
    case open_iff => exact iff_of_true hopen hall
    case stops =>
      intro front event later hevents _ hend
      cases hend.symm.trans (hall event (by simp [hevents]))
    case closed =>
      intro stats hclosed
      cases hopen.symm.trans hclosed
    case roomy => exact fun hfits => htakes.roomy hfits hnew
  · have hlive : live events = front := by rw [hevents, live_append hfront hend]
    have htakes := (run_of_goesOn {} hfront).2
    have hrun := run_new hfront hend later
    rw [← hevents] at hrun
    obtain ⟨horigin, hclient⟩ := (run {} front).1.left_received event
    constructor
    case toOrigin => rw [hrun, horigin, htakes.toOrigin, hlive, List.nil_append]
    case toClient => rw [hrun, hclient, htakes.toClient, hlive, List.nil_append]
    case open_iff =>
      refine iff_of_false (by simp [hrun]) fun hall => ?_
      cases hend.symm.trans (hall event (by simp [hevents]))
    case stops =>
      intro front event later hevents hfront hend
      rw [hevents, live_append hfront hend, run_new hfront hend, run_new hfront hend]
      exact ⟨rfl, rfl, rfl⟩
    case closed =>
      intro stats hclosed
      rw [hrun] at hclosed ⊢
      have hending := Option.some.inj hclosed
      obtain ⟨hstats, hshut⟩ := ending_closed hending (run {} front).1
      rw [hstats, horigin, hclient, htakes.toOrigin, htakes.toClient]
      exact ⟨rfl, rfl, hshut⟩
    case roomy =>
      intro hfits
      rw [hrun]
      rw [hevents] at hfits
      exact left_roomy (htakes.roomy (List.forall_mem_append.mp hfits).1 hnew) event

/-- Of a short read behind a long one, no octet of the long one is written again. -/
example :
    (run {} [.read .client [1, 2, 3], .read .client [4], .read .origin []]).1.toOrigin =
      [1, 2, 3, 4] := by
  rfl

end Relay

end CloudEmulator
