import CloudEmulator.Proofs.Extension.HookOrder
import Mathlib.Data.List.Nodup
import Mathlib.Data.List.Perm.Basic

/-!
# The order of execution

The pipeline keeps its order as it goes: an extension leaves the list and joins it at the
place that its priority and the number of its registration give it. Here the order is told
from the history alone, as a stable sort of the registrations that stand.
-/

namespace CloudEmulator

/-- The extensions of one priority and id in the order of execution. -/
structure Seat where
  priority : Int
  id : String

/-- The priority and the id of an entry. -/
def Registered.seat (x : Registered) : Seat :=
  ⟨x.priority, x.extension.id⟩

namespace Pipeline

/-- What can be done with a pipeline. -/
inductive Operation where
  | register (priority : Int) (e : Extension)
  | remove (id : String)
  | clear
  | load (clocks : Extension.Clocks) (priority : Int) (catalog : OperationCatalog)
      (contents : Option Bytes)
  | request (r : ServiceRequest)
  | response (r : ServiceRequest) (s : Response)

/-- The pipeline that an operation leaves; a file that does not load changes nothing. -/
def after (p : Pipeline) : Operation → Pipeline
  | .register priority e => p.register priority e
  | .remove id => (p.withdraw id).1
  | .clear => p.clear
  | .load clocks priority catalog contents =>
    match p.load clocks priority catalog contents with
    | .ok (p', _) => p'
    | .error _ => p
  | .request r => (p.runRequest r).1
  | .response r s => (p.runResponse r s).1

/-- The pipeline that some operations leave. -/
def run (p : Pipeline) (ops : List Operation) : Pipeline :=
  ops.foldl after p

/-- What happens to ids. -/
inductive Change where
  | registered (seat : Seat)
  | removed (id : String)
  | cleared

/-- An earlier registration of the id does not outlive the change. -/
def Change.ends (c : Change) (id : String) : Bool :=
  match c with
  | .registered seat => seat.id == id
  | .removed id' => id' == id
  | .cleared => true

/-- The change is a registration. -/
def Change.isRegistration : Change → Bool
  | .registered _ => true
  | _ => false

/-- What an operation does to ids. A file registers its extensions in turn. -/
def Operation.changes : Operation → List Change
  | .register priority e => [.registered ⟨priority, e.id⟩]
  | .remove id => [.removed id]
  | .clear => [.cleared]
  | .load clocks priority catalog contents =>
    match Extension.ofFile clocks catalog contents with
    | .ok es => es.map fun e => .registered ⟨priority, e.id⟩
    | .error _ => []
  | .request _ => []
  | .response _ _ => []

/-- The latest registrations of the ids that were not removed or cleared since, in the
order in which they happened. -/
def standing : List Change → List Seat
  | [] => []
  | .registered seat :: later =>
    if later.any (·.ends seat.id) then standing later else seat :: standing later
  | .removed _ :: later => standing later
  | .cleared :: later => standing later

/-- The order in which extensions are to run: the registrations that stand, by ascending
priority. The sort is stable. -/
def expectedIds (changes : List Change) : List String :=
  ((standing changes).mergeSort fun a b => a.priority ≤ b.priority).map (·.id)

/-- The entries without the states of scripts. -/
def bare (p : Pipeline) : List Registered :=
  p.entries.map Registered.stateless

/-- An id that stands was registered, so a registration before that does not stand. -/
theorem any_ends_of_standing {changes : List Change} {seat : Seat}
    (h : seat ∈ standing changes) : changes.any (·.ends seat.id) = true := by
  induction changes with
  | nil => cases h
  | cons c later ih =>
    have hlater (hin : seat ∈ standing later) : (c :: later).any (·.ends seat.id) = true := by
      rw [List.any_cons, ih hin, Bool.or_true]
    cases c with
    | removed id => exact hlater h
    | cleared => exact hlater h
    | registered first =>
      rw [standing] at h
      split at h
      · exact hlater h
      · rcases List.mem_cons.mp h with rfl | hin
        · simp [Change.ends]
        · exact hlater hin

/-- No id stands twice. -/
theorem standing_nodup (changes : List Change) : ((standing changes).map (·.id)).Nodup := by
  induction changes with
  | nil => exact List.nodup_nil
  | cons c later ih =>
    cases c with
    | removed id => exact ih
    | cleared => exact ih
    | registered seat =>
      rw [standing]
      split
      · exact ih
      · next hstands =>
        refine List.nodup_cons.mpr ⟨?_, ih⟩
        intro hmem
        obtain ⟨other, hother, hid⟩ := List.mem_map.mp hmem
        have hends := any_ends_of_standing hother
        rw [hid] at hends
        exact hstands hends

/-- A change ends some of the registrations that stand, and one may join them. -/
theorem standing_append_singleton (changes : List Change) (c : Change) :
    standing (changes ++ [c]) =
      (standing changes).filter (fun seat => !c.ends seat.id) ++ standing [c] := by
  induction changes with
  | nil => rfl
  | cons first later ih =>
    cases first with
    | removed id => exact ih
    | cleared => exact ih
    | registered seat =>
      rw [List.cons_append, standing, standing, ih, List.any_append]
      by_cases hlater : later.any (·.ends seat.id) = true
      · simp [hlater]
      · by_cases hends : c.ends seat.id = true
        · simp [hlater, hends]
        · simp [hlater, hends]

end Pipeline

namespace Registered

variable {x y z : Registered}

/-- To precede is to have the lower priority, or the same and the lower number. -/
theorem precedes_iff : x.precedes y = true ↔
    x.priority < y.priority ∨ x.priority = y.priority ∧ x.seq < y.seq := by
  simp [precedes]

/-- Who precedes one that precedes a third precedes that as well. -/
theorem precedes_trans (h : x.precedes y = true) (h' : y.precedes z = true) :
    x.precedes z = true := by
  rw [precedes_iff] at h h' ⊢
  omega

/-- No two entries precede each other. -/
theorem not_precedes_of_precedes (h : x.precedes y = true) : ¬ y.precedes x = true := by
  rw [precedes_iff] at h ⊢
  omega

/-- The priority of the entry is at most that of the other. -/
def atMost (x y : Registered) : Bool :=
  x.priority ≤ y.priority

/-- Being at most of a priority is transitive. -/
theorem atMost_trans (x y z : Registered) (hxy : x.atMost y = true) (hyz : y.atMost z = true) :
    x.atMost z = true := by
  simp only [atMost, decide_eq_true_eq] at hxy hyz ⊢
  omega

/-- Of two entries one is at most of the priority of the other. -/
theorem atMost_total (x y : Registered) : (x.atMost y || y.atMost x) = true := by
  simp only [atMost, Bool.or_eq_true, decide_eq_true_eq]
  omega

/-- A new entry that does not precede an older one comes after it. -/
theorem precedes_of_not_precedes (hseq : y.seq < x.seq) (h : ¬ x.precedes y = true) :
    y.precedes x = true := by
  rw [precedes_iff] at h ⊢
  omega

end Registered

namespace Pipeline

variable {p : Pipeline} {changes : List Change} {log : List Registered}

/-- A placed entry joins the others. -/
theorem place_perm (r : Registered) (l : List Registered) : (place r l).Perm (r :: l) := by
  induction l with
  | nil => exact List.Perm.refl _
  | cons x rest ih =>
    rw [place]
    split
    · exact List.Perm.refl _
    · exact (ih.cons x).trans (List.Perm.swap r x rest)

/-- An entry that is newer than all others finds its place among them. -/
theorem place_ordered {r : Registered} {l : List Registered}
    (hordered : l.Pairwise fun x y => x.precedes y = true) (hnew : ∀ x ∈ l, x.seq < r.seq) :
    (place r l).Pairwise fun x y => x.precedes y = true := by
  induction l with
  | nil => exact List.pairwise_singleton _ _
  | cons x rest ih =>
    obtain ⟨hx, hrest⟩ := List.pairwise_cons.mp hordered
    rw [place]
    split
    · next hbefore =>
      refine List.pairwise_cons.mpr ⟨?_, hordered⟩
      intro y hy
      rcases List.mem_cons.mp hy with rfl | hy
      · exact hbefore
      · exact Registered.precedes_trans hbefore (hx y hy)
    · next hbehind =>
      have hplaced := ih hrest fun y hy => hnew y (List.mem_cons_of_mem _ hy)
      refine List.pairwise_cons.mpr ⟨?_, hplaced⟩
      intro y hy
      rcases List.mem_cons.mp ((place_perm r rest).mem_iff.mp hy) with rfl | hy
      · exact Registered.precedes_of_not_precedes (hnew x List.mem_cons_self) hbehind
      · exact hx y hy

/-- An entry that is newer than all others is placed behind those of its priority and
lower ones, and before those of higher ones. -/
theorem exists_place_eq {r : Registered} {l : List Registered}
    (hordered : l.Pairwise fun x y => x.precedes y = true) (hnew : ∀ x ∈ l, x.seq < r.seq) :
    ∃ front back, l = front ++ back ∧ place r l = front ++ r :: back ∧
      (∀ x ∈ front, x.priority ≤ r.priority) ∧ ∀ x ∈ back, r.priority < x.priority := by
  induction l with
  | nil => exact ⟨[], [], rfl, rfl, by simp, by simp⟩
  | cons x rest ih =>
    obtain ⟨hx, hrest⟩ := List.pairwise_cons.mp hordered
    have hxnew : x.seq < r.seq := hnew x List.mem_cons_self
    rw [place]
    split
    · next hbefore =>
      refine ⟨[], x :: rest, rfl, rfl, by simp, ?_⟩
      have hlow : r.priority < x.priority := by
        rw [Registered.precedes_iff] at hbefore
        omega
      intro y hy
      rcases List.mem_cons.mp hy with rfl | hy
      · exact hlow
      · have hxy := Registered.precedes_iff.mp (hx y hy)
        omega
    · next hbehind =>
      obtain ⟨front, back, rfl, hplace, hfront, hback⟩ :=
        ih hrest fun y hy => hnew y (List.mem_cons_of_mem _ hy)
      refine ⟨x :: front, back, rfl, by rw [hplace]; rfl, ?_, hback⟩
      intro y hy
      rcases List.mem_cons.mp hy with rfl | hy
      · rw [Registered.precedes_iff] at hbehind
        omega
      · exact hfront y hy

/-- The place of an entry has nothing to do with states. -/
theorem map_place (r : Registered) (l : List Registered) :
    (place r l).map Registered.stateless = place r.stateless (l.map Registered.stateless) := by
  induction l with
  | nil => rfl
  | cons x rest ih =>
    have hsame : r.stateless.precedes x.stateless = r.precedes x := rfl
    rw [List.map_cons, place, place, hsame]
    split
    · rfl
    · rw [List.map_cons, ih]

/-- The ids can be told without the states. -/
theorem ids_eq (p : Pipeline) : p.ids = p.bare.map (·.extension.id) := by
  unfold ids bare
  rw [List.map_map]
  rfl

/-- The entries of a pipeline are, but for their states, those of a log: this has them in
the order of their numbers, the pipeline by priority and number. -/
structure Logged (p : Pipeline) (log : List Registered) : Prop where
  numbered : log.Pairwise fun x y => x.seq < y.seq
  bounded : ∀ x ∈ log, x.seq < p.nextSeq
  perm : p.bare.Perm log
  ordered : p.bare.Pairwise fun x y => x.precedes y = true

/-- A new pipeline has an empty log. -/
theorem Logged.empty : Logged {} [] where
  numbered := List.Pairwise.nil
  bounded := by simp
  perm := List.Perm.refl _
  ordered := List.Pairwise.nil

/-- What leaves a pipeline leaves its log. -/
theorem Logged.filter (h : p.Logged log) (keep : String → Bool) :
    ({ p with entries := p.entries.filter fun x => keep x.extension.id } : Pipeline).Logged
      (log.filter fun x => keep x.extension.id) := by
  have hbare : bare { p with entries := p.entries.filter fun x => keep x.extension.id } =
      p.bare.filter fun x => keep x.extension.id := by
    unfold bare
    rw [List.filter_map]
    rfl
  constructor
  · exact h.numbered.filter _
  · exact fun x hx => h.bounded x (List.mem_of_mem_filter hx)
  · rw [hbare]
    exact h.perm.filter _
  · rw [hbare]
    exact h.ordered.filter _

/-- A registration takes the entry of its id from the log and stands at its end. -/
theorem Logged.register (h : p.Logged log) (priority : Int) (e : Extension) :
    (p.register priority e).Logged
      (log.filter (fun x => x.extension.id != e.id) ++ [⟨priority, p.nextSeq, e.stateless⟩]) := by
  have hrest : (p.remove e.id).Logged (log.filter fun x => x.extension.id != e.id) :=
    h.filter (· != e.id)
  let new : Registered := ⟨priority, p.nextSeq, e.stateless⟩
  have hbare : (p.register priority e).bare = place new (p.remove e.id).bare := map_place _ _
  have hnew : ∀ x ∈ (p.remove e.id).bare, x.seq < new.seq :=
    fun x hx => hrest.bounded x (hrest.perm.mem_iff.mp hx)
  constructor
  · refine List.pairwise_append.mpr ⟨hrest.numbered, List.pairwise_singleton _ _, ?_⟩
    intro x hx y hy
    rw [List.mem_singleton.mp hy]
    exact hrest.bounded x hx
  · intro x hx
    have hnext : (p.register priority e).nextSeq = p.nextSeq + 1 := rfl
    rcases List.mem_append.mp hx with hx | hx
    · have hold : x.seq < p.nextSeq := hrest.bounded x hx
      omega
    · rw [List.mem_singleton.mp hx, hnext]
      exact Nat.lt_succ_self _
  · rw [hbare]
    calc (place new (p.remove e.id).bare).Perm (new :: (p.remove e.id).bare) := place_perm _ _
      List.Perm _ (new :: log.filter fun x => x.extension.id != e.id) := hrest.perm.cons new
      List.Perm _ _ := (List.perm_append_singleton new _).symm
  · rw [hbare]
    exact place_ordered hrest.ordered hnew

/-- Sorting by priority keeps the order inside of each priority. -/
theorem filter_mergeSort (l : List Registered) (priority : Int) :
    (l.mergeSort Registered.atMost).filter (·.priority == priority) =
      l.filter (·.priority == priority) := by
  have hlevel : (l.filter (·.priority == priority)).Pairwise fun x y => x.atMost y = true := by
    refine List.pairwise_of_forall_mem_list ?_
    intro x hx y hy
    have hxp : x.priority = priority := by simpa using (List.mem_filter.mp hx).2
    have hyp : y.priority = priority := by simpa using (List.mem_filter.mp hy).2
    simp [Registered.atMost, hxp, hyp]
  have hsub : (l.filter (·.priority == priority)).Sublist (l.mergeSort Registered.atMost) :=
    List.sublist_mergeSort Registered.atMost_trans Registered.atMost_total hlevel
      List.filter_sublist
  have hlevels := hsub.filter (·.priority == priority)
  rw [List.filter_filter] at hlevels
  simp only [Bool.and_self] at hlevels
  have hperm := (List.mergeSort_perm l Registered.atMost).filter (·.priority == priority)
  exact (hlevels.eq_of_length hperm.length_eq.symm).symm

/-- A log sorted by priority is in the order in which a pipeline runs its entries. -/
theorem mergeSort_ordered (hnumbered : log.Pairwise fun x y => x.seq < y.seq) :
    (log.mergeSort Registered.atMost).Pairwise fun x y => x.precedes y = true := by
  refine List.pairwise_iff_forall_sublist.mpr ?_
  intro x y hxy
  have hle : x.atMost y = true := List.pairwise_iff_forall_sublist.mp
    (List.pairwise_mergeSort Registered.atMost_trans Registered.atMost_total log) hxy
  rw [Registered.atMost, decide_eq_true_eq] at hle
  rw [Registered.precedes_iff]
  by_cases hsame : x.priority = y.priority
  · -- Entries of one priority stand as in the log, so the later one has the higher number.
    have hlevel := hxy.filter (·.priority == y.priority)
    rw [filter_mergeSort] at hlevel
    have hpair : [x, y].filter (·.priority == y.priority) = [x, y] := by simp [hsame]
    rw [hpair] at hlevel
    have hinLog := hlevel.trans List.filter_sublist
    exact .inr ⟨hsame, List.pairwise_iff_forall_sublist.mp hnumbered hinLog⟩
  · exact .inl (by omega)

/-- A pipeline has its entries in the order of its log, sorted by priority. -/
theorem Logged.bare_eq (h : p.Logged log) : p.bare = log.mergeSort Registered.atMost := by
  refine List.Perm.eq_of_pairwise ?_ h.ordered (mergeSort_ordered h.numbered)
    (h.perm.trans (List.mergeSort_perm log Registered.atMost).symm)
  intro x y _ _ hxy hyx
  exact absurd hyx (Registered.not_precedes_of_precedes hxy)

/-- The pipeline is what some changes leave: it has a log of the registrations that stand. -/
def Reflects (p : Pipeline) (changes : List Change) : Prop :=
  ∃ log, p.Logged log ∧ log.map Registered.seat = standing changes

/-- The pipeline that some changes leave runs its extensions in the order that these make
one expect. -/
theorem Reflects.ids_eq (h : p.Reflects changes) : p.ids = expectedIds changes := by
  obtain ⟨log, hlogged, hseats⟩ := h
  have hsort : (log.mergeSort Registered.atMost).map Registered.seat =
      (log.map Registered.seat).mergeSort fun a b => a.priority ≤ b.priority :=
    List.map_mergeSort fun x _ y _ => rfl
  calc p.ids = p.bare.map (·.extension.id) := Pipeline.ids_eq p
    _ = ((log.mergeSort Registered.atMost).map Registered.seat).map (·.id) := by
      rw [hlogged.bare_eq, List.map_map]
      rfl
    _ = expectedIds changes := by rw [hsort, hseats, expectedIds]

/-- No id is twice in the order that one expects. -/
theorem expectedIds_nodup (changes : List Change) : (expectedIds changes).Nodup := by
  unfold expectedIds
  refine (List.Perm.nodup_iff ?_).mpr (standing_nodup changes)
  exact (List.mergeSort_perm _ _).map _

example : expectedIds [.registered ⟨0, "a"⟩, .registered ⟨0, "b"⟩, .registered ⟨-1, "c"⟩,
    .registered ⟨0, "a"⟩, .removed "d"] = ["c", "b", "a"] := by
  cbv

/-- A change that only ends registrations takes their entries away. -/
theorem Reflects.without (h : p.Reflects changes) {c : Change} (hnone : standing [c] = []) :
    ({ p with entries := p.entries.filter fun x => !c.ends x.extension.id } : Pipeline).Reflects
      (changes ++ [c]) := by
  obtain ⟨log, hlogged, hseats⟩ := h
  refine ⟨_, hlogged.filter fun id => !c.ends id, ?_⟩
  rw [standing_append_singleton, hnone, List.append_nil, ← hseats, List.filter_map]
  rfl

/-- A registration is a change that puts its extension last among those that stand. -/
theorem Reflects.register (h : p.Reflects changes) (priority : Int) (e : Extension) :
    (p.register priority e).Reflects (changes ++ [.registered ⟨priority, e.id⟩]) := by
  obtain ⟨log, hlogged, hseats⟩ := h
  refine ⟨_, hlogged.register priority e, ?_⟩
  have hends : (fun seat : Seat => !Change.ends (.registered ⟨priority, e.id⟩) seat.id) =
      fun seat => seat.id != e.id := by
    funext seat
    rw [Change.ends, BEq.comm]
    rfl
  rw [standing_append_singleton, hends, ← hseats, List.filter_map, List.map_append]
  rfl

/-- Several registrations are as many changes. The induction is on the extensions. -/
theorem Reflects.registerAll (h : p.Reflects changes) (priority : Int) (es : List Extension) :
    (p.registerAll priority es).Reflects
      (changes ++ es.map fun e => .registered ⟨priority, e.id⟩) := by
  induction es generalizing p changes with
  | nil => rwa [List.map_nil, List.append_nil]
  | cons e es ih =>
    have hrest := ih (h.register priority e)
    rwa [List.append_assoc] at hrest

/-- Hooks change nothing but states, and so nothing that a log tells. -/
theorem Reflects.restated {p' : Pipeline} {r : ServiceRequest} {xs : List Extension}
    (h : p.Reflects changes) (hnext : p'.nextSeq = p.nextSeq)
    (hrestated : Restated r p.entries xs p'.entries) : p'.Reflects changes := by
  obtain ⟨log, hlogged, hseats⟩ := h
  have hbare : p'.bare = p.bare := hrestated.stateless
  refine ⟨log, ⟨hlogged.numbered, ?_, ?_, ?_⟩, hseats⟩
  · rw [hnext]
    exact hlogged.bounded
  · rw [hbare]
    exact hlogged.perm
  · rw [hbare]
    exact hlogged.ordered

/-- Request hooks register nothing. -/
theorem nextSeq_runRequest (p : Pipeline) (r : ServiceRequest) :
    (p.runRequest r).1.nextSeq = p.nextSeq := by
  unfold runRequest
  split <;> rfl

/-- Response hooks register nothing. -/
theorem nextSeq_runResponse (p : Pipeline) (r : ServiceRequest) (s : Response) :
    (p.runResponse r s).1.nextSeq = p.nextSeq := by
  unfold runResponse
  split <;> rfl

/-- Every operation does to the pipeline what its changes say. -/
theorem Reflects.after (h : p.Reflects changes) (op : Operation) :
    (p.after op).Reflects (changes ++ op.changes) := by
  cases op with
  | register priority e => exact h.register priority e
  | remove id =>
    have hrest := h.without (c := .removed id) rfl
    have hends : (fun x : Registered => !Change.ends (.removed id) x.extension.id) =
        fun x => x.extension.id != id := by
      funext x
      rw [Change.ends, BEq.comm]
      rfl
    rwa [hends] at hrest
  | clear =>
    have hrest := h.without (c := .cleared) rfl
    have hnothing : (p.entries.filter fun x => !Change.ends .cleared x.extension.id) = [] := by
      simp [Change.ends]
    rwa [hnothing] at hrest
  | load clocks priority catalog contents =>
    rw [Operation.changes, Pipeline.after, load]
    cases Extension.ofFile clocks catalog contents with
    | ok es => exact h.registerAll priority es
    | error fault => rwa [List.append_nil]
  | request r =>
    rw [Operation.changes, List.append_nil]
    exact h.restated (p.nextSeq_runRequest r) (p.runRequest_eq r).2.2
  | response r s =>
    rw [Operation.changes, List.append_nil]
    exact h.restated (p.nextSeq_runResponse r s) (p.runResponse_eq r s).2.2

/-- A run of operations does to the pipeline what their changes say, one after the other. -/
theorem Reflects.run (h : p.Reflects changes) (ops : List Operation) :
    (p.run ops).Reflects (changes ++ ops.flatMap Operation.changes) := by
  induction ops generalizing p changes with
  | nil => rwa [List.flatMap_nil, List.append_nil]
  | cons op ops ih =>
    have hrest := ih (h.after op)
    rwa [List.append_assoc] at hrest

/-- A pipeline that was reached by operations reflects their changes. -/
theorem reflects_run (ops : List Operation) :
    (({} : Pipeline).run ops).Reflects (ops.flatMap Operation.changes) := by
  have hempty : ({} : Pipeline).Reflects [] := ⟨[], Logged.empty, rfl⟩
  exact hempty.run ops

/-- Several registrations take as many numbers. -/
theorem nextSeq_registerAll (p : Pipeline) (priority : Int) (es : List Extension) :
    (p.registerAll priority es).nextSeq = p.nextSeq + es.length := by
  induction es generalizing p with
  | nil => rfl
  | cons e es ih =>
    have hnext : (p.register priority e).nextSeq = p.nextSeq + 1 := rfl
    have hrest := ih (p.register priority e)
    rw [hnext, Nat.add_right_comm] at hrest
    exact hrest

/-- An operation takes a number for each registration. -/
theorem nextSeq_after (p : Pipeline) (op : Operation) :
    (p.after op).nextSeq = p.nextSeq + op.changes.countP Change.isRegistration := by
  cases op with
  | register | remove | clear => rfl
  | load clocks priority catalog contents =>
    rw [Operation.changes, Pipeline.after, load]
    cases Extension.ofFile clocks catalog contents with
    | ok es =>
      have hall : (es.map fun e => Change.registered ⟨priority, e.id⟩).countP
          Change.isRegistration = es.length := by
        rw [List.countP_map]
        exact List.countP_eq_length.mpr fun _ _ => rfl
      rw [hall]
      exact nextSeq_registerAll p priority es
    | error fault => rfl
  | request r => exact nextSeq_runRequest p r
  | response r s => exact nextSeq_runResponse p r s

/-- A run of operations takes a number for each registration. -/
theorem nextSeq_run (p : Pipeline) (ops : List Operation) :
    (p.run ops).nextSeq =
      p.nextSeq + (ops.flatMap Operation.changes).countP Change.isRegistration := by
  induction ops generalizing p with
  | nil => rfl
  | cons op ops ih =>
    rw [List.flatMap_cons, List.countP_append, ← Nat.add_assoc, ← nextSeq_after]
    exact ih (p.after op)

/-- What is left of the ids when one of them is removed. -/
theorem ids_remove (p : Pipeline) (id : String) : (p.remove id).ids = p.ids.filter (· != id) := by
  unfold ids remove
  rw [List.filter_map]
  rfl

/-- A removal tells whether the id was there. -/
theorem withdraw_eq_true_iff (p : Pipeline) (id : String) :
    (p.withdraw id).2 = true ↔ id ∈ p.ids := by
  have hshorter := List.length_filter_lt_length_iff_exists
    (p := fun x : Registered => x.extension.id != id) (l := p.entries)
  have hle : (p.remove id).size ≤ p.size := List.length_filter_le _ _
  have hlt : (p.withdraw id).2 = true ↔ (p.remove id).size < p.size := by
    simp only [withdraw, bne_iff_ne]
    omega
  rw [hlt]
  refine hshorter.trans ?_
  simp [ids]

/-- What holds of the order of execution in every pipeline that operations lead to. -/
structure OrderLaws (ops : List Operation) (p : Pipeline) : Prop where
  /-- The order is that of the registrations that stand, sorted by priority. -/
  order : p.ids = expectedIds (ops.flatMap Operation.changes)
  /-- No id is there twice. -/
  unique : p.ids.Nodup
  /-- A registration, also one of an id that is there, joins the other extensions behind
  those of its priority and before those of higher ones. -/
  joins : ∀ (priority : Int) (e : Extension), ∃ front back,
    (p.remove e.id).entries = front ++ back ∧
      (p.register priority e).entries = front ++ ⟨priority, p.nextSeq, e⟩ :: back ∧
      (∀ x ∈ front, x.priority ≤ priority) ∧ ∀ x ∈ back, priority < x.priority
  /-- A removal tells whether the id was there, and keeps the order of the others. -/
  removes : ∀ id : String, ((p.withdraw id).2 = true ↔ id ∈ p.ids) ∧
    (p.withdraw id).1.ids = p.ids.filter (· != id)
  /-- The numbers count the registrations. For fewer of these than 64 bits can count, those
  of 64 bits are the same. -/
  numbers : p.nextSeq = (ops.flatMap Operation.changes).countP Change.isRegistration ∧
    ((ops.flatMap Operation.changes).countP Change.isRegistration < UInt64.size →
      ∀ x ∈ p.entries, (UInt64.ofNat x.seq).toNat = x.seq)

/-- **The order of execution.** Whatever was registered, replaced, loaded, removed and
cleared, and whichever hooks ran in between, the extensions run in the order of their
latest registrations, sorted by priority. -/
theorem orderLaws (ops : List Operation) : OrderLaws ops (({} : Pipeline).run ops) where
  order := (reflects_run ops).ids_eq
  unique := by
    rw [(reflects_run ops).ids_eq]
    exact expectedIds_nodup _
  joins := by
    intro priority e
    obtain ⟨log, hlogged, -⟩ := reflects_run ops
    have hrest := hlogged.filter (· != e.id)
    refine exists_place_eq (r := ⟨priority, _, e⟩) (List.pairwise_map.mp hrest.ordered) ?_
    intro x hx
    have hin : x.stateless ∈ log.filter fun y => y.extension.id != e.id :=
      hrest.perm.mem_iff.mp (List.mem_map_of_mem hx)
    exact hrest.bounded x.stateless hin
  removes := fun id => ⟨withdraw_eq_true_iff _ id, ids_remove _ id⟩
  numbers := by
    have hnext := (nextSeq_run {} ops).trans (Nat.zero_add _)
    refine ⟨hnext, fun hfew x hx => ?_⟩
    obtain ⟨log, hlogged, -⟩ := reflects_run ops
    have hin : x.stateless ∈ log := hlogged.perm.mem_iff.mp (List.mem_map_of_mem hx)
    have hseq : x.seq < (({} : Pipeline).run ops).nextSeq := hlogged.bounded x.stateless hin
    rw [UInt64.toNat_ofNat']
    exact Nat.mod_eq_of_lt (by rw [hnext] at hseq; exact Nat.lt_trans hseq hfew)

end Pipeline

end CloudEmulator
