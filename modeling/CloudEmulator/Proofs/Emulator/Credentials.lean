import CloudEmulator.Proofs.Emulator.Scopes
import Mathlib.Data.List.Infix

/-!
# Exported credentials

The start of an outermost scope exports the credentials, and its end puts both variables
back to what they were just before that start. This holds along every history of scopes,
whatever the host writes in between, and with too many ends.
-/

namespace CloudEmulator

namespace Activation

variable {σ : Type} {a : Activation σ}

/-- The variables that hold the credentials. -/
def credentialVariables : List String := [keyVariable, secretVariable]

/-- The call leaves the settings of the emulator as they are. Scopes always do. -/
def Call.KeepsSettings : Call σ → Prop
  | .host work _ => ∀ e, (work e).config = e.config
  | _ => True

/-- The call takes the depth from zero to one. -/
def enters (a : Activation σ) (call : Call σ) : Bool :=
  a.depth == 0 && (a.after call).depth == 1

/-- The call takes the depth from one to zero. -/
def leaves (a : Activation σ) (call : Call σ) : Bool :=
  a.depth == 1 && (a.after call).depth == 0

/-- The outermost scope that is open after `calls` was opened right after `front`, and
has been open since. -/
def OpenSince (first : Activation σ) (front calls : List (Call σ)) : Prop :=
  ∃ opening inside, calls = front ++ opening :: inside ∧
    (first.run front).enters opening = true ∧
    ∀ done, done <+: inside → 0 < (first.run (front ++ opening :: done)).depth

/-- What the variables are, in the form in which a scope keeps it. -/
def credentialValues (a : Activation σ) : List (String × Option Bytes) :=
  credentialVariables.map fun name => (name, a.env.octets? name)

/-- A history in two parts. -/
theorem run_append (a : Activation σ) (calls later : List (Call σ)) :
    a.run (calls ++ later) = (a.run calls).run later :=
  List.foldl_append

/-- The two variables are two. -/
theorem keyVariable_ne_secretVariable : keyVariable ≠ secretVariable := by
  decide

/-- The start of an outermost scope exports the credentials if the settings say so. -/
theorem start_of_depth_zero (h : a.depth = 0) :
    a.start = ((if a.emulator.config.patchEnv then ({ a with depth := 1 } : Activation σ).patch
      else { a with depth := 1 }).setIntercepting true) := by
  simp [start, h]

/-- The start of an inner scope counts it, and no more. -/
theorem start_of_open (h : 0 < a.depth) : a.start = { a with depth := a.depth + 1 } := by
  simp [start, h]

/-- What a call does. One about scopes opens the outermost scope, or ends it, or moves the
depth elsewhere and touches nothing else. -/
inductive Effect (a : Activation σ) : Call σ → Activation σ → Prop where
  | entered {call : Call σ} (outside : a.depth = 0) : Effect a call a.start
  | left {call : Call σ} {b : Activation σ} (last : a.depth = 1)
      (ending : b = a.closed ∨ b = a.closed.cleared) : Effect a call b
  | moved {call : Call σ} (depth : Nat) (enters : ¬(a.depth = 0 ∧ depth = 1))
      (leaves : ¬(a.depth = 1 ∧ depth = 0)) : Effect a call { a with depth }
  | worked (work : Emulator σ → Emulator σ) (vars : Environment → Environment) :
      Effect a (.host work vars) (a.worked work vars)

/-- What the start of a scope does. -/
theorem effect_start (a : Activation σ) (call : Call σ) : Effect a call a.start := by
  rcases Nat.eq_zero_or_pos a.depth with hdepth | hopen
  · exact .entered hdepth
  · rw [start_of_open hopen]
    exact .moved _ (by omega) (by omega)

/-- What every call does. -/
theorem effect_after (a : Activation σ) (call : Call σ) : Effect a call (a.after call) := by
  cases hending : call.ending? with
  | some reset =>
    rw [(after_ending hending).1]
    rcases hdepth : a.depth with _ | _ | n
    · rw [stop_of_depth_zero hdepth]
      have hsame : Effect a call { a with depth := a.depth } := .moved _ (by omega) (by omega)
      exact hsame
    · rw [stop_of_depth_one hdepth]
      cases reset with
      | true => exact .left hdepth (.inr rfl)
      | false => exact .left hdepth (.inl rfl)
    · rw [stop_of_depth_inner hdepth]
      exact .moved _ (by omega) (by omega)
  | none =>
    cases call with
    | start => exact a.effect_start .start
    | activate => exact a.effect_start .activate
    | stop reset => cases hending
    | dropGuard => cases hending
    | host work vars => exact .worked work vars

/-- At the end of the outermost scope no scope is open. -/
theorem depth_of_ending {b : Activation σ} (h : b = a.closed ∨ b = a.closed.cleared) :
    b.depth = 0 := by
  rcases h with rfl | rfl <;> rfl

/-- A call that takes the depth from zero to one is the start of a scope. -/
theorem after_of_enters {call : Call σ} (h : a.enters call = true) :
    a.depth = 0 ∧ a.after call = a.start := by
  obtain ⟨hbefore, hafter⟩ : a.depth = 0 ∧ (a.after call).depth = 1 := by simpa [enters] using h
  have heffect := a.effect_after call
  refine ⟨hbefore, ?_⟩
  generalize a.after call = b at heffect hafter ⊢
  cases heffect with
  | entered outside => rfl
  | left last ending => omega
  | moved depth enters leaves => exact absurd ⟨hbefore, hafter⟩ enters
  | worked work vars =>
    change a.depth = 1 at hafter
    omega

/-- A call that takes the depth from one to zero ends the outermost scope. -/
theorem after_of_leaves {call : Call σ} (h : a.leaves call = true) :
    a.after call = a.closed ∨ a.after call = a.closed.cleared := by
  obtain ⟨hbefore, hafter⟩ : a.depth = 1 ∧ (a.after call).depth = 0 := by simpa [leaves] using h
  have heffect := a.effect_after call
  generalize a.after call = b at heffect hafter ⊢
  cases heffect with
  | entered outside => omega
  | left last ending => exact ending
  | moved depth enters leaves => exact absurd ⟨hbefore, hafter⟩ leaves
  | worked work vars =>
    change a.depth = 0 at hafter
    omega

/-- A call takes the depth up by one at most. -/
theorem enters_of_opened {call : Call σ} (hbefore : a.depth = 0)
    (hafter : 0 < (a.after call).depth) : a.enters call = true := by
  have hmoved := a.depth_after call
  have hopens : call.opens.toNat ≤ 1 := Bool.toNat_le _
  have hone : (a.after call).depth = 1 := by omega
  simp [enters, hbefore, hone]

/-- Every call that leaves the settings alone leaves them alone. -/
theorem config_after (a : Activation σ) {call : Call σ} (hkeeps : call.KeepsSettings) :
    (a.after call).emulator.config = a.emulator.config := by
  have heffect := a.effect_after call
  generalize a.after call = b at heffect ⊢
  cases heffect with
  | entered outside =>
    rw [start_of_depth_zero outside]
    split <;> rfl
  | left last ending => rcases ending with rfl | rfl <;> rfl
  | moved depth enters leaves => rfl
  | worked work vars => exact hkeeps a.emulator

/-- The start of an outermost scope keeps what the variables were, and sets them. -/
theorem start_exports (h : a.depth = 0) (hpatch : a.emulator.config.patchEnv = true) :
    a.start.saved = a.credentialValues ∧
      a.start.env = (a.env.set keyVariable a.emulator.config.credentials.accessKeyId).set
        secretVariable a.emulator.config.credentials.secretAccessKey := by
  rw [start_of_depth_zero h, if_pos hpatch]
  exact ⟨rfl, rfl⟩

/-- Without leave to touch the environment, the start of a scope does not. -/
theorem start_unpatched (hpatch : a.emulator.config.patchEnv = false) :
    a.start.saved = a.saved ∧ a.start.env = a.env := by
  rcases Nat.eq_zero_or_pos a.depth with hdepth | hopen
  · rw [start_of_depth_zero hdepth, hpatch]
    exact ⟨rfl, rfl⟩
  · rw [start_of_open hopen]
    exact ⟨rfl, rfl⟩

/-- The end of the outermost scope puts back what was kept, and keeps nothing. -/
theorem leaves_restores {call : Call σ} (h : a.leaves call = true) :
    (a.after call).saved = [] ∧ (a.after call).env = a.restore.env := by
  rcases after_of_leaves h with hclosed | hcleared
  · rw [hclosed]
    exact ⟨rfl, rfl⟩
  · rw [hcleared]
    exact ⟨rfl, rfl⟩

/-- Exporting the credentials sets both variables. -/
theorem octets?_exported (env : Environment) (id secret : String) :
    ((env.set keyVariable id).set secretVariable secret).octets? keyVariable =
        some (Utf8.encode id) ∧
      ((env.set keyVariable id).set secretVariable secret).octets? secretVariable =
        some (Utf8.encode secret) := by
  constructor
  · unfold Environment.set
    rw [Environment.octets?_setOctets_of_ne keyVariable_ne_secretVariable,
      Environment.octets?_setOctets_self]
  · unfold Environment.set
    rw [Environment.octets?_setOctets_self]

/-- Putting back the values of an earlier state makes both variables what they were. -/
theorem octets?_restored {earlier : Activation σ} (hsaved : a.saved = earlier.credentialValues)
    {name : String} (hname : name ∈ credentialVariables) :
    a.restore.env.octets? name = earlier.env.octets? name := by
  have henv : a.restore.env = (a.env.put keyVariable (earlier.env.octets? keyVariable)).put
      secretVariable (earlier.env.octets? secretVariable) := by
    unfold restore
    rw [hsaved]
    rfl
  rw [henv]
  rcases List.mem_cons.mp hname with rfl | hname
  · rw [Environment.octets?_put_of_ne keyVariable_ne_secretVariable,
      Environment.octets?_put_self]
  · obtain rfl := List.mem_singleton.mp hname
    rw [Environment.octets?_put_self]

/-- A call inside of an open scope leaves alone what the scope keeps. -/
theorem saved_after {call : Call σ} (hbefore : 0 < a.depth) (hafter : 0 < (a.after call).depth) :
    (a.after call).saved = a.saved := by
  have heffect := a.effect_after call
  generalize a.after call = b at heffect hafter ⊢
  cases heffect with
  | entered outside => omega
  | left last ending =>
    have hzero := depth_of_ending ending
    omega
  | moved depth enters leaves => rfl
  | worked work vars => rfl

/-- As long as a scope stays open, what it keeps stays the same. The induction is on the
history, from the state in which the scope was opened. -/
theorem saved_run {calls : List (Call σ)}
    (hopen : ∀ done, done <+: calls → 0 < (a.run done).depth) :
    (a.run calls).saved = a.saved := by
  induction calls generalizing a with
  | nil => rfl
  | cons call calls ih =>
    have hbefore : 0 < a.depth := hopen [] (List.nil_prefix)
    have hinside : ∀ done, done <+: calls → 0 < ((a.after call).run done).depth := by
      intro done hdone
      exact hopen (call :: done) (List.cons_prefix_cons.mpr ⟨rfl, hdone⟩)
    have hafter : 0 < (a.after call).depth := hinside [] List.nil_prefix
    calc (a.run (call :: calls)).saved
        = (a.after call).saved := ih hinside
      _ = a.saved := saved_after hbefore hafter

/-- The settings, and that nothing is kept where the environment is not touched. Every
call preserves this. -/
structure Settled (settings : EmulatorConfig) (a : Activation σ) : Prop where
  config : a.emulator.config = settings
  unsaved : settings.patchEnv = false → a.saved = []

/-- A call preserves what is settled. -/
theorem Settled.after {settings : EmulatorConfig} (h : a.Settled settings) {call : Call σ}
    (hkeeps : call.KeepsSettings) : (a.after call).Settled settings where
  config := (a.config_after hkeeps).trans h.config
  unsaved := by
    intro hpatch
    have hsaved := h.unsaved hpatch
    rw [← h.config] at hpatch
    have heffect := a.effect_after call
    generalize a.after call = b at heffect ⊢
    cases heffect with
    | entered outside => rw [(start_unpatched hpatch).1, hsaved]
    | left last ending => rcases ending with rfl | rfl <;> rfl
    | moved depth enters leaves => exact hsaved
    | worked work vars => exact hsaved

/-- A history preserves what is settled. -/
theorem Settled.run {settings : EmulatorConfig} (h : a.Settled settings)
    {calls : List (Call σ)} (hkeeps : ∀ call ∈ calls, call.KeepsSettings) :
    (a.run calls).Settled settings := by
  induction calls generalizing a with
  | nil => exact h
  | cons call calls ih =>
    have hfirst := h.after (hkeeps call List.mem_cons_self)
    exact ih hfirst fun later hlater => hkeeps later (List.mem_cons_of_mem _ hlater)

/-- Wherever a scope is open, there was the start of the outermost one. The induction is
on the history from its end: the last call is that start, or is inside of the scope. -/
theorem exists_openSince {first : Activation σ} (hfirst : first.depth = 0) (calls : List (Call σ))
    (hopen : 0 < (first.run calls).depth) : ∃ front, OpenSince first front calls := by
  induction calls using List.reverseRecOn with
  | nil =>
    have hnone : first.run [] = first := rfl
    rw [hnone] at hopen
    omega
  | append_singleton calls call ih =>
    have hlast : first.run (calls ++ [call]) = (first.run calls).after call :=
      first.run_append calls [call]
    rcases Nat.eq_zero_or_pos (first.run calls).depth with hdepth | hdepth
    · have hafter : 0 < ((first.run calls).after call).depth := hlast ▸ hopen
      refine ⟨calls, call, [], rfl, enters_of_opened hdepth hafter, ?_⟩
      intro done hdone
      rw [List.prefix_nil.mp hdone]
      exact hopen
    · obtain ⟨front, opening, inside, rfl, henters, hinside⟩ := ih hdepth
      refine ⟨front, opening, inside ++ [call], by simp, henters, ?_⟩
      intro done hdone
      rcases List.prefix_concat_iff.mp hdone with rfl | hshorter
      · simpa using hopen
      · exact hinside done hshorter

/-- What a scope keeps is what the variables were just before its start. -/
theorem OpenSince.saved {first : Activation σ} {front calls : List (Call σ)}
    (h : OpenSince first front calls)
    (hpatch : (first.run front).emulator.config.patchEnv = true) :
    (first.run calls).saved = (first.run front).credentialValues := by
  obtain ⟨opening, inside, rfl, henters, hinside⟩ := h
  obtain ⟨hdepth, hstart⟩ := after_of_enters henters
  have hopened (done : List (Call σ)) : first.run (front ++ opening :: done) =
      (first.run front).start.run done := by
    rw [run_append, ← hstart]
    rfl
  have hkept : ∀ done, done <+: inside → 0 < ((first.run front).start.run done).depth := by
    intro done hdone
    rw [← hopened]
    exact hinside done hdone
  rw [hopened, saved_run hkept]
  exact (start_exports hdepth hpatch).1

/-- What holds of the environment after a history of calls, and of whatever is called
next. -/
structure CredentialLaws (first : Activation σ) (calls : List (Call σ)) : Prop where
  /-- A call that takes the depth from zero to one makes the variables the credentials
  of the settings. -/
  exported : first.emulator.config.patchEnv = true →
    ∀ {call : Call σ}, (first.run calls).enters call = true →
      ((first.run calls).after call).env.octets? keyVariable =
          some (Utf8.encode first.emulator.config.credentials.accessKeyId) ∧
        ((first.run calls).after call).env.octets? secretVariable =
          some (Utf8.encode first.emulator.config.credentials.secretAccessKey)
  /-- Wherever a scope is open, there was the start of the outermost one. -/
  opened : 0 < (first.run calls).depth → ∃ front, OpenSince first front calls
  /-- A call that takes the depth from one to zero makes each variable what it was just
  before that start, set or not. -/
  restored : first.emulator.config.patchEnv = true →
    ∀ {call : Call σ}, (first.run calls).leaves call = true →
      ∀ {front : List (Call σ)}, OpenSince first front calls →
        ∀ {name : String}, name ∈ credentialVariables →
          ((first.run calls).after call).env.octets? name = (first.run front).env.octets? name
  /-- Every other call about scopes, also one that fails, leaves the environment alone. -/
  untouched : ∀ {call : Call σ}, call.ofScope = true → (first.run calls).enters call = false →
    (first.run calls).leaves call = false →
    ((first.run calls).after call).env = (first.run calls).env
  /-- Without leave to touch the environment, no call about scopes does. -/
  unpatched : first.emulator.config.patchEnv = false →
    ∀ {call : Call σ}, call.ofScope = true →
      ((first.run calls).after call).env = (first.run calls).env

/-- **Exported credentials.** Along every history of scopes and of work of the host that
leaves the settings alone, the outermost scope exports the credentials at its start and
puts both variables back exactly at its end, and nothing else about scopes touches them. -/
theorem credentialLaws (e : Emulator σ) (env : Environment) {calls : List (Call σ)}
    (hkeeps : ∀ call ∈ calls, call.KeepsSettings) :
    CredentialLaws { emulator := e, env } calls where
  exported := by
    intro hpatch call henters
    have hfirst : Settled e.config { emulator := e, env } := ⟨rfl, fun _ => rfl⟩
    have hconfig := (hfirst.run hkeeps).config
    obtain ⟨hdepth, hstart⟩ := after_of_enters henters
    have hexports := start_exports hdepth (by rw [hconfig]; exact hpatch)
    rw [hstart, hexports.2, hconfig]
    exact octets?_exported _ _ _
  opened := exists_openSince rfl calls
  restored := by
    intro hpatch call hleaves front hsince name hname
    obtain ⟨opening, inside, hcalls, -, -⟩ := id hsince
    have hfront : ∀ call ∈ front, call.KeepsSettings := fun call hcall =>
      hkeeps call (hcalls ▸ List.mem_append_left _ hcall)
    have hfirst : Settled e.config { emulator := e, env } := ⟨rfl, fun _ => rfl⟩
    have hconfig := (hfirst.run hfront).config
    have hsaved := hsince.saved (by rw [hconfig]; exact hpatch)
    rw [(leaves_restores hleaves).2]
    exact octets?_restored hsaved hname
  untouched := by
    intro call hscope henters hleaves
    generalize run { emulator := e, env } calls = a at henters hleaves ⊢
    have heffect := a.effect_after call
    unfold enters at henters
    unfold leaves at hleaves
    generalize a.after call = b at heffect henters hleaves ⊢
    cases heffect with
    | entered outside => simp [outside, start_depth] at henters
    | left last ending => simp [last, depth_of_ending ending] at hleaves
    | moved depth enters leaves => rfl
    | worked work vars => cases hscope
  unpatched := by
    intro hpatch call hscope
    have hfirst : Settled e.config { emulator := e, env } := ⟨rfl, fun _ => rfl⟩
    have hsettled := hfirst.run hkeeps
    have hsaved := hsettled.unsaved hpatch
    have hconfig := hsettled.config
    generalize run { emulator := e, env } calls = a at hsaved hconfig ⊢
    have heffect := a.effect_after call
    generalize a.after call = b at heffect ⊢
    cases heffect with
    | entered outside =>
      have hoff : a.emulator.config.patchEnv = false := by rw [hconfig]; exact hpatch
      exact (start_unpatched hoff).2
    | left last ending =>
      have hrestore : a.restore.env = a.env := by simp [restore, hsaved]
      rcases ending with rfl | rfl
      · exact hrestore
      · exact hrestore
    | moved depth enters leaves => rfl
    | worked work vars => cases hscope

/-- A host with a key that is no text and without a secret, which writes both while a
scope and an inner one are open. -/
def overwritten : List (Call Stub.State) :=
  [.start, .host id fun env => (env.set keyVariable "other").set secretVariable "other",
    .activate, .dropGuard, .host id fun env => env.unset keyVariable]

/-- The environment of that host. -/
def keyOnly : Environment := ⟨[(keyVariable, [0xFF])]⟩

/-- The laws of a history in which the host writes both variables; the end of its scope
makes the key the octets that it was, and leaves no secret. -/
theorem credentialLaws_overwritten :
    (∀ call ∈ overwritten, call.KeepsSettings) ∧
      CredentialLaws { emulator := hooked, env := keyOnly } overwritten ∧
      (run { emulator := hooked, env := keyOnly } overwritten).leaves (.stop false) = true ∧
      let ended := (run { emulator := hooked, env := keyOnly } overwritten).after (.stop false)
      credentialVariables.map ended.env.octets? = [some [0xFF], none] := by
  have hkeeps : ∀ call ∈ overwritten, call.KeepsSettings := by
    simp [overwritten, Call.KeepsSettings]
  exact ⟨hkeeps, credentialLaws hooked keyOnly hkeeps, rfl, rfl⟩

end Activation

end CloudEmulator
