import CloudEmulator.Config.ProxyConfig
import Mathlib.Tactic.SplitIfs

/-!
# What a file of settings says

A file gives some of the settings and leaves out the others. It is read exactly when each key it
may have stands at most once and has a value of its kind, and then the settings are those of the
file with the defaults in place of what it leaves out.
-/

namespace CloudEmulator

namespace Yaml

universe u

variable {α : Type u} {entries : List (String × Node)} {key : String} {node : Node}
  {read : Node → Option α} {given given' : Option α}

/-- There is no value under a key exactly when it is missing. -/
theorem values_eq_nil_iff : Node.values key entries = [] ↔ ∀ e ∈ entries, e.1 ≠ key := by
  simp only [Node.values, List.map_eq_nil_iff, List.filter_eq_nil_iff, beq_iff_eq, ne_eq]

/-- There is one value under a key exactly when it stands once. -/
theorem values_eq_singleton_iff : Node.values key entries = [node] ↔
    ∃ front later, entries = front ++ (key, node) :: later ∧
      ∀ e ∈ front ++ later, e.1 ≠ key := by
  simp only [Node.values, List.map_eq_singleton_iff, List.filter_eq_cons_iff,
    List.filter_eq_nil_iff, beq_iff_eq, List.forall_mem_append]
  constructor
  · rintro ⟨⟨_, _⟩, ⟨front, later, hentries, hfront, rfl, hlater⟩, rfl⟩
    exact ⟨front, later, hentries, hfront, hlater⟩
  · rintro ⟨front, later, hentries, hfront, hlater⟩
    exact ⟨(key, node), ⟨front, later, hentries, hfront, rfl, hlater⟩, rfl⟩

/-- What entries say under a key: nothing where it is missing, and a value where it stands once
with a value of the right kind. -/
def Says (entries : List (String × Node)) (key : String) (read : Node → Option α) :
    Option α → Prop
  | none => ∀ e ∈ entries, e.1 ≠ key
  | some v => ∃ front node later, entries = front ++ (key, node) :: later ∧
      (∀ e ∈ front ++ later, e.1 ≠ key) ∧ read node = some v

/-- The entries say a value exactly when there is one value, which is read as it. -/
theorem says_some_iff {v : α} : Says entries key read (some v) ↔
    ∃ node, Node.values key entries = [node] ∧ read node = some v := by
  simp only [values_eq_singleton_iff]
  constructor
  · rintro ⟨front, node, later, hentries, honce, hread⟩
    exact ⟨node, ⟨front, later, hentries, honce⟩, hread⟩
  · rintro ⟨node, ⟨front, later, hentries, honce⟩, hread⟩
    exact ⟨front, node, later, hentries, honce, hread⟩

/-- The entries say one thing under a key at most. -/
theorem Says.unique (h : Says entries key read given) (h' : Says entries key read given') :
    given = given' := by
  cases given with
  | none =>
    have hnone := values_eq_nil_iff.mpr h
    cases given' with
    | none => rfl
    | some v =>
      obtain ⟨node, hvalue, -⟩ := says_some_iff.mp h'
      rw [hnone] at hvalue
      cases hvalue
  | some v =>
    obtain ⟨node, hvalue, hread⟩ := says_some_iff.mp h
    cases given' with
    | none =>
      rw [values_eq_nil_iff.mpr h'] at hvalue
      cases hvalue
    | some v' =>
      obtain ⟨node', hvalue', hread'⟩ := says_some_iff.mp h'
      rw [hvalue] at hvalue'
      cases hvalue'
      exact hread.symm.trans hread'

/-- A field is read exactly when the entries say something: it is the value they say, or else
the default. -/
theorem field_eq_some_iff {default v : α} : field entries key read default = some v ↔
    ∃ given, Says entries key read given ∧ given.getD default = v := by
  rw [field]
  constructor
  · intro h
    split at h
    case h_1 hnone =>
      exact ⟨none, values_eq_nil_iff.mp hnone, Option.some.inj h⟩
    case h_2 node hvalue =>
      exact ⟨some v, says_some_iff.mpr ⟨node, hvalue, h⟩, rfl⟩
    case h_3 => cases h
  · rintro ⟨given, hsays, rfl⟩
    cases given with
    | none => rw [values_eq_nil_iff.mpr hsays, Option.getD_none]
    | some v =>
      obtain ⟨node, hvalue, hread⟩ := says_some_iff.mp hsays
      rw [hvalue, Option.getD_some]
      exact hread

end Yaml

/-- The settings that a file gives, each of which it may leave out. -/
structure FileSettings where
  host : Option String := none
  port : Option Nat := none
  caDir : Option String := none
  relayIdleSeconds : Option Nat := none
  connectSeconds : Option Nat := none
  deriving DecidableEq, Repr

namespace FileSettings

variable {file file' : FileSettings} {entries : List (String × Yaml.Node)} {text : String}

/-- The settings of a file by itself. -/
def alone (file : FileSettings) : ProxyConfig where
  host := file.host.getD "127.0.0.1"
  port := file.port.getD 5005
  caDir := file.caDir.getD "ca"
  relayIdleSeconds := file.relayIdleSeconds.getD 5
  connectSeconds := file.connectSeconds.getD 10

/-- Entries give these settings under their keys. -/
structure GivenBy (file : FileSettings) (entries : List (String × Yaml.Node)) : Prop where
  host : Yaml.Says entries "host" Yaml.Node.text? file.host
  port : Yaml.Says entries "port" (ProxyConfig.limited ProxyConfig.maxPort) file.port
  caDir : Yaml.Says entries "ca_dir" Yaml.Node.text? file.caDir
  relayIdleSeconds : Yaml.Says entries "relay_idle_timeout_secs"
    (ProxyConfig.limited ProxyConfig.maxSeconds) file.relayIdleSeconds
  connectSeconds : Yaml.Says entries "connect_timeout_secs"
    (ProxyConfig.limited ProxyConfig.maxSeconds) file.connectSeconds

/-- A text gives these settings. -/
def WrittenIn (file : FileSettings) (text : String) : Prop :=
  ∃ node entries, Yaml.read? text = some node ∧ node.entries? = some entries ∧
    file.GivenBy entries

/-- Entries give one choice of settings at most. -/
theorem GivenBy.unique (h : file.GivenBy entries) (h' : file'.GivenBy entries) : file = file' := by
  obtain ⟨host, port, caDir, relayIdleSeconds, connectSeconds⟩ := file
  obtain ⟨host', port', caDir', relayIdleSeconds', connectSeconds'⟩ := file'
  rw [FileSettings.mk.injEq]
  exact ⟨h.host.unique h'.host, h.port.unique h'.port, h.caDir.unique h'.caDir,
    h.relayIdleSeconds.unique h'.relayIdleSeconds, h.connectSeconds.unique h'.connectSeconds⟩

/-- So does a text. -/
theorem WrittenIn.unique (h : file.WrittenIn text) (h' : file'.WrittenIn text) : file = file' := by
  obtain ⟨node, entries, hnode, hentries, hgiven⟩ := h
  obtain ⟨node', entries', hnode', hentries', hgiven'⟩ := h'
  cases Option.some.inj (hnode.symm.trans hnode')
  cases Option.some.inj (hentries.symm.trans hentries')
  exact hgiven.unique hgiven'

end FileSettings

namespace ProxyConfig

variable {config : ProxyConfig} {node : Yaml.Node} {text : String}

/-- A node is read exactly when its entries give settings, and as these. -/
theorem ofNode?_eq_some_iff : ofNode? node = some config ↔
    ∃ entries, ∃ file : FileSettings,
      node.entries? = some entries ∧ file.GivenBy entries ∧ file.alone = config := by
  simp only [ofNode?, bind, Option.bind_eq_some_iff, Yaml.field_eq_some_iff]
  constructor
  · rintro ⟨entries, hentries, _, ⟨host, hhost, rfl⟩, _, ⟨port, hport, rfl⟩, _,
      ⟨caDir, hcaDir, rfl⟩, _, ⟨relay, hrelay, rfl⟩, _, ⟨connect, hconnect, rfl⟩, hconfig⟩
    exact ⟨entries, ⟨host, port, caDir, relay, connect⟩, hentries,
      ⟨hhost, hport, hcaDir, hrelay, hconnect⟩, Option.some.inj hconfig⟩
  · rintro ⟨entries, file, hentries, hgiven, rfl⟩
    exact ⟨entries, hentries, _, ⟨_, hgiven.host, rfl⟩, _, ⟨_, hgiven.port, rfl⟩, _,
      ⟨_, hgiven.caDir, rfl⟩, _, ⟨_, hgiven.relayIdleSeconds, rfl⟩, _,
      ⟨_, hgiven.connectSeconds, rfl⟩, rfl⟩

/-- A text is read exactly when it gives settings, and as these. -/
theorem ofText_eq_some_iff : (Yaml.read? text).bind ofNode? = some config ↔
    ∃ file : FileSettings, file.WrittenIn text ∧ file.alone = config := by
  simp only [Option.bind_eq_some_iff, ofNode?_eq_some_iff, FileSettings.WrittenIn]
  constructor
  · rintro ⟨node, hnode, entries, file, hentries, hgiven, hconfig⟩
    exact ⟨file, ⟨node, entries, hnode, hentries, hgiven⟩, hconfig⟩
  · rintro ⟨file, ⟨node, entries, hnode, hentries, hgiven⟩, hconfig⟩
    exact ⟨node, hnode, entries, file, hentries, hgiven, hconfig⟩

/-- Settings are of use exactly when the host is not blank and no time to wait is zero. -/
theorem validate_eq_ok_iff : config.validate = .ok () ↔ Text.allBlank config.host = false ∧
    config.relayIdleSeconds ≠ 0 ∧ config.connectSeconds ≠ 0 := by
  rw [validate]
  split_ifs with hhost hrelay hconnect
  · simp [hhost]
  · simp [hrelay]
  · simp [hconnect]
  · simp [hhost, hrelay, hconnect]

/-- Nothing else of the settings decides whether they are of use, and why not. -/
theorem validate_congr {other : ProxyConfig}
    (hhost : Text.allBlank config.host = Text.allBlank other.host)
    (hrelay : config.relayIdleSeconds = 0 ↔ other.relayIdleSeconds = 0)
    (hconnect : config.connectSeconds = 0 ↔ other.connectSeconds = 0) :
    config.validate = other.validate := by
  simp only [validate, hhost, hrelay, hconnect]

/-- The defaults are of use. -/
theorem validate_default : ({} : ProxyConfig).validate = .ok () :=
  validate_eq_ok_iff.mpr ⟨by decide, by decide, by decide⟩

end ProxyConfig

end CloudEmulator
