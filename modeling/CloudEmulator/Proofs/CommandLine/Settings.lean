import CloudEmulator.CommandLine.Options
import CloudEmulator.Proofs.Config.FileSettings
import CloudEmulator.Proofs.Fallible
import CloudEmulator.Proofs.Text.Encoding

/-!
# Options in place of a file

Each setting is that of its option, else that of the file, else the default. But the settings of
the file are tested by themselves before the options take their place. So a blank host or a
time of zero in the file is refused even where an option overrides it, and these two
are all that overridden values can do.
-/

namespace CloudEmulator.CommandLine

namespace Options

variable {o : Options} {file file' : FileSettings} {contents contents' : Option Bytes}
  {config : ProxyConfig} {e : ConfigError}

/-- Each setting from its option, else from the file, else by default. -/
def merged (o : Options) (file : FileSettings) : ProxyConfig where
  host := (o.host.or file.host).getD "127.0.0.1"
  port := (o.port.or file.port).getD 5005
  caDir := (o.caDir.or file.caDir).getD "ca"
  relayIdleSeconds := (o.relaySeconds.or file.relayIdleSeconds).getD 5
  connectSeconds := file.connectSeconds.getD 10

/-- The options name no file, or one that is read. -/
def Parses (o : Options) (contents : Option Bytes) : Prop :=
  o.config.isSome = true → ∃ octets text config, contents = some octets ∧
    Utf8.decode? octets = some text ∧ (Yaml.read? text).bind ProxyConfig.ofNode? = some config

/-- The file of the options gives these settings, and none if there is no file. -/
def Reads (o : Options) (contents : Option Bytes) (file : FileSettings) : Prop :=
  match o.config with
  | none => file = {}
  | some _ => ∃ octets text, contents = some octets ∧ Utf8.decode? octets = some text ∧
      file.WrittenIn text

/-- An option stands in front of a value of the file that is of no use: a blank host, or
no time to wait. -/
def HidesUseless (o : Options) (file : FileSettings) : Prop :=
  (o.host.isSome = true ∧ ∃ host, file.host = some host ∧ Text.allBlank host = true) ∨
    (o.relaySeconds.isSome = true ∧ file.relayIdleSeconds = some 0)

/-- A file that is read gives settings. -/
theorem Parses.exists_reads (h : o.Parses contents) : ∃ file, o.Reads contents file := by
  unfold Reads
  split
  case h_1 => exact ⟨{}, rfl⟩
  case h_2 path hpath =>
    obtain ⟨octets, text, config, hcontents, htext, hread⟩ := h (by rw [hpath]; rfl)
    obtain ⟨file, hwritten, -⟩ := ProxyConfig.ofText_eq_some_iff.mp hread
    exact ⟨file, octets, text, hcontents, htext, hwritten⟩

/-- It gives one choice of settings. -/
theorem Reads.unique (h : o.Reads contents file) (h' : o.Reads contents file') : file = file' := by
  unfold Reads at h h'
  split at h
  case h_1 hpath =>
    rw [hpath] at h'
    exact h.trans h'.symm
  case h_2 path hpath =>
    rw [hpath] at h'
    obtain ⟨octets, text, hcontents, htext, hwritten⟩ := h
    obtain ⟨octets', text', hcontents', htext', hwritten'⟩ := h'
    cases Option.some.inj (hcontents.symm.trans hcontents')
    cases Option.some.inj (htext.symm.trans htext')
    exact hwritten.unique hwritten'

/-- The options in place of the settings of the file alone. -/
theorem override_alone (o : Options) (file : FileSettings) :
    o.override file.alone = o.merged file := by
  simp only [override, merged, FileSettings.alone, Option.getD_or]

/-- The settings of the file are tested, and then those in which the options take their place. -/
theorem settings_eq (h : o.Reads contents file) : o.settings contents = do
    file.alone.validate
    (o.merged file).validate
    return o.merged file := by
  unfold Reads at h
  rw [settings]
  split at h
  case h_1 hpath =>
    subst h
    have hdefault : ({} : FileSettings).alone.validate = .ok () := ProxyConfig.validate_default
    rw [hpath, hdefault, ← override_alone]
    rfl
  case h_2 path hpath =>
    obtain ⟨octets, text, rfl, htext, hwritten⟩ := h
    have hread : (Yaml.read? text).bind ProxyConfig.ofNode? = some file.alone :=
      ProxyConfig.ofText_eq_some_iff.mpr ⟨file, hwritten, rfl⟩
    simp only [hpath, ProxyConfig.ofFile, htext, hread, ← override_alone]
    cases file.alone.validate <;> rfl

/-- There are settings exactly when both tests pass. -/
theorem settings_eq_ok_iff (h : o.Reads contents file) : o.settings contents = .ok config ↔
    file.alone.validate = .ok () ∧ (o.merged file).validate = .ok () ∧ o.merged file = config := by
  simp only [settings_eq h, Fallible.bind_eq_ok, Fallible.pure_eq_ok]
  constructor
  · rintro ⟨⟨⟩, halone, ⟨⟩, hmerged, hconfig⟩
    exact ⟨halone, hmerged, hconfig⟩
  · rintro ⟨halone, hmerged, hconfig⟩
    exact ⟨(), halone, (), hmerged, hconfig⟩

/-- There are none exactly when a test fails, and for the first that does. -/
theorem settings_eq_error_iff (h : o.Reads contents file) : o.settings contents = .error e ↔
    file.alone.validate = .error e ∨
      file.alone.validate = .ok () ∧ (o.merged file).validate = .error e := by
  simp only [settings_eq h, Fallible.bind_eq_error]
  constructor
  · rintro (halone | ⟨⟨⟩, halone, hmerged | ⟨_, -, hpure⟩⟩)
    · exact .inl halone
    · exact .inr ⟨halone, hmerged⟩
    · cases hpure
  · rintro (halone | ⟨halone, hmerged⟩)
    · exact .inl halone
    · exact .inr ⟨(), halone, .inl hmerged⟩

/-- A file with a useless value is refused, whether or not an option hides it. -/
theorem HidesUseless.refused (h : o.HidesUseless file) : file.alone.validate ≠ .ok () := by
  intro hvalid
  obtain ⟨hhost, hrelay, -⟩ := ProxyConfig.validate_eq_ok_iff.mp hvalid
  rcases h with ⟨-, host, hgiven, hblank⟩ | ⟨-, hgiven⟩
  · rw [FileSettings.alone, hgiven, Option.getD_some, hblank] at hhost
    cases hhost
  · exact hrelay (by rw [FileSettings.alone, hgiven, Option.getD_some])

section Unhidden

variable (h : ¬o.HidesUseless file)

include h

/-- Unless it is hidden, the host of the file alone is blank only as that of the settings. -/
theorem allBlank_alone : Text.allBlank file.alone.host =
    (o.host.isNone && Text.allBlank (o.merged file).host) := by
  cases hoption : o.host with
  | none => simp only [FileSettings.alone, merged, hoption, Option.none_or, Option.isNone_none,
      Bool.true_and]
  | some host =>
    rw [Option.isNone_some, Bool.false_and]
    cases hgiven : file.host with
    | none =>
      have hdefault : Text.allBlank "127.0.0.1" = false := by decide
      rw [FileSettings.alone, hgiven, Option.getD_none, hdefault]
    | some host' =>
      rw [FileSettings.alone, hgiven, Option.getD_some]
      refine Bool.eq_false_iff.mpr fun hblank => h (.inl ⟨?_, host', hgiven, hblank⟩)
      rw [hoption, Option.isSome_some]

/-- The same for the time to wait. -/
theorem relayIdleSeconds_alone_eq_zero_iff : file.alone.relayIdleSeconds = 0 ↔
    o.relaySeconds = none ∧ (o.merged file).relayIdleSeconds = 0 := by
  cases hoption : o.relaySeconds with
  | none => simp only [FileSettings.alone, merged, hoption, Option.none_or, true_and]
  | some seconds =>
    simp only [reduceCtorEq, false_and, iff_false]
    intro hzero
    cases hgiven : file.relayIdleSeconds with
    | none =>
      rw [FileSettings.alone, hgiven] at hzero
      cases hzero
    | some seconds' =>
      have hgivenZero : seconds' = 0 := by
        rwa [FileSettings.alone, hgiven, Option.getD_some] at hzero
      exact h (.inr ⟨by rw [hoption, Option.isSome_some], by rw [hgiven, hgivenZero]⟩)

/-- So the file alone is of use where the settings are. -/
theorem validate_alone (hmerged : (o.merged file).validate = .ok ()) :
    file.alone.validate = .ok () := by
  obtain ⟨hhost, hrelay, hconnect⟩ := ProxyConfig.validate_eq_ok_iff.mp hmerged
  refine ProxyConfig.validate_eq_ok_iff.mpr ⟨?_, fun hzero => ?_, hconnect⟩
  · rw [allBlank_alone h, hhost, Bool.and_false]
  · exact hrelay ((relayIdleSeconds_alone_eq_zero_iff h).mp hzero).2

/-- And two files behind the same settings are refused alike. -/
theorem validate_alone_congr (h' : ¬o.HidesUseless file')
    (hmerged : o.merged file = o.merged file') : file.alone.validate = file'.alone.validate := by
  have hconnect : (o.merged file).connectSeconds = (o.merged file').connectSeconds := by
    rw [hmerged]
  refine ProxyConfig.validate_congr ?_ ?_ (Eq.congr hconnect rfl)
  · rw [allBlank_alone h, allBlank_alone h', hmerged]
  · rw [relayIdleSeconds_alone_eq_zero_iff h, relayIdleSeconds_alone_eq_zero_iff h', hmerged]

end Unhidden

/-- What options and a file that is read come to. -/
structure SettingsLaws (o : Options) (contents : Option Bytes) : Prop where
  /-- The file gives one choice of settings. -/
  reads : ∃! file, o.Reads contents file
  /-- Where there are settings, each is that of its option, else of the file, else the default. -/
  value : ∀ file config, o.Reads contents file → o.settings contents = .ok config →
    config = o.merged file
  /-- There are some exactly when these are of use, and no option hides a useless value. -/
  succeeds : ∀ file, o.Reads contents file → ((∃ config, o.settings contents = .ok config) ↔
    (o.merged file).validate = .ok () ∧ ¬o.HidesUseless file)
  /-- There are none for a fault of the file alone, or else for one of theirs. -/
  fails : ∀ file e, o.Reads contents file → (o.settings contents = .error e ↔
    file.alone.validate = .error e ∨
      file.alone.validate = .ok () ∧ (o.merged file).validate = .error e)
  /-- Files that differ only where they are overridden come to the same, with the same fault if
  there is one, as long as no useless value is hidden. -/
  overridden : ∀ contents' file file', o.Reads contents file → o.Reads contents' file' →
    o.merged file = o.merged file' → ¬o.HidesUseless file → ¬o.HidesUseless file' →
    o.settings contents = o.settings contents'

/-- **Options over a file.** Whatever the options and the file they name, as long as it is read,
the settings are those of the options, else of the file, else the defaults. They are had
exactly when they are of use and no option hides a blank host or a zero of the file, and nothing
else of what is overridden decides anything. -/
theorem settingsLaws (h : o.Parses contents) : SettingsLaws o contents := by
  constructor
  case reads =>
    obtain ⟨file, hreads⟩ := h.exists_reads
    exact ⟨file, hreads, fun _ hother => hother.unique hreads⟩
  case value =>
    exact fun file config hreads hok => ((settings_eq_ok_iff hreads).mp hok).2.2.symm
  case succeeds =>
    intro file hreads
    constructor
    · rintro ⟨config, hok⟩
      obtain ⟨halone, hmerged, -⟩ := (settings_eq_ok_iff hreads).mp hok
      exact ⟨hmerged, fun hhides => hhides.refused halone⟩
    · rintro ⟨hmerged, hhides⟩
      exact ⟨_, (settings_eq_ok_iff hreads).mpr ⟨validate_alone hhides hmerged, hmerged, rfl⟩⟩
  case fails => exact fun file e hreads => settings_eq_error_iff hreads
  case overridden =>
    intro contents' file file' hreads hreads' hmerged hhides hhides'
    rw [settings_eq hreads, settings_eq hreads', hmerged,
      validate_alone_congr hhides hhides' hmerged]

/-- A command line that names a file, and gives a port and a time. -/
def portAndTime : Options where
  port := some 0
  config := some "c.yaml"
  relaySeconds := some 9

/-- The laws hold for a file that gives a host, and a time which is overridden. -/
theorem settingsLaws_overriddenTime :
    portAndTime.Parses (some (Utf8.encode "host: 0.0.0.0\nrelay_idle_timeout_secs: 2\n")) ∧
    SettingsLaws portAndTime
      (some (Utf8.encode "host: 0.0.0.0\nrelay_idle_timeout_secs: 2\n")) := by
  have hparses : portAndTime.Parses
      (some (Utf8.encode "host: 0.0.0.0\nrelay_idle_timeout_secs: 2\n")) := fun _ =>
    ⟨_, _, { host := "0.0.0.0", relayIdleSeconds := 2 }, rfl, Utf8.decode?_encode _,
      by decide +kernel⟩
  exact ⟨hparses, settingsLaws hparses⟩

/-- A file that gives a time of zero is refused, though the command line gives another time and
the settings would be of use. -/
theorem overriddenZero_refused :
    portAndTime.Reads (some (Utf8.encode "relay_idle_timeout_secs: 0"))
      { relayIdleSeconds := some 0 } ∧
    (portAndTime.merged { relayIdleSeconds := some 0 }).validate = .ok () ∧
    portAndTime.settings (some (Utf8.encode "relay_idle_timeout_secs: 0")) =
      .error .noRelayTimeout := by
  have hgiven : ({ relayIdleSeconds := some 0 } : FileSettings).GivenBy
      [("relay_idle_timeout_secs", .scalar "0" true)] := by
    constructor
    case relayIdleSeconds => exact ⟨[], _, [], rfl, nofun, by decide⟩
    all_goals exact List.forall_mem_singleton.mpr (by decide)
  have hwritten : ({ relayIdleSeconds := some 0 } : FileSettings).WrittenIn
      "relay_idle_timeout_secs: 0" := by
    refine ⟨.map [(.scalar "relay_idle_timeout_secs" true, .scalar "0" true)], _, ?_, rfl, hgiven⟩
    rfl
  have hreads : portAndTime.Reads (some (Utf8.encode "relay_idle_timeout_secs: 0"))
      { relayIdleSeconds := some 0 } := ⟨_, _, rfl, Utf8.decode?_encode _, hwritten⟩
  exact ⟨hreads, rfl, (settings_eq_error_iff hreads).mpr (.inl rfl)⟩

end Options

end CloudEmulator.CommandLine
