import CloudEmulator.Proofs.Tls.MintedOnce

/-!
# No serial number twice

A call of a store has at most one certificate signed, and that one under a number of its own.
Over a run, whatever the clock does, the numbers are those that taking one after the other gives,
so no two certificates have the same octets for theirs.
-/

namespace CloudEmulator.CertificateStore

variable {s : CertificateStore} {crypto other : Cryptography} {host : String} {clock : ℤ}
  {call : Call}

/-- The host is valid and has no file. -/
def lacks (s : CertificateStore) (host : String) : Bool :=
  HostName.isValid host && !s.directory.contains (fileOf host)

/-- The certificate that is signed where one is made for a host. -/
def draft (s : CertificateStore) (clock : ℤ) (host : String) : Certificate :=
  Certificate.ofHost host (Serial.encode (s.takeSerial clock).2) clock

/-- The certificate that a call has signed: one for a host that lacks its file, unless there is a
configuration and the call asks for no more. -/
def draft? (s : CertificateStore) : Call → Option Certificate
  | .file host clock => if s.lacks host then some (s.draft clock host) else none
  | .config host clock =>
    if (s.configs.lookup host).isNone && s.lacks host then some (s.draft clock host) else none

section Calls

/-- To make a certificate is to take a number and to have the certificate signed under it. -/
theorem mint_eq (s : CertificateStore) (crypto : Cryptography) (clock : ℤ) (host : String) :
    s.mint crypto clock host = ((s.takeSerial clock).1,
      (crypto.sign (s.draft clock host)).elim (.error .generation) .ok) := by
  rw [draft]
  unfold mint
  dsimp only
  cases crypto.sign (Certificate.ofHost host (Serial.encode (s.takeSerial clock).2) clock) <;> rfl

/-- Where nothing lacks, the file of a certificate is known without cryptography. -/
theorem certificateFile_of_not_lacks (h : s.lacks host = false) :
    s.certificateFile crypto clock host =
      (s, if HostName.isValid host then .ok (fileOf host) else .error (.invalidHost host)) := by
  cases hvalid : HostName.isValid host with
  | false => exact certificateFile_of_invalid hvalid
  | true =>
    have hfile : s.directory.contains (fileOf host) = true := by simpa [lacks, hvalid] using h
    exact certificateFile_of_contains hvalid hfile

/-- Where the file lacks, a certificate is made and saved. -/
theorem certificateFile_of_lacks (h : s.lacks host = true) :
    s.certificateFile crypto clock host =
      match crypto.sign (s.draft clock host) with
      | some text => (s.takeSerial clock).1.save host text
      | none => ((s.takeSerial clock).1, .error .generation) := by
  obtain ⟨hvalid, hfile⟩ := Bool.and_eq_true_iff.mp h
  rw [Bool.not_eq_true'] at hfile
  simp only [certificateFile, hvalid, hfile, mint_eq, Bool.not_true, Bool.false_eq_true, if_false]
  cases crypto.sign (s.draft clock host) <;> rfl

/-- Saving a certificate takes no number. -/
theorem lastSerial_save (s : CertificateStore) (host : String) (text : Bytes) :
    (s.save host text).1.lastSerial = s.lastSerial := by
  unfold save
  split
  · rfl
  · split <;> rfl

/-- Asking for a file takes a number exactly where it lacks. -/
theorem lastSerial_certificateFile (s : CertificateStore) (crypto : Cryptography) (clock : ℤ)
    (host : String) : (s.certificateFile crypto clock host).1.lastSerial =
      if s.lacks host then (s.takeSerial clock).2 else s.lastSerial := by
  cases hlacks : s.lacks host with
  | false => rw [certificateFile_of_not_lacks hlacks, if_neg Bool.false_ne_true]
  | true =>
    rw [certificateFile_of_lacks hlacks, if_pos rfl]
    cases crypto.sign (s.draft clock host) with
    | none => rfl
    | some text =>
      dsimp only
      rw [lastSerial_save]
      rfl

/-- A call takes a number exactly where it has a certificate signed. -/
theorem lastSerial_after (s : CertificateStore) (crypto : Cryptography) (call : Call) :
    (s.after crypto call).lastSerial =
      if (s.draft? call).isSome then (s.takeSerial call.clock).2 else s.lastSerial := by
  cases call with
  | file host clock =>
    have hfile := s.lastSerial_certificateFile crypto clock host
    rw [after, answer, draft?]
    cases hlacks : s.lacks host <;> simpa [hlacks, Call.clock] using hfile
  | config host clock =>
    rw [after, answer, draft?]
    cases hlookup : s.configs.lookup host with
    | some config => simp [tlsConfig, hlookup]
    | none =>
      have hfile := s.lastSerial_certificateFile crypto clock host
      have hkept : (s.tlsConfig crypto clock host).1.lastSerial =
          (s.certificateFile crypto clock host).1.lastSerial := by
        rcases tlsConfig_cases crypto clock hlookup with ⟨fault, hended⟩ | ⟨file, config, -, hended⟩
        · rw [hended]
        · rw [hended]
      cases hlacks : s.lacks host <;> simpa [hlacks, hkept, Call.clock] using hfile

/-- The file of a certificate rests on no signature but that of the certificate made for it. -/
theorem certificateFile_congr
    (h : s.lacks host = true → crypto.sign (s.draft clock host) = other.sign (s.draft clock host)) :
    s.certificateFile crypto clock host = s.certificateFile other clock host := by
  cases hlacks : s.lacks host with
  | false => rw [certificateFile_of_not_lacks hlacks, certificateFile_of_not_lacks hlacks]
  | true => rw [certificateFile_of_lacks hlacks, certificateFile_of_lacks hlacks, h hlacks]

/-- The answer to a call rests on no signature but that of the one certificate. -/
theorem answer_congr (hcertificates : crypto.isCertificate = other.isCertificate)
    (hsign : ∀ c, s.draft? call = some c → crypto.sign c = other.sign c) :
    s.answer crypto call = s.answer other call := by
  cases call with
  | file host clock =>
    have hfile : s.certificateFile crypto clock host = s.certificateFile other clock host :=
      certificateFile_congr fun hlacks => hsign _ (by rw [draft?, if_pos hlacks])
    rw [answer, answer, hfile]
  | config host clock =>
    have hconfig : s.tlsConfig crypto clock host = s.tlsConfig other clock host := by
      unfold tlsConfig
      cases hlookup : s.configs.lookup host with
      | some config => rfl
      | none =>
        have hfile : s.certificateFile crypto clock host = s.certificateFile other clock host :=
          certificateFile_congr fun hlacks => hsign _ (by simp [draft?, hlookup, hlacks])
        simp only [hfile, presentable, hcertificates]
    rw [answer, answer, hconfig]

end Calls

section Runs

/-- The certificates that are signed in the course of some calls. -/
def drafts (crypto : Cryptography) (s : CertificateStore) : List Call → List Certificate
  | [] => []
  | call :: calls => (s.draft? call).toList ++ drafts crypto (s.after crypto call) calls

/-- The readings of the clock at which they are signed. -/
def mintClocks (crypto : Cryptography) (s : CertificateStore) : List Call → List ℤ
  | [] => []
  | call :: calls =>
    if (s.draft? call).isSome then call.clock :: mintClocks crypto (s.after crypto call) calls
    else mintClocks crypto (s.after crypto call) calls

/-- A certificate is signed under the number that is taken for it. -/
theorem serial_of_draft? {certificate : Certificate} (h : s.draft? call = some certificate) :
    certificate.serial = Serial.encode (s.takeSerial call.clock).2 := by
  cases call with
  | file host clock =>
    rw [draft?] at h
    split at h
    · rw [← Option.some.inj h]
      rfl
    · cases h
  | config host clock =>
    rw [draft?] at h
    split at h
    · rw [← Option.some.inj h]
      rfl
    · cases h

/-- The certificates of a run have the numbers that taking one at each of the readings gives. -/
theorem serial_drafts (crypto : Cryptography) (s : CertificateStore) (calls : List Call) :
    (drafts crypto s calls).map (·.serial) =
      (s.serials (mintClocks crypto s calls)).map Serial.encode := by
  induction calls generalizing s with
  | nil => rfl
  | cons call calls ih =>
    have hlast := s.lastSerial_after crypto call
    rw [drafts, mintClocks]
    cases hdraft : s.draft? call with
    | none =>
      rw [hdraft, if_neg (by simp)] at hlast
      rw [if_neg (by simp), Option.toList_none, List.nil_append, ih, serials_congr hlast]
    | some certificate =>
      rw [hdraft, if_pos Option.isSome_some] at hlast
      have htaken : (s.after crypto call).lastSerial = (s.takeSerial call.clock).1.lastSerial :=
        hlast
      rw [if_pos Option.isSome_some, Option.toList_some, List.singleton_append, List.map_cons, ih,
        serials, List.map_cons, serial_of_draft? hdraft, serials_congr htaken]

end Runs

/-- What holds of the numbers that a store takes at some readings of the clock. -/
structure SerialLaws (first : CertificateStore) (clocks : List ℤ) : Prop where
  /-- The number that is taken is the one that is kept, whatever the clock tells. -/
  kept : ∀ before clock later, clocks = before ++ clock :: later →
    (first.afterTaking (before ++ [clock])).lastSerial =
      ((first.afterTaking before).takeSerial clock).2
  /-- One more than the last number is one more: the addition does not overflow. -/
  exact : ∀ before clock later, clocks = before ++ clock :: later →
    ((first.afterTaking before).lastSerial + 1).toNat =
      (first.afterTaking before).lastSerial.toNat + 1
  /-- Each number is greater than all before it. -/
  increasing : (first.serials clocks).Pairwise (· < ·)
  positive : ∀ n ∈ first.serials clocks, 1 ≤ n.toNat
  /-- Each is at least the reading of its time, or zero if that is before the epoch. -/
  readings : List.Forall₂ (fun clock n => clock.toNat ≤ n.toNat) clocks (first.serials clocks)
  /-- The octets of a number tell it, and no fewer octets do. -/
  told : ∀ n, Serial.decode (Serial.encode n) = n.toNat
  shortest : ∀ n bytes, bytes ≠ [] → Serial.decode bytes = n.toNat →
    (Serial.encode n).length ≤ bytes.length
  zero : Serial.encode 0 = [0]
  /-- Where the certificates of some calls are signed at these readings, no two of them have the
  same octets for their numbers. -/
  distinct : ∀ crypto calls, mintClocks crypto first calls = clocks →
    ((drafts crypto first calls).map (·.serial)).Nodup
  /-- These are all the certificates that are signed: a call rests on no other signature. -/
  signed : ∀ (s : CertificateStore) crypto other call,
    crypto.isCertificate = other.isCertificate →
    (∀ c, s.draft? call = some c → crypto.sign c = other.sign c) →
    s.answer crypto call = s.answer other call

/-- A loaded store has taken no number. -/
theorem within_ofMaterial (m : LoadedMaterial) : (ofMaterial m).Within 0 := by
  change (0 : UInt64).toNat < 2 ^ 63 + 0
  decide

/-- **Serial numbers.** Whatever the clock tells, the numbers that a loaded store takes grow, each
is at least one and at least the reading of the clock, and no addition overflows as long as
fewer than two to the sixty-third are taken. A certificate has its number in the shortest octets,
so no two certificates have the same. -/
theorem serialLaws (m : LoadedMaterial) (clocks : List ℤ)
    (hclocks : ∀ clock ∈ clocks, Serial.IsReading clock) (hfew : clocks.length < 2 ^ 63) :
    SerialLaws (ofMaterial m) clocks := by
  have hfirst := within_ofMaterial m
  obtain ⟨-, hpositive, hincreasing, hreadings⟩ := hfirst.run hclocks (by omega)
  constructor
  case kept =>
    intro before clock later _
    rw [afterTaking, List.foldl_append]
    rfl
  case exact =>
    intro before clock later hsplit
    rw [hsplit] at hclocks hfew
    rw [List.length_append, List.length_cons] at hfew
    have hwithin := (hfirst.run (List.forall_mem_append.mp hclocks).1 (by omega)).1
    exact Serial.toNat_add_one (hwithin.toNat_lt (by omega))
  case increasing => exact hincreasing
  case positive => exact fun n hn => UInt64.lt_iff_toNat_lt.mp (hpositive n hn)
  case readings => exact hreadings
  case told => exact Serial.decode_encode
  case shortest => exact fun n bytes => Serial.length_encode_le
  case zero => rfl
  case distinct =>
    rintro crypto calls rfl
    have hnodup : ((ofMaterial m).serials (mintClocks crypto (ofMaterial m) calls)).Nodup :=
      hincreasing.imp UInt64.ne_of_lt
    rw [serial_drafts]
    exact hnodup.map Serial.encode_injective
  case signed => exact fun s crypto other call => answer_congr

/-- A clock that stands still, goes back, and goes back to before the epoch. -/
def unsteadyClocks : List ℤ := [1700000000000, 1700000000000, 1600000000000, -5]

/-- The numbers grow all the same. -/
theorem serialLaws_unsteady :
    (∀ clock ∈ unsteadyClocks, Serial.IsReading clock) ∧ unsteadyClocks.length < 2 ^ 63 ∧
      SerialLaws (ofMaterial oneFile) unsteadyClocks ∧
      (ofMaterial oneFile).serials unsteadyClocks =
        [1700000000000, 1700000000001, 1700000000002, 1700000000003] := by
  have hclocks : ∀ clock ∈ unsteadyClocks, Serial.IsReading clock := by decide
  have hfew : unsteadyClocks.length < 2 ^ 63 := by decide
  exact ⟨hclocks, hfew, serialLaws oneFile unsteadyClocks hclocks hfew, by decide +kernel⟩

end CloudEmulator.CertificateStore
