import CloudEmulator.Tls.CertificateStore
import Mathlib

/-!
# Serial numbers

The number that a store keeps and the one that it uses are computed apart, and are the same. As
long as no addition overflows, numbers grow from one to the next whatever the clock does. The
octets of a number are the shortest that tell it.
-/

namespace CloudEmulator

namespace Serial

section Octets

variable {b : UInt8} {bytes other : Bytes} {n m : UInt64}

/-- The number that octets tell, the most significant first. -/
def decode (bytes : Bytes) : ℕ :=
  bytes.foldl (fun n b => n * 256 + b.toNat) 0

/-- An octet in front counts with the weight of its place. -/
theorem decode_cons (b : UInt8) (bytes : Bytes) :
    decode (b :: bytes) = b.toNat * 256 ^ bytes.length + decode bytes := by
  have hfold (n : ℕ) : bytes.foldl (fun n b => n * 256 + b.toNat) n =
      n * 256 ^ bytes.length + decode bytes := by
    induction bytes generalizing n with
    | nil => simp [decode]
    | cons c bytes ih =>
      rw [decode, List.foldl_cons, List.foldl_cons, ih, ih, List.length_cons, pow_succ]
      ring
  rw [decode, List.foldl_cons, hfold, Nat.zero_mul, Nat.zero_add]

/-- So many octets tell no greater number. -/
theorem decode_lt (bytes : Bytes) : decode bytes < 256 ^ bytes.length := by
  induction bytes with
  | nil => exact Nat.one_pos
  | cons b bytes ih =>
    rw [decode_cons, List.length_cons, pow_succ]
    have hb : b.toNat < 256 := b.toNat_lt
    nlinarith

/-- The eight octets of a number tell it. -/
theorem decode_octets (n : UInt64) : decode (octets n) = n.toNat := by
  have hn := n.toNat_lt
  simp only [decode, octets, List.map_cons, List.map_nil, List.foldl_cons, List.foldl_nil,
    UInt64.toNat_toUInt8, UInt64.toNat_shiftRight, Nat.shiftRight_eq_div_pow]
  simp
  omega

/-- Octets that begin with something else than zero stay as they are. -/
theorem strip_cons_of_ne (h : b ≠ 0) (bytes : Bytes) : strip (b :: bytes) = b :: bytes := by
  simp [strip, List.findIdx?_cons, h]

/-- A zero in front of other octets goes. -/
theorem strip_zero_cons (h : bytes ≠ []) : strip (0 :: bytes) = strip bytes := by
  have hlength : 0 < bytes.length := List.length_pos_iff.mpr h
  rw [strip, strip, List.findIdx?_cons, if_neg (by simp)]
  cases bytes.findIdx? (· != 0) with
  | none =>
    obtain ⟨k, hk⟩ : ∃ k, bytes.length = k + 1 := ⟨bytes.length - 1, by omega⟩
    simp [hk]
  | some i => rfl

/-- Without the zeros in front octets tell the same number. What is left is a single zero, or it
begins with something else. -/
theorem strip_spec (h : bytes ≠ []) : decode (strip bytes) = decode bytes ∧
    (strip bytes = [0] ∨ ∃ b rest, strip bytes = b :: rest ∧ b ≠ 0) := by
  induction bytes with
  | nil => exact absurd rfl h
  | cons b bytes ih =>
    by_cases hb : b = 0
    · subst hb
      by_cases hrest : bytes = []
      · subst hrest
        exact ⟨rfl, .inl rfl⟩
      · rw [strip_zero_cons hrest, decode_cons]
        simpa using ih hrest
    · rw [strip_cons_of_ne hb]
      exact ⟨rfl, .inr ⟨b, bytes, rfl, hb⟩⟩

/-- The octets of a number tell it. -/
theorem decode_encode (n : UInt64) : decode (encode n) = n.toNat :=
  (strip_spec (List.cons_ne_nil _ _)).1.trans (decode_octets n)

/-- So different numbers have different octets. -/
theorem encode_injective : Function.Injective encode := by
  intro n m heq
  have htold := congrArg decode heq
  rw [decode_encode, decode_encode] at htold
  exact UInt64.toNat.inj htold

/-- The octets of a number are a single zero or begin with something else. -/
theorem encode_cases (n : UInt64) :
    encode n = [0] ∨ ∃ b rest, encode n = b :: rest ∧ b ≠ 0 :=
  (strip_spec (List.cons_ne_nil _ _)).2

/-- Octets that tell the same number are no fewer, unless they are none at all. -/
theorem length_encode_le (hother : other ≠ []) (h : decode other = n.toNat) :
    (encode n).length ≤ other.length := by
  rcases encode_cases n with hzero | ⟨b, rest, hencode, hb⟩
  · rw [hzero]
    exact List.length_pos_iff.mpr hother
  · have hfirst : 0 < b.toNat := Nat.pos_of_ne_zero fun h0 => hb (UInt8.toNat.inj h0)
    have hleast : 256 ^ rest.length ≤ decode other := by
      rw [h, ← decode_encode, hencode, decode_cons]
      exact Nat.le_add_right_of_le (Nat.le_mul_of_pos_left _ hfirst)
    have hless := (Nat.pow_lt_pow_iff_right (by decide)).mp (hleast.trans_lt (decode_lt other))
    rw [hencode, List.length_cons]
    exact hless

end Octets

section Numbers

variable {last : UInt64} {clock : ℤ}

/-- The clock tells milliseconds in 64 bits, one of them for the sign. -/
def IsReading (clock : ℤ) : Prop :=
  -2 ^ 63 ≤ clock ∧ clock < 2 ^ 63

instance (clock : ℤ) : Decidable (IsReading clock) :=
  inferInstanceAs (Decidable (_ ∧ _))

/-- A reading is taken as it is, or as zero before the epoch. -/
theorem toNat_reading (h : IsReading clock) : (reading clock).toNat = clock.toNat := by
  have hreading := h.2
  have hsize : UInt64.size = 2 ^ 64 := rfl
  rw [reading, UInt64.toNat_ofNat_of_lt']
  omega

/-- One more than a number that is not the greatest. -/
theorem toNat_add_one (h : last.toNat + 1 < 2 ^ 64) : (last + 1).toNat = last.toNat + 1 := by
  rw [UInt64.toNat_add, UInt64.toNat_one, Nat.mod_eq_of_lt h]

/-- The greater of two numbers. -/
theorem toNat_max (n m : UInt64) : (max n m).toNat = max n.toNat m.toNat := by
  change (if n ≤ m then m else n).toNat = _
  split
  next h => exact (Nat.max_eq_right (UInt64.le_iff_toNat_le.mp h)).symm
  next h =>
    have hle : m.toNat ≤ n.toNat := Nat.le_of_not_le fun hm => h (UInt64.le_iff_toNat_le.mpr hm)
    exact (Nat.max_eq_left hle).symm

/-- The next number is the reading, or one more than the last number where that is greater. -/
theorem toNat_next (hclock : IsReading clock) (hlast : last.toNat + 1 < 2 ^ 64) :
    (next last clock).toNat = max clock.toNat (last.toNat + 1) := by
  rw [next, toNat_max, toNat_reading hclock, toNat_add_one hlast]

end Numbers

end Serial

namespace CertificateStore

variable {s : CertificateStore} {clock : ℤ} {clocks before later : List ℤ} {k : ℕ}

/-- The number that is taken is the one that is kept. -/
theorem takeSerial_eq (s : CertificateStore) (clock : ℤ) :
    s.takeSerial clock =
      ({ s with lastSerial := Serial.next s.lastSerial clock }, Serial.next s.lastSerial clock) :=
  rfl

/-- The store after numbers were taken at some readings of the clock. -/
def afterTaking (s : CertificateStore) (clocks : List ℤ) : CertificateStore :=
  clocks.foldl (fun s clock => (s.takeSerial clock).1) s

/-- The numbers that are taken at some readings of the clock. -/
def serials (s : CertificateStore) : List ℤ → List UInt64
  | [] => []
  | clock :: clocks => (s.takeSerial clock).2 :: (s.takeSerial clock).1.serials clocks

/-- The last number is one that `k` steps lead to, at readings of the clock. -/
def Within (k : ℕ) (s : CertificateStore) : Prop :=
  s.lastSerial.toNat < 2 ^ 63 + k

/-- Numbers are left where fewer than half of them were taken. -/
theorem Within.toNat_lt (h : s.Within k) (hk : k < 2 ^ 63) : s.lastSerial.toNat + 1 < 2 ^ 64 := by
  unfold Within at h
  omega

/-- A number that is taken while there are numbers left is greater than the last one, at least
the reading of the clock, and one step further. -/
theorem Within.takeSerial (h : s.Within k) (hk : k < 2 ^ 63) (hclock : Serial.IsReading clock) :
    s.lastSerial < (s.takeSerial clock).2 ∧ clock.toNat ≤ (s.takeSerial clock).2.toNat ∧
      (s.takeSerial clock).1.Within (k + 1) := by
  have hnext := Serial.toNat_next hclock (h.toNat_lt hk)
  have hreading := hclock.2
  unfold Within at h
  rw [takeSerial_eq, Within, UInt64.lt_iff_toNat_lt]
  dsimp only
  rw [hnext]
  omega

/-- A store keeps within its numbers while few are taken. All that are taken are greater than the
last one, and each is greater than those before and at least the reading of its time. -/
theorem Within.run (h : s.Within k) (hclocks : ∀ clock ∈ clocks, Serial.IsReading clock)
    (hfew : k + clocks.length ≤ 2 ^ 63) :
    (s.afterTaking clocks).Within (k + clocks.length) ∧
      (∀ n ∈ s.serials clocks, s.lastSerial < n) ∧ (s.serials clocks).Pairwise (· < ·) ∧
      List.Forall₂ (fun clock n => clock.toNat ≤ n.toNat) clocks (s.serials clocks) := by
  induction clocks generalizing s k with
  | nil => exact ⟨h, by simp [serials], .nil, .nil⟩
  | cons clock clocks ih =>
    obtain ⟨hclock, hlater⟩ := List.forall_mem_cons.mp hclocks
    rw [List.length_cons] at hfew ⊢
    obtain ⟨hgreater, hreading, hnext⟩ := h.takeSerial (by omega) hclock
    obtain ⟨hwithin, hall, hincreasing, hreadings⟩ := ih hnext hlater (by omega)
    have hkept : (s.takeSerial clock).1.lastSerial = (s.takeSerial clock).2 := rfl
    rw [hkept] at hall
    refine ⟨?_, ?_, ?_, ?_⟩
    · rwa [Nat.add_assoc, Nat.add_comm 1] at hwithin
    · exact List.forall_mem_cons.mpr ⟨hgreater, fun n hn => UInt64.lt_trans hgreater (hall n hn)⟩
    · exact List.pairwise_cons.mpr ⟨hall, hincreasing⟩
    · exact .cons hreading hreadings

/-- What is taken rests on the last number only. -/
theorem serials_congr {t : CertificateStore} (h : s.lastSerial = t.lastSerial)
    (clocks : List ℤ) : s.serials clocks = t.serials clocks := by
  induction clocks generalizing s t with
  | nil => rfl
  | cons clock clocks ih =>
    rw [serials, serials, takeSerial_eq, takeSerial_eq, h]
    exact congrArg _ (ih rfl)

end CertificateStore

end CloudEmulator
