import HostProfile.Host.Windows
import HostProfile.Proofs.Bytes

/-!
# The clock in the registry

A call for a value of an open key fails where the key has no such value or the buffer is too short
for it, and otherwise writes the value to the start of the buffer (`RegistryKey.Contract`). The
clock is read into a word of zeros, so a value of fewer bytes is their number, and one of more is a
failed query (`ClockRead.ok_iff`).

A Windows host always has a registry: a clock that cannot be read is a failed query, never a source
that does not exist (`clockRead_processorMhz`).
-/

set_option autoImplicit false
set_option relaxedAutoImplicit false

namespace HostProfile.Windows

/-- Calls for the values of a key do what they should with the values it has. -/
structure RegistryKey.Contract (key : RegistryKey) (values : String → Option (List UInt8)) :
    Prop where
  missing : ∀ name buffer, values name = none → ∃ code, key name buffer = .error code
  short : ∀ name bytes buffer, values name = some bytes → buffer.length < bytes.length →
    ∃ code, key name buffer = .error code
  room : ∀ name bytes buffer, values name = some bytes → bytes.length ≤ buffer.length →
    key name buffer = .ok (bytes ++ buffer.drop bytes.length)

/-- A key that has certain values. -/
def RegistryKey.ofValues (values : List (String × List UInt8)) : RegistryKey := fun name buffer ↦
  match values.lookup name with
  | none => .error 2
  | some bytes =>
    if buffer.length < bytes.length then .error 234
    else .ok (bytes ++ buffer.drop bytes.length)

theorem RegistryKey.contract_ofValues (values : List (String × List UInt8)) :
    (ofValues values).Contract fun name ↦ values.lookup name where
  missing := fun name buffer h ↦ ⟨2, by simp [ofValues, h]⟩
  short := fun name bytes buffer h hshort ↦ ⟨234, by simp [ofValues, h, hshort]⟩
  room := fun name bytes buffer h hroom ↦ by simp [ofValues, h, Nat.not_lt.mpr hroom]

/-- What the clock of the first processor in a registry is, and what it is where there is none. -/
structure ClockRead (registry : Registry) (outcome : Outcome UInt32) : Prop where
  /-- The clock is the value of the processor's key, in four bytes at most. -/
  ok_iff : ∀ key values,
    registry "HARDWARE\\DESCRIPTION\\System\\CentralProcessor\\0" = .ok key →
      key.Contract values → ∀ mhz : UInt32, outcome = .ok mhz ↔
        ∃ bytes, values "~MHz" = some bytes ∧ bytes.length ≤ 4 ∧ mhz.toNat = Bytes.valueLE bytes
  /-- A key that cannot be opened is a failed query. -/
  unopened : ∀ code,
    registry "HARDWARE\\DESCRIPTION\\System\\CentralProcessor\\0" = .error code →
      ∃ reason, outcome = .error (.queryFailed "registry" reason)
  /-- There is no other error than a failed query. -/
  failed : ∀ error, outcome = .error error → ∃ reason, error = .queryFailed "registry" reason

variable {registry : Registry} {key : RegistryKey} {values : String → Option (List UInt8)}

/-- A word of zeros is left with the bytes of the value and zeros after them. -/
theorem RegistryKey.Contract.key_word (h : key.Contract values) {name : String}
    {bytes : List UInt8} (hvalue : values name = some bytes) (hlength : bytes.length ≤ 4) :
    key name (List.replicate 4 0) = .ok (bytes ++ List.replicate (4 - bytes.length) 0) := by
  rw [h.room name bytes _ hvalue (by rwa [List.length_replicate]), List.drop_replicate]

theorem RegistryKey.Contract.processorMhz_eq_ok_iff (h : key.Contract values)
    (hopen : registry Registry.processorKey = .ok key) {mhz : UInt32} :
    registry.processorMhz = .ok mhz ↔ ∃ bytes, values Registry.clockValue = some bytes ∧
      bytes.length ≤ 4 ∧ mhz.toNat = Bytes.valueLE bytes := by
  have hfailed (code : Nat) (hcall : key Registry.clockValue (List.replicate 4 0) = .error code) :
      registry.processorMhz ≠ .ok mhz := by
    rw [Registry.processorMhz, hopen]
    dsimp only
    rw [hcall]
    rintro ⟨⟩
  cases hvalue : values Registry.clockValue with
  | none =>
    obtain ⟨code, hcall⟩ := h.missing _ (List.replicate 4 0) hvalue
    exact iff_of_false (hfailed code hcall) (by simp)
  | some bytes =>
    by_cases hlength : bytes.length ≤ 4
    · have hread : registry.processorMhz = .ok (UInt32.ofNat (Bytes.valueLE bytes)) := by
        have hwhole : (bytes ++ List.replicate (4 - bytes.length) (0 : UInt8)).take 4 =
            bytes ++ List.replicate (4 - bytes.length) 0 := by
          rw [List.take_of_length_le (by simp; omega)]
        rw [Registry.processorMhz, hopen]
        dsimp only
        rw [h.key_word hvalue hlength]
        dsimp only
        rw [hwhole, Bytes.valueLE_append_zeros]
      rw [hread, Except.ok.injEq, ← UInt32.toNat_inj, Bytes.toNat_ofNat_valueLE hlength]
      constructor
      · exact fun heq ↦ ⟨bytes, rfl, hlength, heq.symm⟩
      · rintro ⟨_, ⟨⟩, -, heq⟩
        exact heq.symm
    · have hshort : (List.replicate 4 (0 : UInt8)).length < bytes.length := by
        rw [List.length_replicate]
        omega
      obtain ⟨code, hcall⟩ := h.short _ bytes _ hvalue hshort
      refine iff_of_false (hfailed code hcall) ?_
      rintro ⟨_, ⟨⟩, hfits, -⟩
      exact hlength hfits

theorem clockRead_processorMhz (registry : Registry) :
    ClockRead registry registry.processorMhz where
  ok_iff := fun _ _ hopen hcontract _ ↦ hcontract.processorMhz_eq_ok_iff hopen
  unopened := by
    intro code hclosed
    change registry Registry.processorKey = .error code at hclosed
    rw [Registry.processorMhz, hclosed]
    exact ⟨_, rfl⟩
  failed := by
    intro error herror
    unfold Registry.processorMhz at herror
    split at herror
    · cases herror
      exact ⟨_, rfl⟩
    · split at herror <;> cases herror
      exact ⟨_, rfl⟩

/-- A value of two bytes is their number. -/
example : Registry.processorMhz (fun _ ↦ .ok (.ofValues [("~MHz", [0x10, 0x0E])])) = .ok 3600 :=
  rfl

end HostProfile.Windows
