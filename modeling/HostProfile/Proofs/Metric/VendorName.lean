import HostProfile.Display
import HostProfile.Proofs.Bytes
import HostProfile.Proofs.Metric.Cpuid
import HostProfile.Proofs.Probing.Agenda
import HostProfile.Proofs.Text.Terminated

/-!
# One reading of terminated texts

A device property, a field of a Direct3D identifier and the registers of the identification
instruction have texts that end at a NUL, and each is read in a way of its own. They are read alike:
each reading comes to the text up to the first NUL, whatever the bytes are
(`terminated_texts_decoded`).

The registers have twelve bytes, four in each of three registers that do not come in reading order
(`Registers.ofVendorBytes`). A vendor name without a NUL that fits into them is the vendor of a host
that tells it there.
-/

set_option autoImplicit false
set_option relaxedAutoImplicit false

namespace HostProfile

/-! ### Bytes in registers -/

namespace Registers

/-- Registers with twelve bytes: the first four, the next four and the last four of them each with
the least significant first. -/
def ofVendorBytes (eax : UInt32) (bytes : List UInt8) : Registers where
  eax := eax
  ebx := UInt32.ofNat (Bytes.valueLE (bytes.take 4))
  edx := UInt32.ofNat (Bytes.valueLE ((bytes.drop 4).take 4))
  ecx := UInt32.ofNat (Bytes.valueLE (bytes.drop 8))

theorem vendorBytes_ofVendorBytes (eax : UInt32) {bytes : List UInt8} (h : bytes.length = 12) :
    (ofVendorBytes eax bytes).vendorBytes = bytes := by
  have hlast : bytes.drop 8 = (bytes.drop 4).drop 4 := by rw [List.drop_drop]
  rw [vendorBytes, ofVendorBytes, Bytes.word32LE_valueLE (by simp [h]),
    Bytes.word32LE_valueLE (by simp [h]), Bytes.word32LE_valueLE (by simp [h]), hlast,
    List.append_assoc, List.take_append_drop, List.take_append_drop]

end Registers

/-! ### The vendor of a host -/

/-- The identification instruction of a host tells a vendor name, in twelve bytes of which those
after the name are zero. -/
structure Source.TellsVendor (source : Source) (name : String) : Prop where
  nulFree : '\x00' ∉ name.toList
  length_le : (Text.encode name).length ≤ 12
  told : ∃ eax, source (.cpuid Leaf.vendor) =
    .ok (.ofVendorBytes eax ((Text.encode name).rightpad 12 0))

/-- A name with zeros after it is read as the name. -/
theorem Text.terminated_rightpad {name : String} (h : '\x00' ∉ name.toList) (length : Nat) :
    Terminated ((encode name).rightpad length 0) name := by
  rw [List.rightpad]
  cases length - (encode name).length with
  | zero =>
    rw [List.replicate_zero, List.append_nil]
    exact terminated_encode h
  | succ n => exact terminated_encode_nul h _

theorem Registers.vendorName_eq_iff (eax : UInt32) {bytes : List UInt8} {text : String}
    (h : bytes.length = 12) :
    (ofVendorBytes eax bytes).vendorName = text ↔ Text.Terminated bytes text := by
  rw [Text.terminated_iff, vendorName, vendorBytes_ofVendorBytes eax h]

section Vendor

variable {config : Config} {architecture : Architecture} {source : Source}

/-- A name in the registers is the vendor, if the instruction is asked and the name is not blank. -/
theorem Metric.vendor_of_registers {registers : Registers}
    (hcpuid : architecture.hasCpuid = true) (hon : config.isDisabled "cpuid" = false)
    (htold : source (.cpuid Leaf.vendor) = .ok registers)
    (hvisible : Text.blank registers.vendorName = false) :
    (vendor config architecture).value source = registers.vendorName := by
  have hregisters : (cpuid architecture Leaf.vendor).run.value source = .ok registers := by
    rw [value_cpuid, if_pos hcpuid, htold]
  have houtcome : cpuidVendor.outcome architecture source = .ok registers.vendorName :=
    Attempt.value_bind_eq_ok_iff.mpr ⟨registers, hregisters, rfl⟩
  have husable : vendorChain.usable registers.vendorName = true := by
    simp [vendorChain, hvisible]
  have hresolves :
      cpuidVendor.Resolves architecture source vendorChain.usable config registers.vendorName :=
    ⟨hon, houtcome, husable⟩
  have hrun : (vendorChain.run config architecture).value source = .ok registers.vendorName :=
    (Chain.value_eq_ok_iff vendorChain.metric).mpr
      ⟨[], cpuidVendor, _, rfl, hresolves, fun other hother ↦ by cases hother⟩
  rw [vendor, Probing.value_bind, hrun]
  rfl

end Vendor

/-- The three readings of terminated texts come to the text up to the first NUL and to no other. So
each reads a text without a NUL from its bytes, with a NUL and any other bytes after them or
without; and such a name of at most twelve bytes, if it is not blank, is the vendor of a host whose
identification instruction tells it and is asked. -/
theorem terminated_texts_decoded :
    (∀ bytes text, (PropertyValue.data bytes).text? = some text ↔ Text.Terminated bytes text) ∧
    (∀ bytes text, Direct3D.fieldText bytes = text ↔ Text.Terminated bytes text) ∧
    (∀ eax bytes text, bytes.length = 12 →
      ((Registers.ofVendorBytes eax bytes).vendorName = text ↔ Text.Terminated bytes text)) ∧
    (∀ name, '\x00' ∉ name.toList → Text.Terminated (Text.encode name) name ∧
      ∀ after, Text.Terminated (Text.encode name ++ 0 :: after) name) ∧
    ∀ config architecture source name, architecture.hasCpuid = true →
      config.isDisabled "cpuid" = false → source.TellsVendor name → Text.blank name = false →
        (Metric.vendor config architecture).value source = name := by
  refine ⟨fun bytes text ↦ ?_, fun bytes text ↦ ?_, fun eax bytes text hlength ↦ ?_,
    fun name hname ↦ ?_, fun config architecture source name hcpuid hon htells hvisible ↦ ?_⟩
  · rw [Text.terminated_iff, PropertyValue.text?, Option.some_inj]
  · rw [Text.terminated_iff, Text.fieldText_eq]
  · exact Registers.vendorName_eq_iff eax hlength
  · exact ⟨Text.terminated_encode hname, Text.terminated_encode_nul hname⟩
  · obtain ⟨eax, htold⟩ := htells.told
    have hlength : ((Text.encode name).rightpad 12 0).length = 12 := by
      rw [List.length_rightpad, Nat.max_eq_left htells.length_le]
    have hname := (Registers.vendorName_eq_iff eax hlength).mpr
      (Text.terminated_rightpad htells.nulFree 12)
    have hvendor := Metric.vendor_of_registers hcpuid hon htold (hname.symm ▸ hvisible)
    rwa [hname] at hvendor

/-- A host that has the identification instruction and nothing else. -/
def Source.ofRegisters (registers : Registers) : Source
  | .cpuid _ => .ok registers
  | _ => .error .unavailable

/-- A name of eleven bytes has a single zero after it in the registers. -/
theorem terminated_texts_decoded_eleven :
    let name := "E2K MACHINE"
    let bytes := Text.encode name ++ [0]
    let source := Source.ofRegisters (.ofVendorBytes 13 bytes)
    '\x00' ∉ name.toList ∧ bytes.length = 12 ∧ Architecture.x86.hasCpuid = true ∧
      Config.standard.isDisabled "cpuid" = false ∧ source.TellsVendor name ∧
      Text.blank name = false ∧
      (PropertyValue.data bytes).text? = some name ∧ Direct3D.fieldText bytes = name ∧
      (Registers.ofVendorBytes 13 bytes).vendorName = name ∧
      (Metric.vendor .standard .x86).value source = name := by
  intro name bytes source
  have hname : '\x00' ∉ name.toList := by decide
  have hlength : bytes.length = 12 := by decide
  have hcpuid : Architecture.x86.hasCpuid = true := rfl
  have hon : Config.standard.isDisabled "cpuid" = false := rfl
  have hpadded : (Text.encode name).rightpad 12 0 = bytes := by decide
  have htells : source.TellsVendor name := ⟨hname, by decide, 13, by rw [hpadded]; rfl⟩
  have hvisible : Text.blank name = false := by decide
  obtain ⟨hproperty, hfield, hregisters, hencoded, hvendor⟩ := terminated_texts_decoded
  have hterminated : Text.Terminated bytes name := (hencoded name hname).2 []
  exact ⟨hname, hlength, hcpuid, hon, htells, hvisible, (hproperty bytes name).mpr hterminated,
    (hfield bytes name).mpr hterminated, (hregisters 13 bytes name hlength).mpr hterminated,
    hvendor .standard .x86 source name hcpuid hon htells hvisible⟩

end HostProfile
