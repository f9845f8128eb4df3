-- SUMMARY: Interface names: which unit a name stands for, and that no two units share one.
import Mathlib.Algebra.Group.Nat.Defs
import PingTun.Proofs.Text.Encoding
import PingTun.Proofs.Text.Numerals
import PingTun.Tunnel.Linux
import PingTun.Tunnel.MacOS

/-! # Names of interfaces

The kernel finds the unit of an interface in the name it is given. Names of different units are
different, but for the units 0 and 1 where interfaces are numbered one below their units.
-/

namespace PingTun

theorem Text.fromUTF8?_utf8 (s : String) :
    String.fromUTF8? (ByteArray.mk (utf8 s).toArray) = some s := by
  have hbytes : ByteArray.mk (utf8 s).toArray = s.toByteArray := rfl
  rw [hbytes, String.fromUTF8?, dif_pos s.isValidUTF8]
  rfl

/-- A name that fits into its buffer is read from it as it was put in. -/
theorem InterfaceName.text_of_ofString? {name : String} {n : InterfaceName}
    (h : ofString? name = some n) : n.text = name := by
  rw [text, content_of_ofString? h, Text.fromUTF8?_utf8]
  rfl

theorem TunnelControl.ofString?_of_kernelName? {name : String} {n : InterfaceName}
    (h : kernelName? name = .ok n) : InterfaceName.ofString? name = some n := by
  unfold kernelName? at h
  cases hfits : InterfaceName.ofString? name with
  | none =>
    rw [hfits] at h
    cases h
  | some fitting =>
    rw [hfits] at h
    cases h
    rfl

/-! ## Numbered names -/

theorem toList_numbered (stem : String) (n : Nat) :
    (stem ++ Numeral.text n).toList = stem.toList ++ Numeral.chars n := by
  rw [String.toList_append, Numeral.text, String.toList_ofList]

/-- Two equal names with the same stem have the same number. -/
theorem eq_of_numbered {stem : String} {m n : Nat}
    (h : stem ++ Numeral.text m = stem ++ Numeral.text n) : m = n := by
  have hchars := congrArg String.toList h
  rw [toList_numbered, toList_numbered] at hchars
  exact Numeral.chars_injective (List.append_cancel_left hchars)

/-- A short stem leaves room in the buffer for any number that is a unit's. -/
theorem kernelName?_numbered {stem : String} {n : Nat}
    (hstem : ∀ c ∈ stem.toList, 0 < c.toNat ∧ c.toNat < 128) (hlength : stem.toList.length ≤ 5)
    (hn : n < 10 ^ 10) : ∃ name, TunnelControl.kernelName? (stem ++ Numeral.text n) = .ok name ∧
      name.content = Text.utf8 (stem ++ Numeral.text n) := by
  have hchars : ∀ c ∈ stem.toList ++ Numeral.chars n, 0 < c.toNat ∧ c.toNat < 128 := by
    intro c hc
    rcases List.mem_append.mp hc with hc | hc
    · exact hstem c hc
    · obtain ⟨hlow, hhigh⟩ := Char.isDigit_iff_toNat.mp (Numeral.isDigit_of_mem_chars hc)
      exact ⟨Nat.lt_of_lt_of_le (by decide) hlow, Nat.lt_of_le_of_lt hhigh (by decide)⟩
  have hbytes : Text.utf8 (stem ++ Numeral.text n) =
      (stem.toList ++ Numeral.chars n).map Text.byte := by
    rw [← Text.bytes_eq_map fun c hc => (hchars c hc).2, ← toList_numbered, ← Text.utf8_ofList,
      String.ofList_toList]
  have hfits : (Text.utf8 (stem ++ Numeral.text n)).length < InterfaceName.capacity ∧
      0 ∉ Text.utf8 (stem ++ Numeral.text n) := by
    have hdigits : (Numeral.chars n).length ≤ 10 :=
      (Nat.length_toDigits_le_iff (by decide) (by decide)).mpr hn
    rw [hbytes]
    constructor
    · rw [List.length_map, List.length_append, InterfaceName.capacity]
      omega
    · intro hzero
      obtain ⟨c, hc, hbyte⟩ := List.mem_map.mp hzero
      obtain ⟨hpos, hsmall⟩ := hchars c hc
      rw [← Text.toNat_byte hsmall, hbyte] at hpos
      exact absurd hpos (by decide)
  have hname : InterfaceName.ofString? (stem ++ Numeral.text n) = some _ := dif_pos hfits
  refine ⟨_, ?_, InterfaceName.content_of_ofString? hname⟩
  rw [TunnelControl.kernelName?, hname]

namespace Linux

theorem interfaceName_injective {u v : UInt32} (h : interfaceName u = interfaceName v) : u = v :=
  UInt32.toNat_inj.mp (eq_of_numbered h)

theorem kernelName?_interfaceName (unit : UInt32) :
    ∃ name, TunnelControl.kernelName? (interfaceName unit) = .ok name ∧
      name.content = Text.utf8 (interfaceName unit) := by
  have hstem : ∀ c ∈ ['t', 'u', 'n'], 0 < c.toNat ∧ c.toNat < 128 := by simp
  exact kernelName?_numbered hstem (by decide : ['t', 'u', 'n'].length ≤ 5)
    (Nat.lt_trans unit.toNat_lt (by decide))

/-- The kernel reads the unit of an interface back from its name. -/
theorem unitOfName?_interfaceName {unit : UInt32} {name : InterfaceName}
    (h : TunnelControl.kernelName? (interfaceName unit) = .ok name) :
    Host.unitOfName? name = some unit := by
  have hchars : name.text.toList = 't' :: 'u' :: 'n' :: Numeral.chars unit.toNat := by
    rw [InterfaceName.text_of_ofString? (TunnelControl.ofString?_of_kernelName? h), interfaceName,
      toList_numbered]
    rfl
  have hunit : unit.toNat ≤ UInt32.size - 1 := Nat.le_pred_of_lt unit.toNat_lt_size
  simp only [Host.unitOfName?, hchars, Numeral.readNat_chars hunit]
  exact congrArg some (UInt32.ofNat_toNat)

end Linux

namespace MacOS

theorem kernelName?_interfaceName (unit : UInt32) :
    ∃ name, TunnelControl.kernelName? (interfaceName unit) = .ok name ∧
      name.content = Text.utf8 (interfaceName unit) := by
  have hstem : ∀ c ∈ ['u', 't', 'u', 'n'], 0 < c.toNat ∧ c.toNat < 128 := by simp
  exact kernelName?_numbered hstem (by decide : ['u', 't', 'u', 'n'].length ≤ 5)
    (Nat.lt_of_le_of_lt (Nat.sub_le ..) (Nat.lt_trans unit.toNat_lt (by decide)))

theorem interfaceName_injOn {u v : UInt32} (hu : u ≠ 0) (hv : v ≠ 0)
    (h : interfaceName u = interfaceName v) : u = v := by
  have hpred : u.toNat - 1 = v.toNat - 1 := eq_of_numbered h
  have hu' : 0 < u.toNat := Nat.pos_of_ne_zero fun hzero => hu (UInt32.toNat_inj.mp hzero)
  have hv' : 0 < v.toNat := Nat.pos_of_ne_zero fun hzero => hv (UInt32.toNat_inj.mp hzero)
  apply UInt32.toNat_inj.mp
  omega

end MacOS

end PingTun
