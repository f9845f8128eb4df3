-- SUMMARY: The fixed buffers in which the kernel takes interface names.
import PingTun.Text.Utf8

/-! # Interface names

The kernel takes the name of an interface in a buffer of sixteen bytes and reads it up to the
first NUL. A text fits if it leaves room for one NUL behind it and holds none itself.
-/

namespace PingTun

structure InterfaceName where
  bytes : List UInt8
  length_eq : bytes.length = 16
deriving DecidableEq, Repr

namespace InterfaceName

def capacity : Nat := 16

/-- The buffer of a name, filled up with NULs, if the name fits. -/
def ofString? (name : String) : Option InterfaceName :=
  let bytes := Text.utf8 name
  if h : bytes.length < capacity ∧ 0 ∉ bytes then
    some {
      bytes := bytes ++ List.replicate (capacity - bytes.length) 0
      length_eq := by
        have hlt : bytes.length < 16 := h.1
        simp only [List.length_append, List.length_replicate, capacity]
        omega }
  else
    none

/-- The bytes of a name, as the kernel reads them. -/
def content (n : InterfaceName) : List UInt8 := n.bytes.takeWhile (· != 0)

/-- The name as a text. -/
def text (n : InterfaceName) : String :=
  (String.fromUTF8? (ByteArray.mk n.content.toArray)).getD ""

theorem content_of_ofString? {name : String} {n : InterfaceName} (h : ofString? name = some n) :
    n.content = Text.utf8 name := by
  simp only [ofString?] at h
  split at h
  · rename_i hfits
    simp only [Option.some.injEq] at h
    have hall : ∀ b ∈ Text.utf8 name, (b != 0) = true := by
      intro b hb
      simp only [bne_iff_ne, ne_eq]
      exact fun h0 => hfits.2 (h0 ▸ hb)
    have hpos : 0 < capacity - (Text.utf8 name).length := Nat.sub_pos_of_lt hfits.1
    obtain ⟨k, hk⟩ := Nat.exists_eq_succ_of_ne_zero (Nat.ne_of_gt hpos)
    simp only [← h, content, hk, List.replicate_succ]
    rw [List.takeWhile_append_of_pos hall]
    simp
  · exact absurd h (by simp)

end InterfaceName

end PingTun
