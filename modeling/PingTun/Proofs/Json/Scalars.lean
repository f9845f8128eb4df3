-- SUMMARY: What the readers of numbers, booleans and texts take of a value of the grammar.
import PingTun.Proofs.Json.Extent

/-! # Scalars

A reader takes a value in front of other bytes if the value is of its type, and fails on any other
one. What it takes is told by the tree alone, whatever blanks are in front of it.
-/

namespace PingTun.Json

namespace Value

def natural? : Value → Option Nat
  | .number n => n.natural?
  | _ => none

def boolean? : Value → Option Bool
  | .boolean b => some b
  | _ => none

def text? : Value → Option (List Char)
  | .text pieces => spelled? pieces
  | _ => none

end Value

theorem toOption_ok {ε α : Type} (a : α) : (Except.ok a : Except ε α).toOption = some a := rfl

theorem toOption_map {ε α β : Type} (f : α → β) (e : Except ε α) :
    (e.map f).toOption = e.toOption.map f := by
  cases e <;> rfl

/-- What a reader takes of any value, of which nothing goes on in the bytes behind it. -/
def Reader.Takes {α : Type} (r : Reader α) (of? : Value → Option α) : Prop :=
  ∀ (gap : List Blank) (v : Value) {rest : List UInt8}, Ends rest →
    (r.run (writeGap gap (v.write rest))).toOption = (of? v).map (·, rest)

theorem Reader.Takes.map {α β : Type} {r : Reader α} {of? : Value → Option α} (h : r.Takes of?)
    (f : α → β) : (r.map f).Takes fun v => (of? v).map f := by
  intro gap v rest hends
  have hrun := h gap v hends
  simp only [Reader.map, toOption_map, hrun, Option.map_map]
  rfl

/-- A value is read as what the reader takes of it, or not at all. -/
theorem Reader.Takes.run {α : Type} {r : Reader α} {of? : Value → Option α} (h : r.Takes of?)
    (gap : List Blank) (v : Value) {rest : List UInt8} (hends : Ends rest) :
    (∃ a, of? v = some a ∧ r.run (writeGap gap (v.write rest)) = .ok (a, rest)) ∨
      (of? v = none ∧ ∃ failure, r.run (writeGap gap (v.write rest)) = .error failure) := by
  have hrun := h gap v hends
  cases hresult : r.run (writeGap gap (v.write rest)) with
  | error failure =>
    rw [hresult] at hrun
    cases htaken : of? v with
    | none => exact .inr ⟨rfl, failure, rfl⟩
    | some a =>
      rw [htaken] at hrun
      cases hrun
  | ok result =>
    rw [hresult] at hrun
    cases htaken : of? v with
    | none =>
      rw [htaken] at hrun
      cases hrun
    | some a =>
      rw [htaken] at hrun
      cases hrun
      exact .inl ⟨a, rfl, rfl⟩

/-! ## Numbers -/

section

variable {bound : Nat} {byte : UInt8} {tail rest : List UInt8}

theorem toOption_readNat_of_ne (hblank : Byte.isBlank byte = false)
    (h : ¬ (byte = Byte.minus ∨ Byte.isDigit byte)) (wanted : String) :
    (readNat bound wanted (byte :: tail)).toOption = none := by
  rw [readNat, skipBlanks_cons hblank]
  dsimp only
  rw [if_neg h]
  rfl

theorem Reader.takes_nat (hbound : bound ≤ greatestSignificand) (wanted : String) :
    (Reader.nat bound wanted).Takes fun v => v.natural?.filter (· ≤ bound) := by
  intro gap v rest hends
  have hgap : (Reader.nat bound wanted).run (writeGap gap (v.write rest)) =
      readNat bound wanted (v.write rest) := by
    simp only [Reader.nat, readNat, skipBlanks_writeGap]
  rw [hgap]
  cases v with
  | null => exact toOption_readNat_of_ne rfl (by decide) wanted
  | boolean b => cases b <;> exact toOption_readNat_of_ne rfl (by decide) wanted
  | number n => exact toOption_readNat_write hbound wanted n hends
  | text pieces => exact toOption_readNat_of_ne rfl (by decide) wanted
  | list gap items => exact toOption_readNat_of_ne rfl (by decide) wanted
  | object gap members => exact toOption_readNat_of_ne rfl (by decide) wanted

/-! ## Booleans -/

theorem toOption_readBool_of_ne (hblank : Byte.isBlank byte = false) (htrue : byte ≠ Byte.letterT)
    (hfalse : byte ≠ Byte.letterF) (wanted : String) :
    (readBool wanted (byte :: tail)).toOption = none := by
  rw [readBool, skipBlanks_cons hblank]
  dsimp only
  rw [if_neg htrue, if_neg hfalse]
  rfl

theorem Reader.takes_bool (wanted : String) : (Reader.bool wanted).Takes Value.boolean? := by
  intro gap v rest _
  have hgap : (Reader.bool wanted).run (writeGap gap (v.write rest)) =
      readBool wanted (v.write rest) := by
    simp only [Reader.bool, readBool, skipBlanks_writeGap]
  rw [hgap]
  cases v with
  | null => exact toOption_readBool_of_ne rfl (by decide) (by decide) wanted
  | boolean b => cases b <;> rfl
  | number n =>
    obtain ⟨byte, tail, hbytes, hfirst⟩ := n.write_eq_cons rest
    rw [Value.write, hbytes]
    exact toOption_readBool_of_ne (Byte.isBlank_of_numeric hfirst)
      (Byte.ne_of_numeric hfirst (by decide)) (Byte.ne_of_numeric hfirst (by decide)) wanted
  | text pieces => exact toOption_readBool_of_ne rfl (by decide) (by decide) wanted
  | list gap items => exact toOption_readBool_of_ne rfl (by decide) (by decide) wanted
  | object gap members => exact toOption_readBool_of_ne rfl (by decide) (by decide) wanted

/-! ## Texts -/

variable {α : Type} {parse : List Char → Except Flaw α}

theorem toOption_readText_of_ne (hblank : Byte.isBlank byte = false) (hquote : byte ≠ Byte.quote)
    (wanted : String) : (readText wanted parse (byte :: tail)).toOption = none := by
  rw [readText, skipBlanks_cons hblank]
  dsimp only
  rw [if_neg hquote]
  rfl

theorem toOption_readText (wanted : String) (bytes : List UInt8) :
    (readText wanted parse (Byte.quote :: bytes)).toOption =
      (scanText bytes).toOption.bind fun (cs, rest) => (parse cs).toOption.map (·, rest) := by
  rw [readText, skipBlanks_cons rfl]
  dsimp only
  rw [if_pos rfl]
  cases scanText bytes with
  | error f => rfl
  | ok result =>
    dsimp only
    cases hparse : parse result.1 with
    | error flaw => simp only [Except.toOption, Option.bind_some, hparse, Option.map_none]
    | ok a => simp only [Except.toOption, Option.bind_some, hparse, Option.map_some]

theorem Reader.takes_text (wanted : String) :
    (Reader.text wanted parse).Takes fun v => v.text?.bind fun cs => (parse cs).toOption := by
  intro gap v rest _
  have hgap : (Reader.text wanted parse).run (writeGap gap (v.write rest)) =
      readText wanted parse (v.write rest) := by
    simp only [Reader.text, readText, skipBlanks_writeGap]
  rw [hgap]
  cases v with
  | null => exact toOption_readText_of_ne rfl (by decide) wanted
  | boolean b => cases b <;> exact toOption_readText_of_ne rfl (by decide) wanted
  | number n =>
    obtain ⟨byte, tail, hbytes, hfirst⟩ := n.write_eq_cons rest
    rw [Value.write, hbytes]
    exact toOption_readText_of_ne (Byte.isBlank_of_numeric hfirst)
      (Byte.ne_of_numeric hfirst (by decide)) wanted
  | text pieces =>
    rw [Value.write, toOption_readText, toOption_scanText_writeText]
    dsimp only [Value.text?]
    cases spelled? pieces <;> rfl
  | list gap items => exact toOption_readText_of_ne rfl (by decide) wanted
  | object gap members => exact toOption_readText_of_ne rfl (by decide) wanted

end

end PingTun.Json
