-- SUMMARY: Values of the grammar, of any kind and depth, are passed over up to their very end.
import PingTun.Proofs.Json.Numbers
import PingTun.Proofs.Json.Strings

/-! # Extents of values

What is inside of a list or an object is passed over with the frames of what is around it on a
stack. So the induction is on the value, for all stacks: behind it, the stack is as it was in front
of it.
-/

namespace PingTun.Json

variable {bs rest : List UInt8} {stack : List Frame}

/-! ## Blanks -/

theorem Blank.isBlank_byte (b : Blank) : Byte.isBlank b.byte = true := by
  cases b <;> rfl

@[simp] theorem writeGap_nil (bytes : List UInt8) : writeGap [] bytes = bytes := rfl

@[simp] theorem skipBlanks_writeGap (gap : List Blank) (bytes : List UInt8) :
    skipBlanks (writeGap gap bytes) = skipBlanks bytes := by
  have hgap : ∀ byte ∈ gap.map Blank.byte, Byte.isBlank byte = true := by
    intro byte hbyte
    obtain ⟨b, -, rfl⟩ := List.mem_map.mp hbyte
    exact b.isBlank_byte
  exact List.dropWhile_append_of_pos hgap

theorem skipBlanks_comma (rest : List UInt8) :
    skipBlanks (Byte.comma :: rest) = Byte.comma :: rest := skipBlanks_cons rfl rest

theorem ends_writeGap (gap : List Blank) (hends : Ends bs) : Ends (writeGap gap bs) := by
  cases gap with
  | nil => exact hends
  | cons b gap => cases b <;> exact ⟨rfl, by decide, rfl⟩

theorem ends_writeItems (items : List (Item Value)) (rest : List UInt8) :
    Ends (writeItems false items (Byte.closeBracket :: rest)) := by
  cases items with
  | nil => exact ⟨rfl, by decide, rfl⟩
  | cons item items => exact ⟨rfl, by decide, rfl⟩

theorem ends_writeMembers (members : List (Member Value)) (rest : List UInt8) :
    Ends (writeMembers false members (Byte.closeBrace :: rest)) := by
  cases members with
  | nil => exact ⟨rfl, by decide, rfl⟩
  | cons member members => exact ⟨rfl, by decide, rfl⟩

@[simp] theorem scanColon_writeGap (gap : List Blank) (bytes : List UInt8) :
    scanColon (writeGap gap bytes) = scanColon bytes := by
  rw [scanColon, skipBlanks_writeGap, scanColon]

/-! ## Fronts -/

/-- A byte that a value can begin with. -/
def Byte.Begins (b : UInt8) : Prop := isBlank b = false ∧ b ≠ closeBracket

theorem Byte.begins_of_isDigit {b : UInt8} (h : isDigit b = true) : Begins b := by
  refine ⟨isBlank_of_isDigit h, ?_⟩
  rintro rfl
  cases h

theorem Literal.write_eq_cons (n : Literal) (rest : List UInt8) :
    ∃ byte tail, n.write rest = byte :: tail ∧ (byte = Byte.minus ∨ Byte.isDigit byte) := by
  cases hsign : n.isNegative with
  | true => exact ⟨Byte.minus, n.writeMagnitude rest, by rw [write, if_pos hsign], .inl rfl⟩
  | false =>
    obtain ⟨byte, tail, hbytes, hdigit⟩ := writeMagnitude_eq_cons n rest
    refine ⟨byte, tail, ?_, .inr hdigit⟩
    rw [write, hsign, if_neg Bool.false_ne_true, hbytes]

theorem Value.write_eq_cons (v : Value) (rest : List UInt8) :
    ∃ byte tail, v.write rest = byte :: tail ∧ Byte.Begins byte := by
  cases v with
  | null => exact ⟨_, _, rfl, rfl, by decide⟩
  | boolean b => cases b <;> exact ⟨_, _, rfl, rfl, by decide⟩
  | number n =>
    obtain ⟨byte, tail, hbytes, rfl | hdigit⟩ := n.write_eq_cons rest
    · exact ⟨Byte.minus, tail, hbytes, rfl, by decide⟩
    · exact ⟨byte, tail, hbytes, Byte.begins_of_isDigit hdigit⟩
  | text pieces => exact ⟨_, _, rfl, rfl, by decide⟩
  | list gap items => exact ⟨_, _, rfl, rfl, by decide⟩
  | object gap members => exact ⟨_, _, rfl, rfl, by decide⟩

/-! ## Steps -/

/-- One step is taken, and the rest is passed over from where it leads. -/
theorem skipFrom_of_step {place place' : Place} {bytes : List UInt8}
    (hstep : step place bytes = .ok (place', rest)) :
    skipFrom place bytes = skipFrom place' rest := by
  have hplace : place ≠ .behind [] := by
    rintro rfl
    cases hstep
  rw [skipFrom, if_neg hplace]
  split
  · rename_i htaken
    cases hstep.symm.trans htaken
    rfl
  · rename_i htaken
    cases hstep.symm.trans htaken

theorem step_writeGap (stack : List Frame) (gap : List Blank) (bytes : List UInt8) :
    step (.value stack) (writeGap gap bytes) = step (.value stack) bytes := by
  simp only [step, beginValue, skipBlanks_writeGap]

theorem step_scalar {byte : UInt8} {tail : List UInt8} (hblank : Byte.isBlank byte = false)
    (hlist : byte ≠ Byte.openBracket) (hobject : byte ≠ Byte.openBrace)
    (hskip : skipScalar byte tail = .ok rest) :
    step (.value stack) (byte :: tail) = .ok (.behind stack, rest) := by
  simp only [step, beginValue, skipBlanks_cons hblank, if_neg hlist, if_neg hobject, hskip,
    Except.map]

theorem step_number (n : Literal) (hends : Ends rest) :
    step (.value stack) (n.write rest) = .ok (.behind stack, rest) := by
  have hskip := skipNumber_writeMagnitude n hends
  cases hsign : n.isNegative with
  | true =>
    rw [Literal.write, if_pos hsign]
    exact step_scalar rfl (by decide) (by decide) hskip
  | false =>
    obtain ⟨byte, tail, hbytes, hdigit⟩ := writeMagnitude_eq_cons n rest
    have hne {b : UInt8} (hb : Byte.isDigit b = false) : byte ≠ b := by
      rintro rfl
      exact absurd (hdigit.symm.trans hb) (by decide)
    rw [hbytes] at hskip
    rw [Literal.write, hsign, if_neg Bool.false_ne_true, hbytes]
    apply step_scalar (Byte.isBlank_of_isDigit hdigit) (hne rfl) (hne rfl)
    rw [skipScalar, if_neg (hne rfl), if_neg (hne rfl), if_neg (hne rfl), if_neg (hne rfl),
      if_neg (hne rfl), if_pos hdigit]
    exact hskip

/-! ## Steps into lists and objects, and on inside of them -/

theorem step_list_nil (stack : List Frame) (gap : List Blank) (rest : List UInt8) :
    step (.value stack) (Byte.openBracket :: writeGap gap (Byte.closeBracket :: rest)) =
      .ok (.behind stack, rest) := by
  change beginList stack _ = _
  rw [beginList, skipBlanks_writeGap]
  rfl

theorem step_list_cons (stack : List Frame) (gap before : List Blank) (v : Value)
    (bytes : List UInt8) :
    step (.value stack) (Byte.openBracket :: writeGap gap (writeGap before (v.write bytes))) =
      .ok (.value (.list :: stack), v.write bytes) := by
  obtain ⟨byte, tail, hbytes, hblank, hclose⟩ := v.write_eq_cons bytes
  change beginList stack _ = _
  rw [hbytes, beginList, skipBlanks_writeGap, skipBlanks_writeGap, skipBlanks_cons hblank]
  exact if_neg hclose

theorem step_items_nil (stack : List Frame) (gap : List Blank) (rest : List UInt8) :
    step (.behind (.list :: stack)) (writeGap gap (Byte.closeBracket :: rest)) =
      .ok (.behind stack, rest) := by
  rw [step, continueList, skipBlanks_writeGap]
  rfl

theorem step_items_cons (stack : List Frame) (gap : List Blank) (bytes : List UInt8) :
    step (.behind (.list :: stack)) (writeGap gap (Byte.comma :: bytes)) =
      .ok (.value (.list :: stack), bytes) := by
  rw [step, continueList, skipBlanks_writeGap]
  rfl

theorem skipBlanks_writeKey (before : List Blank) (key : List Piece)
    (beforeColon behindColon : List Blank) (rest : List UInt8) :
    skipBlanks (writeKey before key beforeColon behindColon rest) =
      writeKey [] key beforeColon behindColon rest := by
  rw [writeKey, skipBlanks_writeGap]
  exact skipBlanks_cons rfl _

theorem skipKey_writeKey (before : List Blank) (key : List Piece)
    (beforeColon behindColon : List Blank) (rest : List UInt8) :
    skipKey (writeKey before key beforeColon behindColon rest) =
      .ok (writeGap behindColon rest) := by
  rw [skipKey, skipBlanks_writeKey]
  simp only [writeKey, writeGap_nil, if_pos, skipText_writeText]
  exact scanColon_writeGap beforeColon _

theorem step_object_nil (stack : List Frame) (gap : List Blank) (rest : List UInt8) :
    step (.value stack) (Byte.openBrace :: writeGap gap (Byte.closeBrace :: rest)) =
      .ok (.behind stack, rest) := by
  change beginObject stack _ = _
  rw [beginObject, skipBlanks_writeGap]
  rfl

theorem step_object_cons (stack : List Frame) (gap before : List Blank) (key : List Piece)
    (beforeColon behindColon : List Blank) (bytes : List UInt8) :
    step (.value stack)
      (Byte.openBrace :: writeGap gap (writeKey before key beforeColon behindColon bytes)) =
        .ok (.value (.object :: stack), writeGap behindColon bytes) := by
  have hkey := skipKey_writeKey [] key beforeColon behindColon bytes
  change beginObject stack _ = _
  rw [beginObject, skipBlanks_writeGap, skipBlanks_writeKey]
  simp only [writeKey, writeGap_nil] at hkey ⊢
  rw [if_neg (by decide), hkey]
  rfl

theorem step_members_nil (stack : List Frame) (gap : List Blank) (rest : List UInt8) :
    step (.behind (.object :: stack)) (writeGap gap (Byte.closeBrace :: rest)) =
      .ok (.behind stack, rest) := by
  rw [step, continueObject, skipBlanks_writeGap]
  rfl

theorem step_members_cons (stack : List Frame) (gap before : List Blank) (key : List Piece)
    (beforeColon behindColon : List Blank) (bytes : List UInt8) :
    step (.behind (.object :: stack))
      (writeGap gap (Byte.comma :: writeKey before key beforeColon behindColon bytes)) =
        .ok (.value (.object :: stack), writeGap behindColon bytes) := by
  rw [step, continueObject, skipBlanks_writeGap, skipBlanks_comma]
  simp only [if_pos, skipKey_writeKey]
  rfl

/-! ## Values -/

mutual

/-- A value is passed over, whatever it is inside of. -/
theorem skipFrom_value (stack : List Frame) :
    ∀ (v : Value) (gap : List Blank) {rest : List UInt8}, Ends rest →
      skipFrom (.value stack) (writeGap gap (v.write rest)) = skipFrom (.behind stack) rest
  | .null, gap, rest, _ => by
    apply skipFrom_of_step
    rw [step_writeGap]
    exact step_scalar rfl (by decide) (by decide) rfl
  | .boolean true, gap, rest, _ => by
    apply skipFrom_of_step
    rw [step_writeGap]
    exact step_scalar rfl (by decide) (by decide) rfl
  | .boolean false, gap, rest, _ => by
    apply skipFrom_of_step
    rw [step_writeGap]
    exact step_scalar rfl (by decide) (by decide) rfl
  | .number n, gap, rest, hends => by
    apply skipFrom_of_step
    rw [step_writeGap]
    exact step_number n hends
  | .text pieces, gap, rest, _ => by
    apply skipFrom_of_step
    rw [step_writeGap]
    exact step_scalar rfl (by decide) (by decide) (skipText_writeText pieces rest)
  | .list inner [], gap, rest, _ => by
    apply skipFrom_of_step
    rw [step_writeGap]
    exact step_list_nil stack inner rest
  | .list inner (⟨before, value, behind⟩ :: items), gap, rest, _ => by
    have hends := ends_writeGap behind (ends_writeItems items rest)
    have hstep (bytes : List UInt8) :=
      (step_writeGap stack gap _).trans (step_list_cons stack inner before value bytes)
    refine (skipFrom_of_step (hstep _)).trans ?_
    refine (skipFrom_value (.list :: stack) value [] hends).trans ?_
    exact skipFrom_items stack items behind rest
  | .object inner [], gap, rest, _ => by
    apply skipFrom_of_step
    rw [step_writeGap]
    exact step_object_nil stack inner rest
  | .object inner (⟨before, key, beforeColon, behindColon, value, behind⟩ :: members), gap, rest, _
    => by
    have hends := ends_writeGap behind (ends_writeMembers members rest)
    have hstep (bytes : List UInt8) := (step_writeGap stack gap _).trans
      (step_object_cons stack inner before key beforeColon behindColon bytes)
    refine (skipFrom_of_step (hstep _)).trans ?_
    refine (skipFrom_value (.object :: stack) value behindColon hends).trans ?_
    exact skipFrom_members stack members behind rest
termination_by structural v => v

/-- What follows a value in a list is passed over with the end of the list. -/
theorem skipFrom_items (stack : List Frame) :
    ∀ (items : List (Item Value)) (gap : List Blank) (rest : List UInt8),
      skipFrom (.behind (.list :: stack))
        (writeGap gap (writeItems false items (Byte.closeBracket :: rest))) =
          skipFrom (.behind stack) rest
  | [], gap, rest => skipFrom_of_step (step_items_nil stack gap rest)
  | ⟨before, value, behind⟩ :: items, gap, rest => by
    have hends := ends_writeGap behind (ends_writeItems items rest)
    refine (skipFrom_of_step (step_items_cons stack gap _)).trans ?_
    refine (skipFrom_value (.list :: stack) value before hends).trans ?_
    exact skipFrom_items stack items behind rest
termination_by structural items => items

/-- What follows a value in an object is passed over with the end of the object. -/
theorem skipFrom_members (stack : List Frame) :
    ∀ (members : List (Member Value)) (gap : List Blank) (rest : List UInt8),
      skipFrom (.behind (.object :: stack))
        (writeGap gap (writeMembers false members (Byte.closeBrace :: rest))) =
          skipFrom (.behind stack) rest
  | [], gap, rest => skipFrom_of_step (step_members_nil stack gap rest)
  | ⟨before, key, beforeColon, behindColon, value, behind⟩ :: members, gap, rest => by
    have hends := ends_writeGap behind (ends_writeMembers members rest)
    have hstep := step_members_cons stack gap before key beforeColon behindColon
    refine (skipFrom_of_step (hstep _)).trans ?_
    refine (skipFrom_value (.object :: stack) value behindColon hends).trans ?_
    exact skipFrom_members stack members behind rest
termination_by structural members => members

end

/-- A value is passed over up to its end. -/
theorem skipValue_write (gap : List Blank) (v : Value) (hends : Ends rest) :
    skipValue (writeGap gap (v.write rest)) = .ok rest := by
  rw [skipValue, skipFrom_value [] v gap hends, skipFrom, if_pos rfl]

end PingTun.Json
