-- SUMMARY: Passing over a JSON value of any kind and depth.
import PingTun.Json.ScanNumber

/-! # Values that nobody asks for

A value is passed over without recursion into it: the lists and objects it is inside of are kept
on a stack, so its depth does not matter.
-/

namespace PingTun.Json

/-- What a value can be inside of. -/
inductive Frame
  | list
  | object
deriving DecidableEq, Repr

/-- Where passing over a value stands: a value comes next, or one has just been passed over,
inside of the frames of a stack, the innermost first. -/
inductive Place
  | value (stack : List Frame)
  | behind (stack : List Frame)
deriving DecidableEq, Repr

/-- Pass over a value that is neither list nor object, given its first byte. -/
def skipScalar (byte : UInt8) (rest : List UInt8) : Except Fault (List UInt8) :=
  if byte = Byte.quote then skipText rest
  else if byte = Byte.letterN then scanWord nullTail rest
  else if byte = Byte.letterT then scanWord trueTail rest
  else if byte = Byte.letterF then scanWord falseTail rest
  else if byte = Byte.minus then skipNumber rest
  else if Byte.isDigit byte then skipNumber (byte :: rest)
  else .error (.looking .expectedValue (byte :: rest))

/-- The colon between a key and its value. -/
def scanColon (bytes : List UInt8) : Except Fault (List UInt8) :=
  match skipBlanks bytes with
  | [] => .error (.looking .endInObject [])
  | byte :: rest =>
    if byte = Byte.colon then .ok rest else .error (.looking .expectedColon (byte :: rest))

/-- Pass over a key and its colon. -/
def skipKey (bytes : List UInt8) : Except Fault (List UInt8) :=
  match skipBlanks bytes with
  | [] => .error (.looking .endInObject [])
  | byte :: rest =>
    if byte = Byte.quote then (skipText rest).bind scanColon
    else .error (.looking .keyNotText (byte :: rest))

/-! ## Lengths -/

theorem length_lt_of_skipScalar {byte : UInt8} {rest rest' : List UInt8}
    (h : skipScalar byte rest = .ok rest') : rest'.length < (byte :: rest).length := by
  unfold skipScalar at h
  split at h
  · exact Nat.lt_succ_of_lt (length_lt_of_skipText h)
  split at h
  · exact Nat.lt_succ_of_le (length_le_of_scanWord h)
  split at h
  · exact Nat.lt_succ_of_le (length_le_of_scanWord h)
  split at h
  · exact Nat.lt_succ_of_le (length_le_of_scanWord h)
  split at h
  · exact Nat.lt_succ_of_lt (length_lt_of_skipNumber h)
  split at h
  · exact length_lt_of_skipNumber h
  · exact absurd h (by simp)

private theorem length_of_skipBlanks {byte : UInt8} {bytes rest : List UInt8}
    (h : skipBlanks bytes = byte :: rest) : rest.length < bytes.length := by
  have hlen := length_skipBlanks_le bytes
  rw [h, List.length_cons] at hlen
  omega

theorem length_lt_of_scanColon {bytes rest : List UInt8} (h : scanColon bytes = .ok rest) :
    rest.length < bytes.length := by
  unfold scanColon at h
  split at h
  · exact absurd h (by simp)
  · rename_i heq
    have := length_of_skipBlanks heq
    split at h
    · simp_all
    · exact absurd h (by simp)

theorem length_lt_of_skipKey {bytes rest : List UInt8} (h : skipKey bytes = .ok rest) :
    rest.length < bytes.length := by
  unfold skipKey at h
  split at h
  · exact absurd h (by simp)
  · rename_i tail heq
    have := length_of_skipBlanks heq
    split at h
    · cases htext : skipText tail with
      | error f => simp [htext, Except.bind] at h
      | ok tail' =>
        have := length_lt_of_skipText htext
        simp only [htext, Except.bind] at h
        have := length_lt_of_scanColon h
        omega
    · exact absurd h (by simp)

/-! ## Steps -/

/-- Begin a list, behind its bracket. An empty one is passed over at once. -/
def beginList (stack : List Frame) (bytes : List UInt8) : Except Fault (Place × List UInt8) :=
  match skipBlanks bytes with
  | [] => .error (.looking .endInList [])
  | byte :: rest =>
    if byte = Byte.closeBracket then .ok (.behind stack, rest)
    else .ok (.value (.list :: stack), byte :: rest)

/-- Begin an object, behind its brace. An empty one is passed over at once. -/
def beginObject (stack : List Frame) (bytes : List UInt8) : Except Fault (Place × List UInt8) :=
  match skipBlanks bytes with
  | [] => .error (.looking .endInObject [])
  | byte :: rest =>
    if byte = Byte.closeBrace then .ok (.behind stack, rest)
    else (skipKey (byte :: rest)).map fun rest' => (.value (.object :: stack), rest')

/-- Begin the value in front of the bytes. Scalars are passed over at once. -/
def beginValue (stack : List Frame) (bytes : List UInt8) : Except Fault (Place × List UInt8) :=
  match skipBlanks bytes with
  | [] => .error (.looking .endInValue [])
  | byte :: rest =>
    if byte = Byte.openBracket then beginList stack rest
    else if byte = Byte.openBrace then beginObject stack rest
    else (skipScalar byte rest).map fun rest' => (.behind stack, rest')

/-- Go on behind a value inside of a list. -/
def continueList (outer : List Frame) (bytes : List UInt8) : Except Fault (Place × List UInt8) :=
  match skipBlanks bytes with
  | [] => .error (.looking .endInList [])
  | byte :: rest =>
    if byte = Byte.comma then .ok (.value (.list :: outer), rest)
    else if byte = Byte.closeBracket then .ok (.behind outer, rest)
    else .error (.looking .expectedCommaOrBracket (byte :: rest))

/-- Go on behind a value inside of an object. -/
def continueObject (outer : List Frame) (bytes : List UInt8) : Except Fault (Place × List UInt8) :=
  match skipBlanks bytes with
  | [] => .error (.looking .endInObject [])
  | byte :: rest =>
    if byte = Byte.comma then
      (skipKey rest).map fun rest' => (.value (.object :: outer), rest')
    else if byte = Byte.closeBrace then .ok (.behind outer, rest)
    else .error (.looking .expectedCommaOrBrace (byte :: rest))

private theorem length_of_map {α : Type} {place : α} {e : Except Fault (List UInt8)} {a : α}
    {rest : List UInt8} (h : e.map (fun rest' => (place, rest')) = .ok (a, rest)) :
    e = .ok rest := by
  cases e <;> simp_all [Except.map]

theorem length_le_of_beginList {stack : List Frame} {place : Place} {bytes rest : List UInt8}
    (h : beginList stack bytes = .ok (place, rest)) : rest.length ≤ bytes.length := by
  have hlen := length_skipBlanks_le bytes
  unfold beginList at h
  split at h
  · exact absurd h (by simp)
  · rename_i heq
    rw [heq, List.length_cons] at hlen
    split at h
    · simp only [Except.ok.injEq, Prod.mk.injEq] at h
      rw [← h.2]
      omega
    · simp only [Except.ok.injEq, Prod.mk.injEq] at h
      rw [← h.2]
      exact hlen

theorem length_le_of_beginObject {stack : List Frame} {place : Place} {bytes rest : List UInt8}
    (h : beginObject stack bytes = .ok (place, rest)) : rest.length ≤ bytes.length := by
  have hlen := length_skipBlanks_le bytes
  unfold beginObject at h
  split at h
  · exact absurd h (by simp)
  · rename_i heq
    rw [heq] at hlen
    split at h
    · simp only [Except.ok.injEq, Prod.mk.injEq] at h
      rw [List.length_cons] at hlen
      rw [← h.2]
      omega
    · have := length_lt_of_skipKey (length_of_map h)
      omega

theorem length_lt_of_beginValue {stack : List Frame} {place : Place} {bytes rest : List UInt8}
    (h : beginValue stack bytes = .ok (place, rest)) : rest.length < bytes.length := by
  have hlen := length_skipBlanks_le bytes
  unfold beginValue at h
  split at h
  · exact absurd h (by simp)
  · rename_i heq
    rw [heq] at hlen
    split at h
    · exact Nat.lt_of_lt_of_le (Nat.lt_succ_of_le (length_le_of_beginList h)) hlen
    split at h
    · exact Nat.lt_of_lt_of_le (Nat.lt_succ_of_le (length_le_of_beginObject h)) hlen
    · exact Nat.lt_of_lt_of_le (length_lt_of_skipScalar (length_of_map h)) hlen

theorem length_lt_of_continueList {outer : List Frame} {place : Place} {bytes rest : List UInt8}
    (h : continueList outer bytes = .ok (place, rest)) : rest.length < bytes.length := by
  unfold continueList at h
  split at h
  · exact absurd h (by simp)
  · rename_i heq
    have := length_of_skipBlanks heq
    split at h
    · simp_all
    split at h
    · simp_all
    · exact absurd h (by simp)

theorem length_lt_of_continueObject {outer : List Frame} {place : Place} {bytes rest : List UInt8}
    (h : continueObject outer bytes = .ok (place, rest)) : rest.length < bytes.length := by
  unfold continueObject at h
  split at h
  · exact absurd h (by simp)
  · rename_i heq
    have := length_of_skipBlanks heq
    split at h
    · have := length_lt_of_skipKey (length_of_map h)
      omega
    split at h
    · simp_all
    · exact absurd h (by simp)

/-! ## Values -/

/-- One step from a place that is not behind the whole value. -/
def step : Place → List UInt8 → Except Fault (Place × List UInt8)
  | .value stack, bytes => beginValue stack bytes
  | .behind [], bytes => .error (.before .expectedValue bytes)
  | .behind (.list :: outer), bytes => continueList outer bytes
  | .behind (.object :: outer), bytes => continueObject outer bytes

theorem length_lt_of_step {place place' : Place} {bytes rest : List UInt8}
    (h : step place bytes = .ok (place', rest)) : rest.length < bytes.length := by
  unfold step at h
  split at h
  · exact length_lt_of_beginValue h
  · exact absurd h (by simp)
  · exact length_lt_of_continueList h
  · exact length_lt_of_continueObject h

/-- Pass over what is left of a value. -/
def skipFrom (place : Place) (bytes : List UInt8) : Except Fault (List UInt8) :=
  if place = .behind [] then .ok bytes
  else
    match h : step place bytes with
    | .ok (place', rest) =>
      have := length_lt_of_step h
      skipFrom place' rest
    | .error f => .error f
termination_by bytes.length

/-- Pass over a value. -/
def skipValue (bytes : List UInt8) : Except Fault (List UInt8) := skipFrom (.value []) bytes

theorem length_le_of_skipFrom {place : Place} {bytes rest : List UInt8}
    (h : skipFrom place bytes = .ok rest) : rest.length ≤ bytes.length := by
  fun_induction skipFrom place bytes with
  | case1 => simp_all
  | case2 place bytes hplace place' rest' hstep _ ih =>
    have := length_lt_of_step hstep
    have := ih h
    omega
  | case3 => simp_all

/-- Passing over a value takes at least one byte. -/
theorem length_lt_of_skipValue {bytes rest : List UInt8} (h : skipValue bytes = .ok rest) :
    rest.length < bytes.length := by
  unfold skipValue at h
  rw [skipFrom] at h
  simp only [reduceCtorEq, ↓reduceIte] at h
  split at h
  · rename_i place rest' hstep
    exact Nat.lt_of_le_of_lt (length_le_of_skipFrom h) (length_lt_of_step hstep)
  · exact absurd h (by simp)

end PingTun.Json
