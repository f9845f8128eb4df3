-- SUMMARY: What the scanners find in the front of some bytes stays found when more bytes follow.
import PingTun.Proofs.Json.Extent

/-! # Fronts of documents

When reading fails in the middle of a document, only a front of it has been seen. What is found in
a front, a value or a fault, is found in all of the bytes too, whatever they are, unless the end of
the front had been seen by then. A number is an exception: it may go on behind the front, so one
that is followed by nothing tells nothing.
-/

namespace PingTun.Json

/-! ## Outcomes -/

/-- What is taken from the front of some bytes comes with the rest of them, to which more may be
appended. -/
class Leaves (β : Type) where
  rest : β → List UInt8
  append : β → List UInt8 → β

instance : Leaves (List UInt8) := ⟨id, (· ++ ·)⟩

instance {α β : Type} [Leaves β] : Leaves (α × β) where
  rest r := Leaves.rest r.2
  append r more := (r.1, Leaves.append r.2 more)

@[simp] theorem append_bytes (rest more : List UInt8) : Leaves.append rest more = rest ++ more := rfl

@[simp] theorem append_pair {α β : Type} [Leaves β] (a : α) (b : β) (more : List UInt8) :
    Leaves.append (a, b) more = (a, Leaves.append b more) := rfl

/-- What goes wrong may do so because the end is seen. -/
class Fails (ε : Type) where
  sawEnd : ε → Bool

instance : Fails Fault := ⟨Fault.sawEnd⟩

instance : Fails Failure where
  sawEnd
    | .placed f => f.sawEnd
    | .unplaced .. => false

section

variable {ε ε' β γ : Type} [Fails ε] [Fails ε'] [Leaves β] [Leaves γ] {more : List UInt8}

/-- An outcome that depends on the end: it was seen, or nothing is left in front of it. -/
def AtEnd : Except ε β → Prop
  | .ok b => Leaves.rest b = []
  | .error e => Fails.sawEnd e = true

/-- An outcome for a front, and the one for all of the bytes: the same value in front of more, a
failure for a failure, and anything for a failure that saw the end. -/
inductive Persists (more : List UInt8) : Except ε β → Except ε β → Prop
  | taken (b : β) : Persists more (.ok b) (.ok (Leaves.append b more))
  | refused (e e' : ε) : Persists more (.error e) (.error e')
  | cut {e : ε} (h : Fails.sawEnd e = true) (y : Except ε β) : Persists more (.error e) y

theorem Persists.taken_bytes {ε : Type} [Fails ε] (rest more : List UInt8) :
    Persists more (.ok rest : Except ε (List UInt8)) (.ok (rest ++ more)) := .taken rest

theorem Persists.taken_pair {α : Type} (a : α) (b : β) (more : List UInt8) :
    Persists more (.ok (a, b) : Except ε (α × β)) (.ok (a, Leaves.append b more)) := .taken (a, b)

/-- An outcome for a front that persists unless it depends on the end. -/
def Foretells (more : List UInt8) (x y : Except ε β) : Prop := Persists more x y ∨ AtEnd x

theorem Persists.foretells {x y : Except ε β} (h : Persists more x y) : Foretells more x y := .inl h

/-- A failure that has not seen the end is a failure whatever follows. -/
theorem Foretells.exists_error {e : ε} {y : Except ε β} (h : Foretells more (.error e) y)
    (he : Fails.sawEnd e = false) : ∃ e', y = .error e' := by
  rcases h with h | h
  · cases h with
    | refused _ e' => exact ⟨e', rfl⟩
    | cut h => exact absurd (he.symm.trans h) (by decide)
  · exact absurd (he.symm.trans h) (by decide)

variable {x y : Except ε β} {g : β → Except ε γ}

theorem AtEnd.bind (h : AtEnd x) (hg : ∀ b, Leaves.rest b = [] → AtEnd (g b)) :
    AtEnd (x.bind g) := by
  cases x with
  | ok b => exact hg b h
  | error e => exact h

theorem Persists.eq_ok {b : β} (h : Persists more (.ok b : Except ε β) y) :
    y = .ok (Leaves.append b more) := by
  cases h
  rfl

theorem Persists.error_bind {e : ε} (h : Persists more (.error e) y) (g : β → Except ε γ) :
    Persists more (.error e) (y.bind g) := by
  cases h with
  | refused e e' => exact .refused e e'
  | cut h y => exact .cut h _

theorem Persists.map (h : Persists more x y) {g : β → γ}
    (hg : ∀ b, g (Leaves.append b more) = Leaves.append (g b) more) :
    Persists more (x.map g) (y.map g) := by
  cases h with
  | taken b =>
    rw [Except.map, Except.map, hg]
    exact .taken (g b)
  | refused e e' => exact .refused e e'
  | cut h y => exact .cut h _

theorem AtEnd.map (h : AtEnd x) {g : β → γ} (hg : ∀ b, Leaves.rest (g b) = Leaves.rest b) :
    AtEnd (x.map g) := by
  cases x with
  | ok b => exact (hg b).trans h
  | error e => exact h

theorem Foretells.map (h : Foretells more x y) {g : β → γ}
    (hg : ∀ b, g (Leaves.append b more) = Leaves.append (g b) more)
    (hrest : ∀ b, Leaves.rest (g b) = Leaves.rest b) : Foretells more (x.map g) (y.map g) :=
  h.imp (·.map hg) (·.map hrest)

theorem Persists.mapError {f : ε → ε'} (hf : ∀ e, Fails.sawEnd (f e) = Fails.sawEnd e)
    (h : Persists more x y) : Persists more (x.mapError f) (y.mapError f) := by
  cases h with
  | taken b => exact .taken b
  | refused e e' => exact .refused (f e) (f e')
  | @cut e h y => exact .cut ((hf e).trans h) _

theorem AtEnd.mapError {f : ε → ε'} (hf : ∀ e, Fails.sawEnd (f e) = Fails.sawEnd e)
    (h : AtEnd x) : AtEnd (x.mapError f) := by
  cases x with
  | ok b => exact h
  | error e => exact (hf e).trans h

theorem Foretells.mapError {f : ε → ε'} (hf : ∀ e, Fails.sawEnd (f e) = Fails.sawEnd e)
    (h : Foretells more x y) : Foretells more (x.mapError f) (y.mapError f) :=
  h.imp (·.mapError hf) (·.mapError hf)

theorem Persists.bind (h : Persists more x y)
    (hg : ∀ b, Persists more (g b) (g (Leaves.append b more))) :
    Persists more (x.bind g) (y.bind g) := by
  cases h with
  | taken b => exact hg b
  | refused e e' => exact .refused e e'
  | cut h y => exact .cut h _

theorem Foretells.bind (h : Foretells more x y)
    (hg : ∀ b, x = .ok b → Foretells more (g b) (g (Leaves.append b more)))
    (hend : ∀ b, Leaves.rest b = [] → AtEnd (g b)) :
    Foretells more (x.bind g) (y.bind g) := by
  rcases h with h | h
  · cases h with
    | taken b => exact hg b rfl
    | refused e e' => exact .inl (.refused e e')
    | cut h y => exact .inl (.cut h _)
  · exact .inr (h.bind hend)

theorem Persists.bind_foretells (h : Persists more x y)
    (hg : ∀ b, x = .ok b → Foretells more (g b) (g (Leaves.append b more))) :
    Foretells more (x.bind g) (y.bind g) := by
  cases h with
  | taken b => exact hg b rfl
  | refused e e' => exact .inl (.refused e e')
  | cut h y => exact .inl (.cut h _)

end

variable {bytes more : List UInt8}

/-! ## Blanks and words -/

/-- What is passed over in a front is all of it, or no more in front of other bytes. -/
theorem dropWhile_append_cases (p : UInt8 → Bool) (bytes more : List UInt8) :
    bytes.dropWhile p = [] ∨ ∃ byte rest,
      bytes.dropWhile p = byte :: rest ∧ (bytes ++ more).dropWhile p = byte :: (rest ++ more) := by
  cases h : bytes.dropWhile p with
  | nil => exact .inl rfl
  | cons byte rest =>
    refine .inr ⟨byte, rest, rfl, ?_⟩
    rw [List.dropWhile_append, h]
    rfl

theorem skipBlanks_append_cases (bytes more : List UInt8) :
    skipBlanks bytes = [] ∨ ∃ byte rest,
      skipBlanks bytes = byte :: rest ∧ skipBlanks (bytes ++ more) = byte :: (rest ++ more) :=
  dropWhile_append_cases Byte.isBlank bytes more

theorem skipDigits_append_cases (bytes more : List UInt8) :
    skipDigits bytes = [] ∨ ∃ byte rest,
      skipDigits bytes = byte :: rest ∧ skipDigits (bytes ++ more) = byte :: (rest ++ more) :=
  dropWhile_append_cases Byte.isDigit bytes more

theorem scanWord_persists (letters bytes more : List UInt8) :
    Persists more (scanWord letters bytes) (scanWord letters (bytes ++ more)) := by
  induction letters generalizing bytes with
  | nil => exact .taken _
  | cons letter letters ih =>
    cases bytes with
    | nil => exact .cut rfl _
    | cons byte rest =>
      rw [List.cons_append, scanWord, scanWord]
      split
      · exact ih rest
      · exact .refused _ _

/-! ## Strings -/

theorem scanHex_persists (bytes more : List UInt8) :
    Persists more (scanHex bytes) (scanHex (bytes ++ more)) := by
  match bytes with
  | [] | [_] | [_, _] | [_, _, _] => exact .cut rfl _
  | a :: b :: c :: d :: rest =>
    simp only [List.cons_append, scanHex]
    split
    · exact .taken _
    · exact .refused _ _

theorem scanTrailing_persists (leading : Nat) (bytes more : List UInt8) :
    Persists more (scanTrailing leading bytes) (scanTrailing leading (bytes ++ more)) := by
  match bytes with
  | [] => exact .cut rfl _
  | [first] =>
    simp only [List.singleton_append, scanTrailing]
    split
    · exact .cut rfl _
    · exact .refused _ _
  | first :: second :: rest =>
    simp only [List.cons_append, scanTrailing]
    split
    · split
      · refine (scanHex_persists rest more).bind ?_
        rintro ⟨n, rest⟩
        simp only [append_pair, append_bytes]
        split
        · exact .taken_pair _ rest more
        · exact .refused _ _
      · exact .refused _ _
    · exact .refused _ _

theorem scanEscape_persists (bytes more : List UInt8) :
    Persists more (scanEscape bytes) (scanEscape (bytes ++ more)) := by
  cases bytes with
  | nil => exact .cut rfl _
  | cons byte rest =>
    rw [List.cons_append, scanEscape, scanEscape]
    split
    · exact .taken _
    split
    · refine (scanHex_persists rest more).bind ?_
      rintro ⟨n, rest⟩
      simp only [append_pair, append_bytes]
      split
      · exact .refused _ _
      split
      · exact scanTrailing_persists n rest more
      · exact .taken _
    · exact .refused _ _

theorem scanBytes_persists (taken bytes more : List UInt8) :
    Persists more (scanBytes taken bytes) (scanBytes taken (bytes ++ more)) := by
  fun_induction scanBytes taken bytes with
  | case1 => exact .cut rfl _
  | case2 taken rest =>
    rw [List.cons_append, scanBytes_quote]
    exact .taken_pair _ rest more
  | case3 taken rest c rest' hescape _ _ ih =>
    have h := scanEscape_persists rest more
    rw [hescape] at h
    rw [List.reverseAux_eq] at ih ⊢
    rw [List.cons_append, scanBytes_escape, h.eq_ok]
    exact ih
  | case4 taken rest f hescape =>
    have h := scanEscape_persists rest more
    rw [hescape] at h
    rw [List.cons_append, scanBytes_escape]
    exact h.error_bind _
  | case5 taken byte rest hquote hbackslash hcontrol =>
    rw [List.cons_append, scanBytes, if_neg hquote, if_neg hbackslash, if_pos hcontrol]
    exact .refused _ _
  | case6 taken byte rest hquote hbackslash hcontrol ih =>
    rw [List.cons_append, scanBytes, if_neg hquote, if_neg hbackslash, if_neg hcontrol]
    exact ih

theorem scanText_eq_bind (bytes : List UInt8) :
    scanText bytes = (scanBytes [] bytes).bind fun (text, rest) =>
      match Text.decode text with
      | .ok cs => .ok (cs, rest)
      | .error broken => .error (brokenText broken rest) := by
  rw [scanText]
  cases scanBytes [] bytes <;> rfl

theorem scanText_persists (bytes more : List UInt8) :
    Persists more (scanText bytes) (scanText (bytes ++ more)) := by
  rw [scanText_eq_bind, scanText_eq_bind]
  refine (scanBytes_persists [] bytes more).bind ?_
  rintro ⟨text, rest⟩
  simp only [append_pair, append_bytes]
  split
  · exact .taken_pair _ rest more
  · exact .refused _ _

theorem skipEscape_persists (bytes more : List UInt8) :
    Persists more (skipEscape bytes) (skipEscape (bytes ++ more)) := by
  cases bytes with
  | nil => exact .cut rfl _
  | cons byte rest =>
    rw [List.cons_append, skipEscape, skipEscape]
    split
    · exact .taken_bytes rest more
    split
    · exact (scanHex_persists rest more).map fun _ => rfl
    · exact .refused _ _

theorem skipText_persists (bytes more : List UInt8) :
    Persists more (skipText bytes) (skipText (bytes ++ more)) := by
  fun_induction skipText bytes with
  | case1 => exact .cut rfl _
  | case2 rest =>
    rw [List.cons_append, skipText_quote]
    exact .taken_bytes rest more
  | case3 rest rest' hescape _ _ ih =>
    have h := skipEscape_persists rest more
    rw [hescape] at h
    rw [List.cons_append, skipText_escape, h.eq_ok]
    exact ih
  | case4 rest f hescape =>
    have h := skipEscape_persists rest more
    rw [hescape] at h
    rw [List.cons_append, skipText_escape]
    exact h.error_bind _
  | case5 byte rest hquote hbackslash hcontrol =>
    rw [List.cons_append, skipText, if_neg hquote, if_neg hbackslash, if_pos hcontrol]
    exact .refused _ _
  | case6 byte rest hquote hbackslash hcontrol ih =>
    rw [List.cons_append, skipText, if_neg hquote, if_neg hbackslash, if_neg hcontrol]
    exact ih

/-! ## Digits -/

theorem startsWithDigit_cons_append (byte : UInt8) (rest more : List UInt8) :
    startsWithDigit (byte :: (rest ++ more)) = startsWithDigit (byte :: rest) := rfl

theorem takeDigits_append_cases (bound n : Nat) (bytes more : List UInt8) :
    (∃ m, takeDigits bound n bytes = (m, [])) ∨
      ∃ m byte rest, takeDigits bound n bytes = (m, byte :: rest) ∧
        takeDigits bound n (bytes ++ more) = (m, byte :: (rest ++ more)) := by
  induction bytes generalizing n with
  | nil => exact .inl ⟨n, rfl⟩
  | cons byte rest ih =>
    rw [List.cons_append, takeDigits, takeDigits]
    split
    · exact ih _
    · exact .inr ⟨n, byte, rest, rfl, rfl⟩

/-! ## Values of numbers -/

section

variable {isNegative isUpward : Bool} {significand first dropped : Nat} {exponent : Int}
  (bytes more : List UInt8)

theorem floatOf_foretells :
    Foretells more (floatOf isNegative significand exponent bytes)
      (floatOf isNegative significand exponent (bytes ++ more)) := by
  unfold floatOf
  split
  · exact .inl (.taken_pair _ bytes more)
  · exact .inl (.refused _ _)

theorem floatOf_atEnd : AtEnd (floatOf isNegative significand exponent []) := by
  unfold floatOf
  split
  · rfl
  · rfl

theorem scanExponentDigits_foretells :
    Foretells more (scanExponentDigits isNegative significand exponent isUpward first bytes)
      (scanExponentDigits isNegative significand exponent isUpward first (bytes ++ more)) := by
  rcases takeDigits_append_cases greatestExponent first bytes more with
    ⟨n, h⟩ | ⟨n, byte, rest, h, hmore⟩
  · simp only [scanExponentDigits, h]
    exact .inr floatOf_atEnd
  · simp only [scanExponentDigits, h, hmore, startsWithDigit]
    split
    · split
      · exact .inl (.refused _ _)
      · rcases skipDigits_append_cases (byte :: rest) more with h | ⟨byte', rest', h, hmore⟩
        · exact .inr h
        · rw [h, ← List.cons_append, hmore]
          exact .inl (.taken_pair _ (byte' :: rest') more)
    · exact floatOf_foretells (byte :: rest) more

theorem scanUnsignedExponent_foretells :
    Foretells more (scanUnsignedExponent isNegative significand exponent isUpward bytes)
      (scanUnsignedExponent isNegative significand exponent isUpward (bytes ++ more)) := by
  cases bytes with
  | nil => exact .inl (.cut rfl _)
  | cons byte rest =>
    rw [List.cons_append, scanUnsignedExponent, scanUnsignedExponent]
    split
    · exact scanExponentDigits_foretells rest more
    · exact .inl (.refused _ _)

theorem scanExponent_foretells :
    Foretells more (scanExponent isNegative significand exponent bytes)
      (scanExponent isNegative significand exponent (bytes ++ more)) := by
  cases bytes with
  | nil => exact .inl (.cut rfl _)
  | cons byte rest =>
    rw [List.cons_append, scanExponent, scanExponent]
    split
    · exact scanUnsignedExponent_foretells rest more
    split
    · exact scanUnsignedExponent_foretells rest more
    · exact scanUnsignedExponent_foretells (byte :: rest) more

theorem scanFloatEnd_foretells :
    Foretells more (scanFloatEnd isNegative significand exponent bytes)
      (scanFloatEnd isNegative significand exponent (bytes ++ more)) := by
  cases bytes with
  | nil => exact .inr floatOf_atEnd
  | cons byte rest =>
    rw [List.cons_append, scanFloatEnd, scanFloatEnd]
    split
    · exact scanExponent_foretells rest more
    · exact floatOf_foretells (byte :: rest) more

theorem scanFraction_foretells :
    Foretells more (scanFraction isNegative significand exponent bytes)
      (scanFraction isNegative significand exponent (bytes ++ more)) := by
  rcases takeDigits_append_cases greatestSignificand significand bytes more with
    ⟨n, h⟩ | ⟨n, byte, rest, h, hmore⟩
  · simp only [scanFraction, h, startsWithDigit, Bool.false_eq_true, if_false]
    split
    · exact .inl (.cut rfl _)
    · exact .inr floatOf_atEnd
  · -- As many digits have been taken in front of more bytes.
    have hplaces : (bytes ++ more).length - (byte :: (rest ++ more)).length =
        bytes.length - (byte :: rest).length := by
      simp only [List.length_append, List.length_cons]
      omega
    simp only [scanFraction, h, hmore, startsWithDigit, hplaces]
    split
    · rcases skipDigits_append_cases (byte :: rest) more with h | ⟨byte', rest', h, hmore⟩
      · rw [h]
        exact .inr floatOf_atEnd
      · rw [h, ← List.cons_append, hmore]
        exact scanFloatEnd_foretells (byte' :: rest') more
    split
    · exact .inl (.refused _ _)
    · exact scanFloatEnd_foretells (byte :: rest) more

theorem integerOf_foretells :
    Foretells more (integerOf isNegative significand dropped bytes)
      (integerOf isNegative significand dropped (bytes ++ more)) := by
  rw [integerOf, integerOf]
  split
  · exact floatOf_foretells bytes more
  split
  · exact .inl (.taken_pair _ bytes more)
  split
  · exact .inl (.taken_pair _ bytes more)
  · exact floatOf_foretells bytes more

theorem integerOf_atEnd : AtEnd (integerOf isNegative significand dropped []) := by
  rw [integerOf]
  split
  · exact floatOf_atEnd
  split
  · rfl
  split
  · rfl
  · exact floatOf_atEnd

theorem scanNumberEnd_foretells :
    Foretells more (scanNumberEnd isNegative significand dropped bytes)
      (scanNumberEnd isNegative significand dropped (bytes ++ more)) := by
  cases bytes with
  | nil => exact .inr integerOf_atEnd
  | cons byte rest =>
    rw [List.cons_append, scanNumberEnd, scanNumberEnd]
    split
    · exact scanFraction_foretells rest more
    split
    · exact scanExponent_foretells rest more
    · exact integerOf_foretells (byte :: rest) more

end

theorem scanNumber_foretells (isNegative : Bool) (bytes more : List UInt8) :
    Foretells more (scanNumber isNegative bytes) (scanNumber isNegative (bytes ++ more)) := by
  cases bytes with
  | nil => exact .inl (.cut rfl _)
  | cons byte rest =>
    rw [List.cons_append, scanNumber, scanNumber]
    split
    · cases rest with
      | nil =>
        rw [startsWithDigit, if_neg Bool.false_ne_true]
        exact .inr integerOf_atEnd
      | cons byte' rest =>
        rw [List.cons_append, startsWithDigit_cons_append]
        split
        · exact .inl (.refused _ _)
        · exact scanNumberEnd_foretells (byte' :: rest) more
    split
    · rcases takeDigits_append_cases greatestSignificand (digitValue byte) rest more with
        ⟨n, h⟩ | ⟨n, byte', rest', h, hmore⟩
      · rw [h]
        exact .inr integerOf_atEnd
      rw [h, hmore]
      dsimp only
      rcases skipDigits_append_cases (byte' :: rest') more with h | ⟨last, behind, h, hmore⟩
      · rw [h]
        exact .inr integerOf_atEnd
      · -- As many digits have been passed over in front of more bytes.
        have hdropped : (byte' :: (rest' ++ more)).length - (last :: (behind ++ more)).length =
            (byte' :: rest').length - (last :: behind).length := by
          simp only [List.length_append, List.length_cons]
          omega
        rw [h, ← List.cons_append, hmore, List.cons_append, hdropped]
        exact scanNumberEnd_foretells (last :: behind) more
    · exact .inl (.refused _ _)

/-! ## Extents of numbers -/

theorem skipDigits_foretells (bytes more : List UInt8) :
    Foretells more (.ok (skipDigits bytes) : Except Fault _) (.ok (skipDigits (bytes ++ more))) := by
  rcases skipDigits_append_cases bytes more with h | ⟨byte, rest, h, hmore⟩
  · exact .inr h
  · rw [h, hmore]
    exact .inl (.taken_bytes (byte :: rest) more)

theorem skipExponentDigits_foretells (bytes more : List UInt8) :
    Foretells more (skipExponentDigits bytes) (skipExponentDigits (bytes ++ more)) := by
  cases bytes with
  | nil => exact .inl (.cut rfl _)
  | cons byte rest =>
    rw [List.cons_append, skipExponentDigits, skipExponentDigits]
    split
    · exact skipDigits_foretells rest more
    · exact .inl (.refused _ _)

theorem skipExponent_foretells (bytes more : List UInt8) :
    Foretells more (skipExponent bytes) (skipExponent (bytes ++ more)) := by
  cases bytes with
  | nil => exact .inl (.cut rfl _)
  | cons byte rest =>
    rw [List.cons_append, skipExponent, skipExponent]
    split
    · exact skipExponentDigits_foretells rest more
    · exact skipExponentDigits_foretells (byte :: rest) more

theorem skipFloatEnd_foretells (bytes more : List UInt8) :
    Foretells more (skipFloatEnd bytes) (skipFloatEnd (bytes ++ more)) := by
  cases bytes with
  | nil => exact .inr rfl
  | cons byte rest =>
    rw [List.cons_append, skipFloatEnd, skipFloatEnd]
    split
    · exact skipExponent_foretells rest more
    · exact .inl (.taken_bytes (byte :: rest) more)

theorem skipNumberEnd_foretells (bytes more : List UInt8) :
    Foretells more (skipNumberEnd bytes) (skipNumberEnd (bytes ++ more)) := by
  cases bytes with
  | nil => exact .inr rfl
  | cons byte rest =>
    rw [List.cons_append, skipNumberEnd, skipNumberEnd]
    split
    · cases rest with
      | nil => exact .inl (.cut rfl _)
      | cons byte' rest =>
        rw [List.cons_append, startsWithDigit_cons_append]
        split
        · exact (skipDigits_foretells (byte' :: rest) more).bind
            (fun behind _ => skipFloatEnd_foretells behind more) (by rintro _ rfl; rfl)
        · exact .inl (.refused _ _)
    · exact skipFloatEnd_foretells (byte :: rest) more

theorem skipNumber_foretells (bytes more : List UInt8) :
    Foretells more (skipNumber bytes) (skipNumber (bytes ++ more)) := by
  cases bytes with
  | nil => exact .inl (.cut rfl _)
  | cons byte rest =>
    rw [List.cons_append, skipNumber, skipNumber]
    split
    · cases rest with
      | nil => exact .inr rfl
      | cons byte' rest =>
        rw [List.cons_append, startsWithDigit_cons_append]
        split
        · exact .inl (.refused _ _)
        · exact skipNumberEnd_foretells (byte' :: rest) more
    split
    · exact (skipDigits_foretells rest more).bind
        (fun behind _ => skipNumberEnd_foretells behind more) (by rintro _ rfl; rfl)
    · exact .inl (.refused _ _)

/-! ## Values passed over -/

theorem skipScalar_foretells (byte : UInt8) (rest more : List UInt8) :
    Foretells more (skipScalar byte rest) (skipScalar byte (rest ++ more)) := by
  rw [skipScalar, skipScalar]
  split
  · exact (skipText_persists rest more).foretells
  split
  · exact (scanWord_persists nullTail rest more).foretells
  split
  · exact (scanWord_persists trueTail rest more).foretells
  split
  · exact (scanWord_persists falseTail rest more).foretells
  split
  · exact skipNumber_foretells rest more
  split
  · exact skipNumber_foretells (byte :: rest) more
  · exact .inl (.refused _ _)

theorem scanColon_persists (bytes more : List UInt8) :
    Persists more (scanColon bytes) (scanColon (bytes ++ more)) := by
  rw [scanColon, scanColon]
  rcases skipBlanks_append_cases bytes more with h | ⟨byte, rest, h, hmore⟩
  · rw [h]
    exact .cut rfl _
  · rw [h, hmore]
    dsimp only
    split
    · exact .taken_bytes rest more
    · exact .refused _ _

theorem skipKey_persists (bytes more : List UInt8) :
    Persists more (skipKey bytes) (skipKey (bytes ++ more)) := by
  rw [skipKey, skipKey]
  rcases skipBlanks_append_cases bytes more with h | ⟨byte, rest, h, hmore⟩
  · rw [h]
    exact .cut rfl _
  · rw [h, hmore]
    dsimp only
    split
    · exact (skipText_persists rest more).bind fun rest => scanColon_persists rest more
    · exact .refused _ _

theorem beginList_persists (stack : List Frame) (bytes more : List UInt8) :
    Persists more (beginList stack bytes) (beginList stack (bytes ++ more)) := by
  rw [beginList, beginList]
  rcases skipBlanks_append_cases bytes more with h | ⟨byte, rest, h, hmore⟩
  · rw [h]
    exact .cut rfl _
  · rw [h, hmore]
    dsimp only
    split
    · exact .taken_pair _ rest more
    · exact .taken_pair _ (byte :: rest) more

theorem beginObject_persists (stack : List Frame) (bytes more : List UInt8) :
    Persists more (beginObject stack bytes) (beginObject stack (bytes ++ more)) := by
  rw [beginObject, beginObject]
  rcases skipBlanks_append_cases bytes more with h | ⟨byte, rest, h, hmore⟩
  · rw [h]
    exact .cut rfl _
  · rw [h, hmore]
    dsimp only
    split
    · exact .taken_pair _ rest more
    · exact (skipKey_persists (byte :: rest) more).map fun _ => rfl

theorem beginValue_foretells (stack : List Frame) (bytes more : List UInt8) :
    Foretells more (beginValue stack bytes) (beginValue stack (bytes ++ more)) := by
  rw [beginValue, beginValue]
  rcases skipBlanks_append_cases bytes more with h | ⟨byte, rest, h, hmore⟩
  · rw [h]
    exact .inl (.cut rfl _)
  · rw [h, hmore]
    dsimp only
    split
    · exact (beginList_persists stack rest more).foretells
    split
    · exact (beginObject_persists stack rest more).foretells
    · exact (skipScalar_foretells byte rest more).map (fun _ => rfl) fun _ => rfl

theorem continueList_persists (outer : List Frame) (bytes more : List UInt8) :
    Persists more (continueList outer bytes) (continueList outer (bytes ++ more)) := by
  rw [continueList, continueList]
  rcases skipBlanks_append_cases bytes more with h | ⟨byte, rest, h, hmore⟩
  · rw [h]
    exact .cut rfl _
  · rw [h, hmore]
    dsimp only
    split
    · exact .taken_pair _ rest more
    split
    · exact .taken_pair _ rest more
    · exact .refused _ _

theorem continueObject_persists (outer : List Frame) (bytes more : List UInt8) :
    Persists more (continueObject outer bytes) (continueObject outer (bytes ++ more)) := by
  rw [continueObject, continueObject]
  rcases skipBlanks_append_cases bytes more with h | ⟨byte, rest, h, hmore⟩
  · rw [h]
    exact .cut rfl _
  · rw [h, hmore]
    dsimp only
    split
    · exact (skipKey_persists rest more).map fun _ => rfl
    split
    · exact .taken_pair _ rest more
    · exact .refused _ _

theorem step_foretells (place : Place) (bytes more : List UInt8) :
    Foretells more (step place bytes) (step place (bytes ++ more)) := by
  match place with
  | .value stack => exact beginValue_foretells stack bytes more
  | .behind [] => exact .inl (.refused _ _)
  | .behind (.list :: outer) => exact (continueList_persists outer bytes more).foretells
  | .behind (.object :: outer) => exact (continueObject_persists outer bytes more).foretells

theorem step_nil_atEnd {place : Place} (h : place ≠ .behind []) : AtEnd (step place []) := by
  match place with
  | .value stack => rfl
  | .behind [] => exact absurd rfl h
  | .behind (.list :: outer) => rfl
  | .behind (.object :: outer) => rfl

theorem skipFrom_nil_atEnd (place : Place) : AtEnd (skipFrom place []) := by
  rw [skipFrom]
  split
  · rfl
  · rename_i hplace
    have hend := step_nil_atEnd hplace
    split
    · rename_i hstep
      exact absurd (length_lt_of_step hstep) (Nat.not_lt_zero _)
    · rename_i hstep
      rw [hstep] at hend
      exact hend

theorem skipFrom_eq_bind {place : Place} (h : place ≠ .behind []) (bytes : List UInt8) :
    skipFrom place bytes = (step place bytes).bind fun (place', rest) => skipFrom place' rest := by
  rw [skipFrom, if_neg h]
  split
  · rename_i hstep
    dsimp only
    rw [hstep]
    rfl
  · rename_i hstep
    rw [hstep]
    rfl

theorem skipFrom_foretells (place : Place) (bytes more : List UInt8) :
    Foretells more (skipFrom place bytes) (skipFrom place (bytes ++ more)) := by
  induction hlength : bytes.length using Nat.strongRecOn generalizing place bytes with
  | ind length ih =>
    by_cases hplace : place = .behind []
    · subst hplace
      rw [skipFrom, skipFrom, if_pos rfl, if_pos rfl]
      exact .inl (.taken_bytes bytes more)
    · rw [skipFrom_eq_bind hplace, skipFrom_eq_bind hplace]
      apply (step_foretells place bytes more).bind
      · rintro ⟨place', rest⟩ hstep
        exact ih _ (hlength ▸ length_lt_of_step hstep) place' rest rfl
      · rintro ⟨place', rest⟩ hend
        obtain rfl : rest = [] := hend
        exact skipFrom_nil_atEnd place'

theorem skipValue_foretells (bytes more : List UInt8) :
    Foretells more (skipValue bytes) (skipValue (bytes ++ more)) :=
  skipFrom_foretells (.value []) bytes more

end PingTun.Json
