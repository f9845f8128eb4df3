-- SUMMARY: Scanners of JSON: blanks, words, digits, and the characters of strings.
import PingTun.Json.Fault
import PingTun.Text.Utf8

/-! # Scanners

Each scanner takes what it is for from the front of the bytes and gives back the rest. Strings are
scanned in two ways: their text is decoded once their end has been found, or they are only passed
over, in which case neither their bytes nor their surrogate escapes need to make up characters.
-/

namespace PingTun.Json

/-! ## Bytes of the grammar -/

namespace Byte

abbrev quote : UInt8 := 0x22
abbrev plus : UInt8 := 0x2B
abbrev comma : UInt8 := 0x2C
abbrev minus : UInt8 := 0x2D
abbrev point : UInt8 := 0x2E
abbrev slash : UInt8 := 0x2F
abbrev zero : UInt8 := 0x30
abbrev colon : UInt8 := 0x3A
abbrev openBracket : UInt8 := 0x5B
abbrev backslash : UInt8 := 0x5C
abbrev closeBracket : UInt8 := 0x5D
abbrev letterB : UInt8 := 0x62
abbrev letterF : UInt8 := 0x66
abbrev letterN : UInt8 := 0x6E
abbrev letterR : UInt8 := 0x72
abbrev letterT : UInt8 := 0x74
abbrev letterU : UInt8 := 0x75
abbrev openBrace : UInt8 := 0x7B
abbrev closeBrace : UInt8 := 0x7D

def isBlank (b : UInt8) : Bool := b == 0x20 || b == 0x09 || b == 0x0A || b == 0x0D

def isDigit (b : UInt8) : Bool := 0x30 ≤ b && b ≤ 0x39

def isExponentMark (b : UInt8) : Bool := b == 0x65 || b == 0x45

/-- The value of a hexadecimal digit of either case. -/
def hexDigit? (b : UInt8) : Option Nat :=
  if isDigit b then some (b.toNat - 0x30)
  else if 0x41 ≤ b ∧ b ≤ 0x46 then some (b.toNat - 0x41 + 10)
  else if 0x61 ≤ b ∧ b ≤ 0x66 then some (b.toNat - 0x61 + 10)
  else none

end Byte

/-- What is left behind spaces, tabulators and ends of lines. -/
def skipBlanks (bytes : List UInt8) : List UInt8 := bytes.dropWhile Byte.isBlank

theorem length_skipBlanks_le (bytes : List UInt8) :
    (skipBlanks bytes).length ≤ bytes.length :=
  (List.dropWhile_sublist _).length_le

/-! ## Words -/

/-- Pass over given letters. -/
def scanWord : List UInt8 → List UInt8 → Except Fault (List UInt8)
  | [], bytes => .ok bytes
  | _ :: _, [] => .error (.looking .endInValue [])
  | letter :: letters, byte :: rest =>
    if byte = letter then scanWord letters rest else .error (.before .expectedWord rest)

/-- What follows the first letter of `null`. -/
def nullTail : List UInt8 := [0x75, 0x6C, 0x6C]

/-- What follows the first letter of `true`. -/
def trueTail : List UInt8 := [0x72, 0x75, 0x65]

/-- What follows the first letter of `false`. -/
def falseTail : List UInt8 := [0x61, 0x6C, 0x73, 0x65]

theorem length_le_of_scanWord {letters bytes rest : List UInt8}
    (h : scanWord letters bytes = .ok rest) : rest.length ≤ bytes.length := by
  induction letters generalizing bytes with
  | nil =>
    simp only [scanWord, Except.ok.injEq] at h
    simp [h]
  | cons letter letters ih =>
    cases bytes with
    | nil => simp [scanWord] at h
    | cons byte bytes =>
      simp only [scanWord] at h
      split at h
      · exact Nat.le_succ_of_le (ih h)
      · exact absurd h (by simp)

/-! ## Escapes -/

/-- The four hexadecimal digits of an escape. All four bytes are taken before they are judged. -/
def scanHex : List UInt8 → Except Fault (Nat × List UInt8)
  | a :: b :: c :: d :: rest =>
    match Byte.hexDigit? a, Byte.hexDigit? b, Byte.hexDigit? c, Byte.hexDigit? d with
    | some a, some b, some c, some d => .ok (((a * 16 + b) * 16 + c) * 16 + d, rest)
    | _, _, _, _ => .error (.before .invalidEscape rest)
  | _ => .error (.looking .endInString [])

def isLeadingSurrogate (n : Nat) : Bool := 0xD800 ≤ n && n ≤ 0xDBFF

def isTrailingSurrogate (n : Nat) : Bool := 0xDC00 ≤ n && n ≤ 0xDFFF

/-- The trailing half of a pair of surrogates, of which `leading` is the first. It is an escape of
its own; a byte that cannot begin it is taken all the same. -/
def scanTrailing (leading : Nat) : List UInt8 → Except Fault (Char × List UInt8)
  | [] => .error (.looking .endInString [])
  | first :: rest =>
    if first = Byte.backslash then
      match rest with
      | [] => .error (.looking .endInString [])
      | second :: rest' =>
        if second = Byte.letterU then do
          let (trailing, rest'') ← scanHex rest'
          if isTrailingSurrogate trailing then
            .ok (Char.ofNat (0x10000 + (leading - 0xD800) * 0x400 + (trailing - 0xDC00)), rest'')
          else
            .error (.before .loneSurrogate rest'')
        else
          .error (.before .endOfEscape rest')
    else
      .error (.before .endOfEscape rest)

/-- The character that a letter behind a backslash stands for. -/
def escaped? (b : UInt8) : Option Char :=
  if b = Byte.quote then some '"'
  else if b = Byte.backslash then some '\\'
  else if b = Byte.slash then some '/'
  else if b = Byte.letterB then some '\x08'
  else if b = Byte.letterF then some '\x0c'
  else if b = Byte.letterN then some '\n'
  else if b = Byte.letterR then some '\r'
  else if b = Byte.letterT then some '\t'
  else none

/-- The character of an escape, behind its backslash. -/
def scanEscape : List UInt8 → Except Fault (Char × List UInt8)
  | [] => .error (.looking .endInString [])
  | byte :: rest =>
    match escaped? byte with
    | some c => .ok (c, rest)
    | none =>
      if byte = Byte.letterU then do
        let (n, rest') ← scanHex rest
        if isTrailingSurrogate n then .error (.before .loneSurrogate rest')
        else if isLeadingSurrogate n then scanTrailing n rest'
        else .ok (Char.ofNat n, rest')
      else
        .error (.before .invalidEscape rest)

theorem length_le_of_scanHex {bytes rest : List UInt8} {n : Nat}
    (h : scanHex bytes = .ok (n, rest)) : rest.length ≤ bytes.length := by
  unfold scanHex at h
  split at h
  · split at h
    · simp only [Except.ok.injEq, Prod.mk.injEq] at h
      simp only [← h.2, List.length_cons]
      omega
    · exact absurd h (by simp)
  · exact absurd h (by simp)

private theorem length_le_of_scanTrailing {leading : Nat} {bytes rest : List UInt8} {c : Char}
    (h : scanTrailing leading bytes = .ok (c, rest)) : rest.length ≤ bytes.length := by
  unfold scanTrailing at h
  split at h
  · exact absurd h (by simp)
  split at h
  · split at h
    · exact absurd h (by simp)
    · rename_i tail
      split at h
      · cases hhex : scanHex tail with
        | error f => simp [hhex, bind, Except.bind] at h
        | ok result =>
          have := length_le_of_scanHex hhex
          simp only [hhex, bind, Except.bind] at h
          split at h
          · simp only [Except.ok.injEq, Prod.mk.injEq] at h
            simp only [← h.2, List.length_cons]
            omega
          · exact absurd h (by simp)
      · exact absurd h (by simp)
  · exact absurd h (by simp)

theorem length_le_of_scanEscape {bytes rest : List UInt8} {c : Char}
    (h : scanEscape bytes = .ok (c, rest)) : rest.length ≤ bytes.length := by
  unfold scanEscape at h
  split at h
  · exact absurd h (by simp)
  · rename_i byte tail
    split at h
    · simp_all
    · split at h
      · cases hhex : scanHex tail with
        | error f => simp [hhex, bind, Except.bind] at h
        | ok result =>
          have := length_le_of_scanHex hhex
          simp only [hhex, bind, Except.bind] at h
          split at h
          · exact absurd h (by simp)
          · split at h
            · have := length_le_of_scanTrailing h
              simp only [List.length_cons]
              omega
            · simp only [Except.ok.injEq, Prod.mk.injEq] at h
              simp only [← h.2, List.length_cons]
              omega
      · exact absurd h (by simp)

/-! ## Strings -/

/-- The bytes that a string spells up to its closing quote, behind those already `taken`, the last
of which comes first. Escapes are resolved, and all other bytes stand for themselves. -/
def scanBytes (taken : List UInt8) (bytes : List UInt8) :
    Except Fault (List UInt8 × List UInt8) :=
  match bytes with
  | [] => .error (.looking .endInString [])
  | byte :: rest =>
    if byte = Byte.quote then .ok (taken.reverse, rest)
    else if byte = Byte.backslash then
      match h : scanEscape rest with
      | .ok (c, rest') =>
        have := length_le_of_scanEscape h
        scanBytes ((String.utf8EncodeChar c).reverseAux taken) rest'
      | .error f => .error f
    else if byte < 0x20 then .error (.before .controlCharacter rest)
    else scanBytes (byte :: taken) rest
termination_by bytes.length
decreasing_by
  all_goals simp_wf
  all_goals omega

/-- A string whose bytes spell no characters is at fault as many bytes in front of its end as its
text has from the first broken character on. -/
def brokenText (broken rest : List UInt8) : Fault :=
  ⟨.invalidCodePoint, broken.length + rest.length, false⟩

/-- The text of a string, behind its opening quote. It is decoded when all of it has been found. -/
def scanText (bytes : List UInt8) : Except Fault (List Char × List UInt8) :=
  match scanBytes [] bytes with
  | .error f => .error f
  | .ok (text, rest) =>
    match Text.decode text with
    | .ok cs => .ok (cs, rest)
    | .error broken => .error (brokenText broken rest)

/-- Pass over an escape, behind its backslash. -/
def skipEscape : List UInt8 → Except Fault (List UInt8)
  | [] => .error (.looking .endInString [])
  | byte :: rest =>
    if (escaped? byte).isSome then .ok rest
    else if byte = Byte.letterU then (scanHex rest).map Prod.snd
    else .error (.before .invalidEscape rest)

theorem length_le_of_skipEscape {bytes rest : List UInt8} (h : skipEscape bytes = .ok rest) :
    rest.length ≤ bytes.length := by
  unfold skipEscape at h
  split at h
  · exact absurd h (by simp)
  · rename_i byte tail
    split at h
    · simp_all
    · split at h
      · cases hhex : scanHex tail with
        | error f => simp [hhex, Except.map] at h
        | ok result =>
          have := length_le_of_scanHex hhex
          simp only [hhex, Except.map, Except.ok.injEq] at h
          simp only [← h, List.length_cons]
          omega
      · exact absurd h (by simp)

/-- Pass over a string, behind its opening quote. -/
def skipText (bytes : List UInt8) : Except Fault (List UInt8) :=
  match bytes with
  | [] => .error (.looking .endInString [])
  | byte :: rest =>
    if byte = Byte.quote then .ok rest
    else if byte = Byte.backslash then
      match h : skipEscape rest with
      | .ok rest' =>
        have := length_le_of_skipEscape h
        skipText rest'
      | .error f => .error f
    else if byte < 0x20 then .error (.before .controlCharacter rest)
    else skipText rest
termination_by bytes.length
decreasing_by
  all_goals simp_wf
  all_goals omega

theorem length_lt_of_scanBytes {taken text bytes rest : List UInt8}
    (h : scanBytes taken bytes = .ok (text, rest)) : rest.length < bytes.length := by
  fun_induction scanBytes taken bytes with
  | case1 => exact absurd h (by simp)
  | case2 => simp_all
  | case3 taken tail c rest' he _ _ ih =>
    have := length_le_of_scanEscape he
    have := ih h
    simp only [List.length_cons]
    omega
  | case4 => simp_all
  | case5 => simp_all
  | case6 taken byte tail _ _ _ ih =>
    have := ih h
    simp only [List.length_cons]
    omega

theorem length_lt_of_scanText {cs : List Char} {bytes rest : List UInt8}
    (h : scanText bytes = .ok (cs, rest)) : rest.length < bytes.length := by
  unfold scanText at h
  split at h
  · exact absurd h (by simp)
  · rename_i hbytes
    have := length_lt_of_scanBytes hbytes
    split at h
    · simp only [Except.ok.injEq, Prod.mk.injEq] at h
      rw [← h.2]
      exact this
    · exact absurd h (by simp)

theorem length_lt_of_skipText {bytes rest : List UInt8} (h : skipText bytes = .ok rest) :
    rest.length < bytes.length := by
  fun_induction skipText bytes with
  | case1 => exact absurd h (by simp)
  | case2 => simp_all
  | case3 tail rest' he _ _ ih =>
    have := length_le_of_skipEscape he
    have := ih h
    simp only [List.length_cons]
    omega
  | case4 => simp_all
  | case5 => simp_all
  | case6 byte tail _ _ _ ih =>
    have := ih h
    simp only [List.length_cons]
    omega

end PingTun.Json
