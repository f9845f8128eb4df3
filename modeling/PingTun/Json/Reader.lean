-- SUMMARY: Readers of JSON values of a given type: numbers, booleans, texts, and records.
import PingTun.Json.Skip

/-! # Readers

A reader takes a value of its type from the front of the bytes. What stands there instead is named
in the fault. A record is an object or a list of its fields in order; in an object, unknown keys
are passed over and fields that do not occur keep their value, and a list may end early.

A flaw that has nothing to do with the grammar of the value is placed by the record around it,
which first tries to find its own end.
-/

namespace PingTun.Json

/-- Why a value was not read: a fault with its place, or a flaw still without one and the bytes
behind it. -/
inductive Failure
  | placed (fault : Fault)
  | unplaced (flaw : Flaw) (rest : List UInt8)

/-- A function that takes a value from the front of the bytes, and at least one byte with it. -/
structure Reader (α : Type) where
  run : List UInt8 → Except Failure (α × List UInt8)
  shorter : ∀ {bytes a rest}, run bytes = .ok (a, rest) → rest.length < bytes.length

/-! ## Values of another type -/

/-- A number, given its first byte. -/
def scanSigned (byte : UInt8) (rest : List UInt8) : Except Fault (Number × List UInt8) :=
  if byte = Byte.minus then scanNumber true rest else scanNumber false (byte :: rest)

/-- The fault of a value of another type than the wanted one. Scalars are read to their end, lists
and objects are only looked at. -/
def mismatch (wanted : String) (byte : UInt8) (rest : List UInt8) : Fault :=
  let word (letters : List UInt8) (found : Found) : Fault :=
    match scanWord letters rest with
    | .ok rest' => .before (.wrongType found wanted) rest'
    | .error f => f
  if byte = Byte.letterN then word nullTail .null
  else if byte = Byte.letterT then word trueTail (.boolean true)
  else if byte = Byte.letterF then word falseTail (.boolean false)
  else if byte = Byte.minus ∨ Byte.isDigit byte then
    match scanSigned byte rest with
    | .ok (n, rest') => .looking (.wrongType (.number n) wanted) rest'
    | .error f => f
  else if byte = Byte.quote then
    match scanText rest with
    | .ok (cs, rest') => .before (.wrongType (.text cs) wanted) rest'
    | .error f => f
  else if byte = Byte.openBracket then .looking (.wrongType .list wanted) (byte :: rest)
  else if byte = Byte.openBrace then .looking (.wrongType .object wanted) (byte :: rest)
  else .looking .expectedValue (byte :: rest)

/-! ## Scalars -/

/-- Read an integer from 0 to `bound`. -/
def readNat (bound : Nat) (wanted : String) (bytes : List UInt8) :
    Except Failure (Nat × List UInt8) :=
  match skipBlanks bytes with
  | [] => .error (.placed (.looking .endInValue []))
  | byte :: rest =>
    if byte = Byte.minus ∨ Byte.isDigit byte then
      match scanSigned byte rest with
      | .ok (.natural n, rest') =>
        if n ≤ bound then .ok (n, rest')
        else .error (.placed (.looking (.wrongValue (.number (.natural n)) wanted) rest'))
      | .ok (.negative n, rest') =>
        .error (.placed (.looking (.wrongValue (.number (.negative n)) wanted) rest'))
      | .ok (n, rest') => .error (.placed (.looking (.wrongType (.number n) wanted) rest'))
      | .error f => .error (.placed f)
    else
      .error (.placed (mismatch wanted byte rest))

/-- Read `true` or `false`. -/
def readBool (wanted : String) (bytes : List UInt8) : Except Failure (Bool × List UInt8) :=
  match skipBlanks bytes with
  | [] => .error (.placed (.looking .endInValue []))
  | byte :: rest =>
    if byte = Byte.letterT then
      match scanWord trueTail rest with
      | .ok rest' => .ok (true, rest')
      | .error f => .error (.placed f)
    else if byte = Byte.letterF then
      match scanWord falseTail rest with
      | .ok rest' => .ok (false, rest')
      | .error f => .error (.placed f)
    else
      .error (.placed (mismatch wanted byte rest))

/-- Read a string whose text `parse` accepts. -/
def readText (wanted : String) (parse : List Char → Except Flaw α) (bytes : List UInt8) :
    Except Failure (α × List UInt8) :=
  match skipBlanks bytes with
  | [] => .error (.placed (.looking .endInValue []))
  | byte :: rest =>
    if byte = Byte.quote then
      match scanText rest with
      | .ok (cs, rest') =>
        match parse cs with
        | .ok a => .ok (a, rest')
        | .error flaw => .error (.unplaced flaw rest')
      | .error f => .error (.placed f)
    else
      .error (.placed (mismatch wanted byte rest))

theorem length_lt_of_scanSigned {byte : UInt8} {rest rest' : List UInt8} {n : Number}
    (h : scanSigned byte rest = .ok (n, rest')) : rest'.length < (byte :: rest).length := by
  unfold scanSigned at h
  split at h
  · exact Nat.lt_succ_of_lt (length_lt_of_scanNumber h)
  · exact length_lt_of_scanNumber h

theorem length_lt_of_readNat {bound : Nat} {wanted : String} {bytes rest : List UInt8} {n : Nat}
    (h : readNat bound wanted bytes = .ok (n, rest)) : rest.length < bytes.length := by
  have hlen := length_skipBlanks_le bytes
  unfold readNat at h
  split at h
  · exact absurd h (by simp)
  · rename_i byte tail heq
    rw [heq] at hlen
    split at h
    · split at h
      · split at h
        · rename_i hscan _
          have := length_lt_of_scanSigned hscan
          simp only [Except.ok.injEq, Prod.mk.injEq] at h
          rw [← h.2]
          omega
        · exact absurd h (by simp)
      all_goals exact absurd h (by simp)
    · exact absurd h (by simp)

theorem length_lt_of_readBool {wanted : String} {bytes rest : List UInt8} {b : Bool}
    (h : readBool wanted bytes = .ok (b, rest)) : rest.length < bytes.length := by
  have hlen := length_skipBlanks_le bytes
  unfold readBool at h
  split at h
  · exact absurd h (by simp)
  · rename_i byte tail heq
    rw [heq, List.length_cons] at hlen
    split at h
    · split at h
      · rename_i hword
        have := length_le_of_scanWord hword
        simp only [Except.ok.injEq, Prod.mk.injEq] at h
        rw [← h.2]
        omega
      · exact absurd h (by simp)
    · split at h
      · split at h
        · rename_i hword
          have := length_le_of_scanWord hword
          simp only [Except.ok.injEq, Prod.mk.injEq] at h
          rw [← h.2]
          omega
        · exact absurd h (by simp)
      · exact absurd h (by simp)

theorem length_lt_of_readText {α : Type} {wanted : String} {parse : List Char → Except Flaw α}
    {bytes rest : List UInt8} {a : α} (h : readText wanted parse bytes = .ok (a, rest)) :
    rest.length < bytes.length := by
  have hlen := length_skipBlanks_le bytes
  unfold readText at h
  split at h
  · exact absurd h (by simp)
  · rename_i byte tail heq
    rw [heq, List.length_cons] at hlen
    split at h
    · split at h
      · rename_i htext
        have := length_lt_of_scanText htext
        split at h
        · simp only [Except.ok.injEq, Prod.mk.injEq] at h
          rw [← h.2]
          omega
        · exact absurd h (by simp)
      · exact absurd h (by simp)
    · exact absurd h (by simp)

namespace Reader

def nat (bound : Nat) (wanted : String) : Reader Nat :=
  ⟨readNat bound wanted, length_lt_of_readNat⟩

def bool (wanted : String) : Reader Bool := ⟨readBool wanted, length_lt_of_readBool⟩

def text (wanted : String) (parse : List Char → Except Flaw α) : Reader α :=
  ⟨readText wanted parse, length_lt_of_readText⟩

/-- Read a value and put it through a function. -/
def map (f : α → β) (r : Reader α) : Reader β where
  run bytes := (r.run bytes).map fun (a, rest) => (f a, rest)
  shorter {bytes b rest} h := by
    cases hrun : r.run bytes with
    | error e => simp [hrun, Except.map] at h
    | ok result =>
      obtain ⟨a, rest'⟩ := result
      have := r.shorter hrun
      simp only [hrun, Except.map, Except.ok.injEq, Prod.mk.injEq] at h
      rw [← h.2]
      exact this

end Reader

/-! ## Records -/

/-- A field of a record: its name, and a reader of its value that yields the change it makes. -/
structure Field (σ : Type) where
  name : String
  value : Reader (σ → σ)

namespace Record

/-- The place of a flaw inside an object: where the byte behind it and its blanks has been seen. -/
def placeInObject (flaw : Flaw) (rest : List UInt8) : Fault :=
  .before flaw (skipBlanks rest).tail

/-- The place of a flaw inside a list: likewise, but a comma is taken as well. -/
def placeInList (flaw : Flaw) (rest : List UInt8) : Fault :=
  match skipBlanks rest with
  | [] => .before flaw []
  | byte :: rest' =>
    if byte = Byte.comma then .before flaw (skipBlanks rest').tail else .before flaw rest'

/-- The fault of a failure, which may still have to be placed. -/
def Failure.place (placed : Flaw → List UInt8 → Fault) : Failure → Fault
  | .placed f => f
  | .unplaced flaw rest => placed flaw rest

/-- The bytes behind the opening quote of a key. -/
def beginKey (byte : UInt8) (rest : List UInt8) : Except Fault (Bool × List UInt8) :=
  if byte = Byte.quote then .ok (true, rest) else .error (.looking .keyNotText (byte :: rest))

/-- What follows in an object: its end, or the bytes behind the opening quote of a key. -/
def nextKey (isFirst : Bool) (bytes : List UInt8) : Except Fault (Bool × List UInt8) :=
  match skipBlanks bytes with
  | [] => .error (.looking .endInObject [])
  | byte :: rest =>
    if byte = Byte.closeBrace then .ok (false, rest)
    else if isFirst then beginKey byte rest
    else if byte = Byte.comma then
      match skipBlanks rest with
      | [] => .error (.looking .endInValue [])
      | byte' :: rest' =>
        if byte' = Byte.closeBrace then .error (.looking .trailingComma (byte' :: rest'))
        else beginKey byte' rest'
    else
      .error (.looking .expectedCommaOrBrace (byte :: rest))

/-- What follows in a list: its end, or a value. A comma is taken, an end is not. -/
def nextElement (isFirst : Bool) (bytes : List UInt8) : Except Fault (Bool × List UInt8) :=
  match skipBlanks bytes with
  | [] => .error (.looking .endInList [])
  | byte :: rest =>
    if byte = Byte.closeBracket then .ok (false, byte :: rest)
    else if isFirst then .ok (true, byte :: rest)
    else if byte = Byte.comma then
      match skipBlanks rest with
      | [] => .error (.looking .endInValue [])
      | byte' :: rest' =>
        if byte' = Byte.closeBracket then .error (.looking .trailingComma (byte' :: rest'))
        else .ok (true, byte' :: rest')
    else
      .error (.looking .expectedCommaOrBracket (byte :: rest))

/-- The end of a list whose elements have all been read. Whatever comes behind a comma is one too
many, even the end of the document. -/
def endList (bytes : List UInt8) : Except Fault (List UInt8) :=
  match skipBlanks bytes with
  | [] => .error (.looking .endInList [])
  | byte :: rest =>
    if byte = Byte.closeBracket then .ok rest
    else if byte = Byte.comma then
      match skipBlanks rest with
      | [] => .error (.before .trailingCharacters [])
      | byte' :: rest' =>
        if byte' = Byte.closeBracket then .error (.looking .trailingComma (byte' :: rest'))
        else .error (.looking .trailingCharacters (byte' :: rest'))
    else
      .error (.looking .trailingCharacters (byte :: rest))

private theorem length_of_beginKey {byte : UInt8} {bytes rest : List UInt8} {more : Bool}
    (h : beginKey byte bytes = .ok (more, rest)) : rest = bytes := by
  unfold beginKey at h
  split at h
  · simp_all
  · exact absurd h (by simp)

theorem length_lt_of_nextKey {isFirst more : Bool} {bytes rest : List UInt8}
    (h : nextKey isFirst bytes = .ok (more, rest)) : rest.length < bytes.length := by
  have hlen := length_skipBlanks_le bytes
  unfold nextKey at h
  split at h
  · exact absurd h (by simp)
  · rename_i byte tail heq
    rw [heq, List.length_cons] at hlen
    split at h
    · simp only [Except.ok.injEq, Prod.mk.injEq] at h
      rw [← h.2]
      exact hlen
    split at h
    · rw [length_of_beginKey h]
      exact hlen
    split at h
    · have hlen' := length_skipBlanks_le tail
      split at h
      · exact absurd h (by simp)
      · rename_i heq'
        rw [heq', List.length_cons] at hlen'
        split at h
        · exact absurd h (by simp)
        · rw [length_of_beginKey h]
          omega
    · exact absurd h (by simp)

theorem length_le_of_nextElement {isFirst more : Bool} {bytes rest : List UInt8}
    (h : nextElement isFirst bytes = .ok (more, rest)) : rest.length ≤ bytes.length := by
  have hlen := length_skipBlanks_le bytes
  unfold nextElement at h
  split at h
  · exact absurd h (by simp)
  · rename_i byte tail heq
    rw [heq] at hlen
    split at h
    · simp only [Except.ok.injEq, Prod.mk.injEq] at h
      rw [← h.2]
      exact hlen
    split at h
    · simp only [Except.ok.injEq, Prod.mk.injEq] at h
      rw [← h.2]
      exact hlen
    rw [List.length_cons] at hlen
    split at h
    · have hlen' := length_skipBlanks_le tail
      split at h
      · exact absurd h (by simp)
      · rename_i heq'
        rw [heq'] at hlen'
        split at h
        · exact absurd h (by simp)
        · simp only [Except.ok.injEq, Prod.mk.injEq] at h
          rw [← h.2]
          omega
    · exact absurd h (by simp)

theorem length_lt_of_endList {bytes rest : List UInt8} (h : endList bytes = .ok rest) :
    rest.length < bytes.length := by
  have hlen := length_skipBlanks_le bytes
  unfold endList at h
  split at h
  · exact absurd h (by simp)
  · rename_i heq
    rw [heq, List.length_cons] at hlen
    split at h
    · simp only [Except.ok.injEq] at h
      rw [← h]
      exact hlen
    split at h
    · split at h
      · exact absurd h (by simp)
      · split at h <;> exact absurd h (by simp)
    · exact absurd h (by simp)

/-! ## Objects -/

/-- Read the value of a key, behind the key's closing quote. Values of unknown keys are passed
over. -/
def readValue (fields : List (Field σ)) (seen : List String) (key : String) (s : σ)
    (bytes : List UInt8) : Except Fault (σ × List String × List UInt8) :=
  match fields.find? (·.name == key) with
  | none => do
    let rest ← scanColon bytes
    let rest ← skipValue rest
    .ok (s, seen, rest)
  | some field =>
    if key ∈ seen then .error (placeInObject (.duplicateField key) bytes)
    else do
      let rest ← scanColon bytes
      match field.value.run rest with
      | .ok (change, rest) => .ok (change s, key :: seen, rest)
      | .error failure => .error (Failure.place placeInObject failure)

theorem length_le_of_readValue {σ : Type} {fields : List (Field σ)} {seen seen' : List String}
    {key : String} {s s' : σ} {bytes rest : List UInt8}
    (h : readValue fields seen key s bytes = .ok (s', seen', rest)) :
    rest.length ≤ bytes.length := by
  unfold readValue at h
  split at h
  · cases hcolon : scanColon bytes with
    | error f => simp [hcolon, bind, Except.bind] at h
    | ok rest' =>
      have := length_lt_of_scanColon hcolon
      simp only [hcolon, bind, Except.bind] at h
      cases hskip : skipValue rest' with
      | error f => simp [hskip] at h
      | ok rest'' =>
        have := length_lt_of_skipValue hskip
        simp only [hskip, Except.ok.injEq, Prod.mk.injEq] at h
        rw [← h.2.2]
        omega
  · rename_i field _
    split at h
    · exact absurd h (by simp)
    · cases hcolon : scanColon bytes with
      | error f => simp [hcolon, bind, Except.bind] at h
      | ok rest' =>
        have := length_lt_of_scanColon hcolon
        simp only [hcolon, bind, Except.bind] at h
        split at h
        · rename_i hrun
          have := field.value.shorter hrun
          simp only [Except.ok.injEq, Prod.mk.injEq] at h
          rw [← h.2.2]
          omega
        · exact absurd h (by simp)

/-- Read the members of an object up to its end. -/
def readMembers (fields : List (Field σ)) (seen : List String) (isFirst : Bool) (s : σ)
    (bytes : List UInt8) : Except Fault (σ × List UInt8) :=
  match hkey : nextKey isFirst bytes with
  | .error f => .error f
  | .ok (false, rest) => .ok (s, rest)
  | .ok (true, rest) =>
    match htext : scanText rest with
    | .error f => .error f
    | .ok (key, rest') =>
      match hvalue : readValue fields seen (String.ofList key) s rest' with
      | .error f => .error f
      | .ok (s', seen', rest'') =>
        have := length_lt_of_nextKey hkey
        have := length_lt_of_scanText htext
        have := length_le_of_readValue hvalue
        readMembers fields seen' false s' rest''
termination_by bytes.length

theorem length_lt_of_readMembers {σ : Type} {fields : List (Field σ)} {seen : List String}
    {isFirst : Bool} {s s' : σ} {bytes rest : List UInt8}
    (h : readMembers fields seen isFirst s bytes = .ok (s', rest)) :
    rest.length < bytes.length := by
  fun_induction readMembers fields seen isFirst s bytes with
  | case1 => simp_all
  | case2 seen isFirst s bytes rest' hkey =>
    have := length_lt_of_nextKey hkey
    simp_all
  | case3 => simp_all
  | case4 => simp_all
  | case5 seen isFirst s bytes rest' hkey key rest'' htext t seen' rest''' hvalue _ _ _ ih =>
    have := length_lt_of_nextKey hkey
    have := length_lt_of_scanText htext
    have := length_le_of_readValue hvalue
    have := ih h
    omega

/-! ## Lists -/

/-- Read the elements of a list into the fields of a record, in order, and the list's end. -/
def readElements (isFirst : Bool) (s : σ) :
    List (Field σ) → List UInt8 → Except Fault (σ × List UInt8)
  | [], bytes => (endList bytes).map fun rest => (s, rest)
  | field :: fields, bytes =>
    match nextElement isFirst bytes with
    | .error f => .error f
    | .ok (false, rest) => (endList rest).map fun rest' => (s, rest')
    | .ok (true, rest) =>
      match field.value.run rest with
      | .ok (change, rest') => readElements false (change s) fields rest'
      | .error failure => .error (Failure.place placeInList failure)

theorem length_lt_of_readElements {σ : Type} {isFirst : Bool} {s s' : σ} {fields : List (Field σ)}
    {bytes rest : List UInt8} (h : readElements isFirst s fields bytes = .ok (s', rest)) :
    rest.length < bytes.length := by
  have ofEnd {t : σ} {bs : List UInt8}
      (he : ((endList bs).map fun rest => (t, rest)) = Except.ok (s', rest)) :
      rest.length < bs.length := by
    cases hend : endList bs with
    | error f => simp [hend, Except.map] at he
    | ok rest' =>
      have := length_lt_of_endList hend
      simp only [hend, Except.map, Except.ok.injEq, Prod.mk.injEq] at he
      rw [← he.2]
      exact this
  induction fields generalizing isFirst s bytes with
  | nil => exact ofEnd h
  | cons field fields ih =>
    simp only [readElements] at h
    split at h
    · exact absurd h (by simp)
    · rename_i hnext
      exact Nat.lt_of_lt_of_le (ofEnd h) (length_le_of_nextElement hnext)
    · rename_i hnext
      have := length_le_of_nextElement hnext
      split at h
      · rename_i hrun
        have := field.value.shorter hrun
        have := ih h
        omega
      · exact absurd h (by simp)

/-! ## Either -/

/-- Read a record, given as an object or as a list. -/
def read (wanted : String) (fields : List (Field σ)) (initial : σ) (bytes : List UInt8) :
    Except Failure (σ × List UInt8) :=
  match skipBlanks bytes with
  | [] => .error (.placed (.looking .endInValue []))
  | byte :: rest =>
    if byte = Byte.openBracket then (readElements true initial fields rest).mapError .placed
    else if byte = Byte.openBrace then (readMembers fields [] true initial rest).mapError .placed
    else .error (.placed (mismatch wanted byte rest))

theorem length_lt_of_read {σ : Type} {wanted : String} {fields : List (Field σ)} {initial s : σ}
    {bytes rest : List UInt8} (h : read wanted fields initial bytes = .ok (s, rest)) :
    rest.length < bytes.length := by
  have hlen := length_skipBlanks_le bytes
  have ofMap {e : Except Fault (σ × List UInt8)}
      (he : e.mapError Failure.placed = .ok (s, rest)) : e = .ok (s, rest) := by
    cases e with
    | ok _ => exact congrArg Except.ok (Except.ok.inj he)
    | error _ => cases he
  unfold read at h
  split at h
  · exact absurd h (by simp)
  · rename_i heq
    rw [heq, List.length_cons] at hlen
    split at h
    · have := length_lt_of_readElements (ofMap h)
      omega
    split at h
    · have := length_lt_of_readMembers (ofMap h)
      omega
    · exact absurd h (by simp)

end Record

/-- The reader of a record whose fields begin with the values of `initial`. -/
def Reader.record (wanted : String) (fields : List (Field σ)) (initial : σ) : Reader σ :=
  ⟨Record.read wanted fields initial, Record.length_lt_of_read⟩

/-! ## Documents -/

/-- Read a document: one value, and nothing but blanks around it. -/
def Reader.document (r : Reader α) (bytes : List UInt8) : Except Fault α :=
  match r.run bytes with
  | .error failure => .error (Record.Failure.place Fault.before failure)
  | .ok (a, rest) =>
    match skipBlanks rest with
    | [] => .ok a
    | rest' => .error (.looking .trailingCharacters rest')

end PingTun.Json
