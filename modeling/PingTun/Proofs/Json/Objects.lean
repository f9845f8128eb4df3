-- SUMMARY: Objects that are written as JSON are read field by field, in the order of their members.
import PingTun.Proofs.Json.Written

/-! # Written objects

What an object says of a record is the changes that its members make, one after the other. Each of
them is made by the field of the member's name, which must not have occurred before.
-/

namespace PingTun.Json

variable {σ : Type} {fields : List (Field σ)} {seen : List String} {s t : σ}
  {members : List (String × List Char)} {name : String} {value : List Char} {rest : List UInt8}

/-- Members that change a record, once some of its fields have been seen. -/
inductive Changes (fields : List (Field σ)) :
    List String → σ → List (String × List Char) → σ → Prop
  | nil {seen : List String} {s : σ} : Changes fields seen s [] s
  | cons {seen : List String} {s t : σ} {members : List (String × List Char)} {name : String}
    {value : List Char} {field : Field σ} {change : σ → σ} :
    (∀ c ∈ name.toList, Plain c) → fields.find? (·.name == name) = some field → name ∉ seen →
    field.value.Reads value change → Changes fields (name :: seen) (change s) members t →
    Changes fields seen s ((name, value) :: members) t

/-- A member whose value is read and then put into the record. -/
theorem Changes.put {α : Type} {r : Reader α} {put : α → σ → σ} {a : α}
    (hplain : ∀ c ∈ name.toList, Plain c)
    (hfind : fields.find? (·.name == name) = some ⟨name, r.map put⟩) (hseen : name ∉ seen)
    (hvalue : r.Reads value a) (hothers : Changes fields (name :: seen) (put a s) members t) :
    Changes fields seen s ((name, value) :: members) t :=
  .cons hplain hfind hseen (hvalue.map put) hothers

/-! ## Members -/

/-- A member of an object: its key, a colon and its value. -/
def memberChars (m : String × List Char) : List Char := '"' :: (m.1.toList ++ '"' :: ':' :: m.2)

theorem intercalate_cons {α : Type} (separator first : List α) (others : List (List α)) :
    separator.intercalate (first :: others) =
      first ++ others.flatMap fun other => separator ++ other := by
  induction others generalizing first with
  | nil => simp
  | cons other others ih => simp [List.intercalate_cons_cons, ih]

/-- What a member is written as, in front of other bytes. -/
def memberBytes (m : String × List Char) (rest : List UInt8) : List UInt8 :=
  Byte.quote :: (Text.bytes m.1.toList ++ Byte.quote :: Byte.colon :: (Text.bytes m.2 ++ rest))

theorem bytes_memberChars (m : String × List Char) (rest : List UInt8) :
    Text.bytes (memberChars m) ++ rest = memberBytes m rest := by
  rw [memberChars, Text.bytes_cons (by decide), Text.bytes_append, Text.bytes_cons (by decide),
    Text.bytes_cons (by decide)]
  simp only [List.cons_append, List.append_assoc]
  rfl

/-- What members behind the first are written as, with the end of their object and other bytes. -/
def behindMembers : List (String × List Char) → List UInt8 → List UInt8
  | [], rest => Byte.closeBrace :: rest
  | m :: members, rest => Byte.comma :: memberBytes m (behindMembers members rest)

/-- What members are written as, with the end of their object and other bytes. -/
def frontMembers : List (String × List Char) → List UInt8 → List UInt8
  | [], rest => Byte.closeBrace :: rest
  | m :: members, rest => memberBytes m (behindMembers members rest)

theorem ends_behindMembers (members : List (String × List Char)) (rest : List UInt8) :
    Ends (behindMembers members rest) := by
  cases members with
  | nil => exact ⟨rfl, by decide, rfl⟩
  | cons m members => exact ⟨rfl, by decide, rfl⟩

theorem bytes_objectChars (members : List (String × List Char)) (rest : List UInt8) :
    Text.bytes (objectChars members) ++ rest = Byte.openBrace :: frontMembers members rest := by
  have hbehind (others : List (String × List Char)) :
      Text.bytes ((others.map memberChars).flatMap fun other => [','] ++ other) ++
        Byte.closeBrace :: rest = behindMembers others rest := by
    induction others with
    | nil => rfl
    | cons m others ih =>
      rw [List.map_cons, List.flatMap_cons, Text.bytes_append, Text.bytes_append, List.append_assoc,
        List.append_assoc, ih, bytes_memberChars]
      rfl
  cases members with
  | nil => rfl
  | cons m others =>
    have hchars : objectChars (m :: others) =
        '\x7b' :: ((memberChars m ++
          (others.map memberChars).flatMap fun other => [','] ++ other) ++ ['\x7d']) := by
      rw [← intercalate_cons]
      rfl
    rw [hchars, Text.bytes_cons (by decide), Text.bytes_append, Text.bytes_append, List.cons_append,
      List.append_assoc, List.append_assoc, frontMembers, ← bytes_memberChars, ← hbehind]
    rfl

namespace Record

/-- The value of a key is read by the field of its name. -/
theorem readValue_of_find? {field : Field σ} {change : σ → σ}
    (hfind : fields.find? (·.name == name) = some field) (hseen : name ∉ seen)
    (hvalue : field.value.Reads value change) (hends : Ends rest) (s : σ) :
    readValue fields seen name s (Byte.colon :: (Text.bytes value ++ rest)) =
      .ok (change s, name :: seen, rest) := by
  have hcolon : scanColon (Byte.colon :: (Text.bytes value ++ rest)) =
      .ok (Text.bytes value ++ rest) := rfl
  simp only [readValue, hfind, if_neg hseen, hcolon, hvalue rest hends, bind, Except.bind]

/-- One member is read, and then those behind it. -/
theorem readMembers_of_ok {isFirst : Bool} {seen' : List String} {s' : σ} {key : List Char}
    {bytes text colon : List UInt8} (hkey : nextKey isFirst bytes = .ok (true, text))
    (htext : scanText text = .ok (key, colon))
    (hvalue : readValue fields seen (String.ofList key) s colon = .ok (s', seen', rest)) :
    readMembers fields seen isFirst s bytes = readMembers fields seen' false s' rest := by
  -- Each match hands its equation on to the recursion, so that nothing can be rewritten inside it.
  rw [readMembers]
  split
  · rename_i hnext
    cases hkey.symm.trans hnext
  · rename_i hnext
    cases hkey.symm.trans hnext
  · rename_i hnext
    cases hkey.symm.trans hnext
    split
    · rename_i hscan
      cases htext.symm.trans hscan
    · rename_i hscan
      cases htext.symm.trans hscan
      split
      · rename_i hread
        cases hvalue.symm.trans hread
      · rename_i hread
        cases hvalue.symm.trans hread
        rfl

theorem readMembers_cons {isFirst : Bool} {bytes : List UInt8} {field : Field σ} {change : σ → σ}
    (hkey : nextKey isFirst bytes =
      .ok (true, Text.bytes name.toList ++ Byte.quote :: Byte.colon :: (Text.bytes value ++ rest)))
    (hplain : ∀ c ∈ name.toList, Plain c) (hfind : fields.find? (·.name == name) = some field)
    (hseen : name ∉ seen) (hvalue : field.value.Reads value change) (hends : Ends rest) (s : σ) :
    readMembers fields seen isFirst s bytes =
      readMembers fields (name :: seen) false (change s) rest := by
  apply readMembers_of_ok hkey (scanText_plain hplain _)
  rw [String.ofList_toList]
  exact readValue_of_find? hfind hseen hvalue hends s

theorem readMembers_end (fields : List (Field σ)) (seen : List String) (isFirst : Bool) (s : σ)
    (rest : List UInt8) :
    readMembers fields seen isFirst s (Byte.closeBrace :: rest) = .ok (s, rest) := by
  have hkey : nextKey isFirst (Byte.closeBrace :: rest) = .ok (false, rest) := rfl
  rw [readMembers]
  split
  · rename_i hnext
    cases hkey.symm.trans hnext
  · rename_i hnext
    cases hkey.symm.trans hnext
    rfl
  · rename_i hnext
    cases hkey.symm.trans hnext

/-- All members behind the first are read, up to the end of the object. -/
theorem readMembers_changes (h : Changes fields seen s members t) (rest : List UInt8) :
    readMembers fields seen false s (behindMembers members rest) = .ok (t, rest) := by
  induction h with
  | nil => exact readMembers_end ..
  | @cons seen s t members name value field change hplain hfind hseen hvalue _ ih =>
    rw [behindMembers, readMembers_cons rfl hplain hfind hseen hvalue (ends_behindMembers ..)]
    exact ih

end Record

/-- An object is read as the record that its members make of the initial one. -/
theorem Reader.reads_record {initial : σ} (h : Changes fields [] initial members t)
    (wanted : String) : (Reader.record wanted fields initial).Reads (objectChars members) t := by
  intro rest _
  have hmembers :
      Record.readMembers fields [] true initial (frontMembers members rest) = .ok (t, rest) := by
    -- The first member has no comma in front of it; from there on the loop is at its induction.
    cases h with
    | nil => exact Record.readMembers_end ..
    | cons hplain hfind hseen hvalue hothers =>
      rw [frontMembers,
        Record.readMembers_cons rfl hplain hfind hseen hvalue (ends_behindMembers ..)]
      exact Record.readMembers_changes hothers rest
  have hskip : skipBlanks (Byte.openBrace :: frontMembers members rest) =
      Byte.openBrace :: frontMembers members rest := skipBlanks_cons rfl _
  have hlist : Byte.openBrace ≠ Byte.openBracket := by decide
  simp only [Reader.record, bytes_objectChars, Record.read, hskip, if_neg hlist, if_pos, hmembers,
    Except.mapError]

end PingTun.Json
