-- SUMMARY: The reader of a record takes what a value says of the record, be it an object or a list.
import PingTun.Proofs.Json.Clauses
import PingTun.Proofs.Json.Scalars

/-! # Records

Each loop of the reader goes along with the members or the elements that are written: the induction
is on them, for whatever blanks are in front and whatever has been seen before.
-/

namespace PingTun.Json

variable {σ : Type} {fields : List (Field σ)} {clauses : List (Clause σ)} {seen : List String}
  {isFirst : Bool} {s : σ} {name : String} {rest : List UInt8}

/-- A field is read as a clause of its name says. -/
structure Field.Takes (field : Field σ) (c : Clause σ) : Prop where
  name_eq : field.name = c.name
  takes : field.value.Takes c.change?

theorem Field.takes_put {α : Type} {r : Reader α} {of? : Value → Option α} (h : r.Takes of?)
    (name : String) (put : α → σ → σ) :
    Field.Takes ⟨name, r.map put⟩ (Clause.put name of? put) :=
  ⟨rfl, h.map put⟩

/-- Fields and their clauses are found by the same names. -/
theorem find?_takes (h : List.Forall₂ Field.Takes fields clauses) (name : String) :
    (fields.find? (·.name == name) = none ∧ clauses.find? (·.name == name) = none) ∨
      ∃ field c, fields.find? (·.name == name) = some field ∧
        clauses.find? (·.name == name) = some c ∧ field.Takes c := by
  induction h with
  | nil => exact .inl ⟨rfl, rfl⟩
  | @cons field c fields clauses htakes _ ih =>
    rw [List.find?_cons, List.find?_cons, htakes.name_eq]
    cases c.name == name with
    | true => exact .inr ⟨field, c, rfl, rfl, htakes⟩
    | false => exact ih

namespace Record

/-! ## Members -/

theorem nextKey_nil (isFirst : Bool) (gap : List Blank) (rest : List UInt8) :
    nextKey isFirst (writeGap gap (Byte.closeBrace :: rest)) = .ok (false, rest) := by
  rw [nextKey, skipBlanks_writeGap]
  rfl

theorem nextKey_cons (isFirst : Bool) (gap before : List Blank) (key : List Piece)
    (beforeColon behindColon : List Blank) (bytes : List UInt8) :
    nextKey isFirst (writeGap gap (separate isFirst
      (writeKey before key beforeColon behindColon bytes))) =
      .ok (true,
        writeText key (writeGap beforeColon (Byte.colon :: writeGap behindColon bytes))) := by
  rw [nextKey, skipBlanks_writeGap]
  cases isFirst with
  | true =>
    rw [separate, if_pos rfl, skipBlanks_writeKey]
    rfl
  | false =>
    rw [separate, if_neg Bool.false_ne_true, skipBlanks_comma]
    simp only [Bool.false_eq_true, if_false, if_true, skipBlanks_writeKey]
    rfl

/-- The value of a key is taken as a member says, whoever it is for. -/
theorem toOption_readValue (h : List.Forall₂ Field.Takes fields clauses) (seen : List String)
    (name : String) (s : σ) (beforeColon behindColon : List Blank) (v : Value)
    (hends : Ends rest) :
    (readValue fields seen name s
      (writeGap beforeColon (Byte.colon :: writeGap behindColon (v.write rest)))).toOption =
        (stepMember? clauses seen s name v).map fun (s', seen') => (s', seen', rest) := by
  have hcolon (bytes : List UInt8) :
      scanColon (writeGap beforeColon (Byte.colon :: bytes)) = .ok bytes :=
    scanColon_writeGap beforeColon _
  rcases find?_takes h name with ⟨hfield, hclause⟩ | ⟨field, c, hfield, hclause, -, htakes⟩
  · simp only [readValue, stepMember?, hfield, hclause, hcolon, bind, Except.bind,
      skipValue_write behindColon v hends]
    rfl
  · simp only [readValue, stepMember?, hfield, hclause]
    by_cases hseen : name ∈ seen
    · rw [if_pos hseen, if_pos hseen]
      rfl
    · rw [if_neg hseen, if_neg hseen]
      rcases htakes.run behindColon v hends with ⟨change, hchange, hrun⟩ | ⟨hchange, failure, hrun⟩
      · simp only [hcolon, bind, Except.bind, hrun, hchange]
        rfl
      · simp only [hcolon, bind, Except.bind, hrun, hchange]
        rfl

theorem toOption_readMembers (fields : List (Field σ)) (seen : List String) (isFirst : Bool) (s : σ)
    (bytes : List UInt8) :
    (readMembers fields seen isFirst s bytes).toOption =
      (nextKey isFirst bytes).toOption.bind fun (more, rest) =>
        if more then
          (scanText rest).toOption.bind fun (key, rest') =>
            (readValue fields seen (String.ofList key) s rest').toOption.bind
              fun (s', seen', rest'') => (readMembers fields seen' false s' rest'').toOption
        else some (s, rest) := by
  -- The matches are taken apart first, as nothing can be rewritten where they hand on equations.
  rw [readMembers]
  split
  · rename_i hkey
    rw [hkey]
    rfl
  · rename_i hkey
    rw [hkey]
    rfl
  · rename_i hkey
    split
    · rename_i htext
      rw [hkey]
      simp only [toOption_ok, Option.bind_some, if_true, htext]
      rfl
    · rename_i htext
      split
      · rename_i hvalue
        rw [hkey]
        simp only [toOption_ok, Option.bind_some, if_true, htext, hvalue]
        rfl
      · rename_i hvalue
        dsimp only
        rw [hkey]
        simp only [toOption_ok, Option.bind_some, if_true, htext, hvalue]

theorem toOption_readMembers_write (h : List.Forall₂ Field.Takes fields clauses)
    (members : List (Member Value)) (seen : List String) (isFirst : Bool) (s : σ)
    (gap : List Blank) (rest : List UInt8) :
    (readMembers fields seen isFirst s
      (writeGap gap (writeMembers isFirst members (Byte.closeBrace :: rest)))).toOption =
        (runMembers? clauses seen s members).map (·, rest) := by
  induction members generalizing seen isFirst s gap with
  | nil =>
    rw [toOption_readMembers, writeMembers, nextKey_nil]
    rfl
  | cons m members ih =>
    obtain ⟨before, key, beforeColon, behindColon, value, behind⟩ := m
    have hends := ends_writeGap behind (ends_writeMembers members rest)
    rw [toOption_readMembers, writeMembers, nextKey_cons]
    simp only [toOption_ok, Option.bind_some, if_true, toOption_scanText_writeText, runMembers?,
      Member.name?]
    cases spelled? key with
    | none => rfl
    | some cs =>
      simp only [Option.map_some, Option.bind_some]
      rw [toOption_readValue h seen (String.ofList cs) s beforeColon behindColon value hends]
      cases stepMember? clauses seen s (String.ofList cs) value with
      | none => rfl
      | some result => exact ih result.2 false result.1 behind

/-! ## Elements -/

theorem nextElement_nil (isFirst : Bool) (gap : List Blank) (rest : List UInt8) :
    nextElement isFirst (writeGap gap (Byte.closeBracket :: rest)) =
      .ok (false, Byte.closeBracket :: rest) := by
  rw [nextElement, skipBlanks_writeGap]
  rfl

theorem nextElement_cons (isFirst : Bool) (gap before : List Blank) (v : Value)
    (bytes : List UInt8) :
    nextElement isFirst (writeGap gap (separate isFirst (writeGap before (v.write bytes)))) =
      .ok (true, v.write bytes) := by
  obtain ⟨byte, tail, hbytes, hblank, hclose⟩ := v.write_eq_cons bytes
  rw [nextElement, skipBlanks_writeGap, hbytes]
  cases isFirst with
  | true =>
    rw [separate, if_pos rfl, skipBlanks_writeGap, skipBlanks_cons hblank]
    exact if_neg hclose
  | false =>
    rw [separate, if_neg Bool.false_ne_true, skipBlanks_comma]
    simp only [Bool.false_eq_true, if_false, if_true, skipBlanks_writeGap, skipBlanks_cons hblank,
      if_neg hclose]
    rfl

theorem endList_nil (gap : List Blank) (rest : List UInt8) :
    endList (writeGap gap (Byte.closeBracket :: rest)) = .ok rest := by
  rw [endList, skipBlanks_writeGap]
  rfl

/-- A list does not end where there is another element. -/
theorem toOption_endList_cons (isFirst : Bool) (gap before : List Blank) (v : Value)
    (bytes : List UInt8) :
    (endList (writeGap gap (separate isFirst (writeGap before (v.write bytes))))).toOption =
      none := by
  obtain ⟨byte, tail, hbytes, hblank, hclose⟩ := v.write_eq_cons bytes
  rw [endList, skipBlanks_writeGap, hbytes]
  cases isFirst with
  | true =>
    rw [separate, if_pos rfl, skipBlanks_writeGap, skipBlanks_cons hblank]
    dsimp only
    rw [if_neg hclose]
    split
    · split
      · rfl
      · split <;> rfl
    · rfl
  | false =>
    rw [separate, if_neg Bool.false_ne_true, skipBlanks_comma]
    dsimp only
    rw [if_neg (by decide), if_pos rfl, skipBlanks_writeGap, skipBlanks_cons hblank]
    dsimp only
    rw [if_neg hclose]
    rfl

theorem toOption_readElements_write (h : List.Forall₂ Field.Takes fields clauses)
    (items : List (Item Value)) (isFirst : Bool) (s : σ) (gap : List Blank) (rest : List UInt8) :
    (readElements isFirst s fields
      (writeGap gap (writeItems isFirst items (Byte.closeBracket :: rest)))).toOption =
        (ofElements? clauses s (items.map (·.value))).map (·, rest) := by
  induction h generalizing items isFirst s gap with
  | nil =>
    rw [readElements, toOption_map]
    cases items with
    | nil =>
      rw [writeItems, endList_nil]
      rfl
    | cons item items =>
      obtain ⟨before, value, behind⟩ := item
      rw [writeItems, toOption_endList_cons]
      rfl
  | @cons field c fields clauses htakes _ ih =>
    rw [readElements]
    cases items with
    | nil =>
      rw [writeItems, nextElement_nil]
      rfl
    | cons item items =>
      obtain ⟨before, value, behind⟩ := item
      have hends := ends_writeGap behind (ends_writeItems items rest)
      rw [writeItems, nextElement_cons, List.map_cons, ofElements?]
      dsimp only
      rcases htakes.takes.run [] value hends with ⟨change, hchange, hrun⟩ | ⟨hchange, failure, hrun⟩
      · rw [writeGap_nil] at hrun
        simp only [hrun, hchange]
        exact ih items false (change s) behind
      · rw [writeGap_nil] at hrun
        simp only [hrun, hchange]
        rfl

end Record

/-! ## Either -/

theorem Record.toOption_read_of_ne {byte : UInt8} {tail : List UInt8}
    (hblank : Byte.isBlank byte = false) (hlist : byte ≠ Byte.openBracket)
    (hobject : byte ≠ Byte.openBrace) (wanted : String) :
    (read wanted fields s (byte :: tail)).toOption = none := by
  rw [read, skipBlanks_cons hblank]
  dsimp only
  rw [if_neg hlist, if_neg hobject]
  rfl

theorem toOption_mapError {ε ε' α : Type} (f : ε → ε') (e : Except ε α) :
    (e.mapError f).toOption = e.toOption := by
  cases e <;> rfl

/-- The reader of a record takes what a value says of the initial one. -/
theorem Reader.takes_record (h : List.Forall₂ Field.Takes fields clauses)
    (hpairwise : clauses.Pairwise Clause.Independent) (wanted : String) (initial : σ) :
    (Reader.record wanted fields initial).Takes (Record.of? clauses initial) := by
  intro gap v rest _
  have hgap : (Reader.record wanted fields initial).run (writeGap gap (v.write rest)) =
      Record.read wanted fields initial (v.write rest) := by
    simp only [Reader.record, Record.read, skipBlanks_writeGap]
  rw [hgap]
  cases v with
  | null => exact Record.toOption_read_of_ne rfl (by decide) (by decide) wanted
  | boolean b => cases b <;> exact Record.toOption_read_of_ne rfl (by decide) (by decide) wanted
  | number n =>
    obtain ⟨byte, tail, hbytes, hfirst⟩ := n.write_eq_cons rest
    rw [Value.write, hbytes]
    exact Record.toOption_read_of_ne (Byte.isBlank_of_numeric hfirst)
      (Byte.ne_of_numeric hfirst (by decide)) (Byte.ne_of_numeric hfirst (by decide)) wanted
  | text pieces => exact Record.toOption_read_of_ne rfl (by decide) (by decide) wanted
  | list gap items =>
    rw [Value.write, Record.read, skipBlanks_cons rfl]
    dsimp only
    rw [if_pos rfl, toOption_mapError]
    exact Record.toOption_readElements_write h items true initial gap rest
  | object gap members =>
    rw [Value.write, Record.read, skipBlanks_cons rfl]
    dsimp only
    rw [if_neg (by decide), if_pos rfl, toOption_mapError,
      Record.toOption_readMembers_write h members [] true initial gap rest,
      Record.runMembers?_nil hpairwise]
    rfl

/-- A document is read as what its value is taken for. -/
theorem Reader.Takes.document {α : Type} {r : Reader α} {of? : Value → Option α} (h : r.Takes of?)
    (d : Document) : (r.document d.bytes).toOption = of? d.value := by
  have hskip : skipBlanks (writeGap d.behind []) = [] := skipBlanks_writeGap d.behind []
  have hnil : Ends [] := trivial
  have hends := ends_writeGap d.behind hnil
  rw [Reader.document, Document.bytes]
  rcases h.run d.before d.value hends with
    ⟨a, htaken, hrun⟩ | ⟨htaken, failure, hrun⟩
  · simp only [hrun, htaken, hskip]
    rfl
  · simp only [hrun, htaken]
    rfl

end PingTun.Json
