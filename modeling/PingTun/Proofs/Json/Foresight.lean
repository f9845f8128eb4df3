-- SUMMARY: A fault that a reader finds in the front of a document is there whatever the rest is.
import PingTun.Proofs.Json.Fronts

/-! # Readers of fronts

Readers are made of scanners, so what they find in a front persists as well. Two faults are found
behind a string, without a look at what follows it: that its text does not parse, and that it is a
key for the second time. Strings end with a quote, so these persist, too.
-/

namespace PingTun.Json

variable {bytes more : List UInt8}

theorem Fault.sawEnd_before (flaw : Flaw) (rest : List UInt8) :
    (before flaw rest).sawEnd = false := rfl

/-! ## Scalars -/

theorem scanSigned_foretells (byte : UInt8) (rest more : List UInt8) :
    Foretells more (scanSigned byte rest) (scanSigned byte (rest ++ more)) := by
  rw [scanSigned, scanSigned]
  split
  · exact scanNumber_foretells true rest more
  · exact scanNumber_foretells false (byte :: rest) more

theorem Persists.cut_placed {β : Type} [Leaves β] {f : Fault} (h : f.sawEnd = true)
    (y : Except Failure β) : Persists more (.error (.placed f)) y := .cut h y

theorem readNat_foretells (bound : Nat) (wanted : String) (bytes more : List UInt8) :
    Foretells more (readNat bound wanted bytes) (readNat bound wanted (bytes ++ more)) := by
  rw [readNat, readNat]
  rcases skipBlanks_append_cases bytes more with h | ⟨byte, rest, h, hmore⟩
  · rw [h]
    exact .inl (.cut rfl _)
  rw [h, hmore]
  dsimp only
  split
  · have hscan := scanSigned_foretells byte rest more
    generalize scanSigned byte rest = x at hscan ⊢
    generalize scanSigned byte (rest ++ more) = y at hscan ⊢
    rcases hscan with hscan | hend
    · cases hscan with
      | taken result =>
        obtain ⟨n, rest'⟩ := result
        cases n with
        | natural n =>
          dsimp only [append_pair]
          split
          · exact .inl (.taken_pair n rest' more)
          · exact .inl (.refused _ _)
        | negative n => exact .inl (.refused _ _)
        | float isNegative magnitude => exact .inl (.refused _ _)
      | refused f f' => exact .inl (.refused _ _)
      | cut hend y => exact .inl (.cut_placed hend _)
    · cases x with
      | error f => exact .inl (.cut_placed hend _)
      | ok result =>
        obtain ⟨n, rest'⟩ := result
        obtain rfl : rest' = [] := hend
        cases n with
        | natural n =>
          dsimp only
          split
          · exact .inr rfl
          · exact .inl (.cut rfl _)
        | negative n => exact .inl (.cut rfl _)
        | float isNegative magnitude => exact .inl (.cut rfl _)
  · exact .inl (.refused _ _)

theorem scanWord_persists_as {α : Type} (letters : List UInt8) (a : α) (rest more : List UInt8) :
    Persists more
      (match scanWord letters rest with
        | .ok rest' => .ok (a, rest')
        | .error f => .error (Failure.placed f))
      (match scanWord letters (rest ++ more) with
        | .ok rest' => .ok (a, rest')
        | .error f => .error (Failure.placed f)) := by
  have hscan := scanWord_persists letters rest more
  generalize scanWord letters rest = x at hscan ⊢
  generalize scanWord letters (rest ++ more) = y at hscan ⊢
  cases hscan with
  | taken rest' => exact .taken_pair a rest' more
  | refused f f' => exact .refused _ _
  | cut hend y => exact .cut_placed hend _

theorem readBool_foretells (wanted : String) (bytes more : List UInt8) :
    Foretells more (readBool wanted bytes) (readBool wanted (bytes ++ more)) := by
  rw [readBool, readBool]
  rcases skipBlanks_append_cases bytes more with h | ⟨byte, rest, h, hmore⟩
  · rw [h]
    exact .inl (.cut rfl _)
  rw [h, hmore]
  dsimp only
  split
  · exact (scanWord_persists_as trueTail true rest more).foretells
  split
  · exact (scanWord_persists_as falseTail false rest more).foretells
  · exact .inl (.refused _ _)

theorem readText_persists {α : Type} (wanted : String) (parse : List Char → Except Flaw α)
    (bytes more : List UInt8) :
    Persists more (readText wanted parse bytes) (readText wanted parse (bytes ++ more)) := by
  rw [readText, readText]
  rcases skipBlanks_append_cases bytes more with h | ⟨byte, rest, h, hmore⟩
  · rw [h]
    exact .cut rfl _
  rw [h, hmore]
  dsimp only
  split
  · have hscan := scanText_persists rest more
    generalize scanText rest = x at hscan ⊢
    generalize scanText (rest ++ more) = y at hscan ⊢
    cases hscan with
    | taken result =>
      obtain ⟨cs, rest'⟩ := result
      dsimp only [append_pair, append_bytes]
      split
      · exact .taken_pair _ rest' more
      · exact .refused _ _
    | refused f f' => exact .refused _ _
    | cut hend y => exact .cut_placed hend _
  · exact .refused _ _

/-! ## Readers -/

/-- A reader whose outcomes for fronts persist unless they depend on the end. -/
structure Reader.Foresees {α : Type} (r : Reader α) : Prop where
  foretells (bytes more : List UInt8) : Foretells more (r.run bytes) (r.run (bytes ++ more))
  atEnd : AtEnd (r.run [])

namespace Reader.Foresees

theorem nat (bound : Nat) (wanted : String) : (Reader.nat bound wanted).Foresees :=
  ⟨readNat_foretells bound wanted, rfl⟩

theorem bool (wanted : String) : (Reader.bool wanted).Foresees :=
  ⟨readBool_foretells wanted, rfl⟩

theorem text {α : Type} (wanted : String) (parse : List Char → Except Flaw α) :
    (Reader.text wanted parse).Foresees :=
  ⟨fun bytes more => (readText_persists wanted parse bytes more).foretells, rfl⟩

theorem map {α β : Type} {r : Reader α} (h : r.Foresees) (f : α → β) : (r.map f).Foresees :=
  ⟨fun bytes more => (h.foretells bytes more).map (fun _ => rfl) fun _ => rfl,
    h.atEnd.map fun _ => rfl⟩

end Reader.Foresees

theorem Field.foresees_put {α σ : Type} {r : Reader α} (h : r.Foresees) (name : String)
    (put : α → σ → σ) : (Field.mk name (r.map put)).value.Foresees := h.map put

/-! ## Keys and ends -/

namespace Record

theorem beginKey_persists (byte : UInt8) (rest more : List UInt8) :
    Persists more (beginKey byte rest) (beginKey byte (rest ++ more)) := by
  rw [beginKey, beginKey]
  split
  · exact .taken_pair _ rest more
  · exact .refused _ _

theorem nextKey_persists (isFirst : Bool) (bytes more : List UInt8) :
    Persists more (nextKey isFirst bytes) (nextKey isFirst (bytes ++ more)) := by
  rw [nextKey, nextKey]
  rcases skipBlanks_append_cases bytes more with h | ⟨byte, rest, h, hmore⟩
  · rw [h]
    exact .cut rfl _
  rw [h, hmore]
  dsimp only
  split
  · exact .taken_pair _ rest more
  split
  · exact beginKey_persists byte rest more
  split
  · rcases skipBlanks_append_cases rest more with h | ⟨byte', rest', h, hmore⟩
    · rw [h]
      exact .cut rfl _
    rw [h, hmore]
    dsimp only
    split
    · exact .refused _ _
    · exact beginKey_persists byte' rest' more
  · exact .refused _ _

theorem nextElement_persists (isFirst : Bool) (bytes more : List UInt8) :
    Persists more (nextElement isFirst bytes) (nextElement isFirst (bytes ++ more)) := by
  rw [nextElement, nextElement]
  rcases skipBlanks_append_cases bytes more with h | ⟨byte, rest, h, hmore⟩
  · rw [h]
    exact .cut rfl _
  rw [h, hmore]
  dsimp only
  split
  · exact .taken_pair _ (byte :: rest) more
  split
  · exact .taken_pair _ (byte :: rest) more
  split
  · rcases skipBlanks_append_cases rest more with h | ⟨byte', rest', h, hmore⟩
    · rw [h]
      exact .cut rfl _
    rw [h, hmore]
    dsimp only
    split
    · exact .refused _ _
    · exact .taken_pair _ (byte' :: rest') more
  · exact .refused _ _

/-- A comma is one too many at the end of a list, whatever is behind it. -/
theorem endList_of_comma {rest : List UInt8} (h : skipBlanks bytes = Byte.comma :: rest) :
    ∃ f, endList bytes = .error f := by
  rw [endList, h]
  dsimp only
  rw [if_neg (by decide), if_pos rfl]
  split
  · exact ⟨_, rfl⟩
  split
  · exact ⟨_, rfl⟩
  · exact ⟨_, rfl⟩

theorem endList_persists (bytes more : List UInt8) :
    Persists more (endList bytes) (endList (bytes ++ more)) := by
  rcases skipBlanks_append_cases bytes more with h | ⟨byte, rest, h, hmore⟩
  · rw [endList, h]
    exact .cut rfl _
  by_cases hcomma : byte = Byte.comma
  · subst hcomma
    obtain ⟨f, hf⟩ := endList_of_comma h
    obtain ⟨f', hf'⟩ := endList_of_comma hmore
    rw [hf, hf']
    exact .refused f f'
  · rw [endList, endList, h, hmore]
    dsimp only
    rw [if_neg hcomma, if_neg hcomma]
    split
    · exact .taken_bytes rest more
    · exact .refused _ _

/-! ## Records -/

theorem sawEnd_place {place : Flaw → List UInt8 → Fault}
    (h : ∀ flaw rest, (place flaw rest).sawEnd = false) (failure : Failure) :
    Fails.sawEnd (Failure.place place failure) = Fails.sawEnd failure := by
  cases failure with
  | placed f => rfl
  | unplaced flaw rest => exact h flaw rest

theorem sawEnd_placeInObject (flaw : Flaw) (rest : List UInt8) :
    (placeInObject flaw rest).sawEnd = false := rfl

theorem sawEnd_placeInList (flaw : Flaw) (rest : List UInt8) :
    (placeInList flaw rest).sawEnd = false := by
  rw [placeInList]
  split
  · rfl
  split
  · rfl
  · rfl

section

variable {σ : Type} {fields : List (Field σ)}

theorem readValue_eq_bind {seen : List String} {key : String} {field : Field σ}
    (hfind : fields.find? (·.name == key) = some field) (hseen : key ∉ seen) (s : σ)
    (bytes : List UInt8) :
    readValue fields seen key s bytes =
      (scanColon bytes).bind fun rest =>
        ((field.value.run rest).mapError (Failure.place placeInObject)).bind fun (change, rest') =>
          .ok (change s, key :: seen, rest') := by
  simp only [readValue, hfind, if_neg hseen, bind]
  cases scanColon bytes with
  | error f => rfl
  | ok rest =>
    dsimp only [Except.bind]
    cases field.value.run rest <;> rfl

theorem readElements_eq_bind (isFirst : Bool) (s : σ) (field : Field σ) (fields : List (Field σ))
    (bytes : List UInt8) :
    readElements isFirst s (field :: fields) bytes =
      (nextElement isFirst bytes).bind fun (isElement, rest) =>
        if isElement then
          ((field.value.run rest).mapError (Failure.place placeInList)).bind fun (change, rest') =>
            readElements false (change s) fields rest'
        else (endList rest).map fun rest' => (s, rest') := by
  rw [readElements]
  cases nextElement isFirst bytes with
  | error f => rfl
  | ok result =>
    obtain ⟨isElement, rest⟩ := result
    cases isElement with
    | false => rfl
    | true =>
      simp only [Except.bind, if_true]
      cases field.value.run rest <;> rfl

theorem readMembers_eq_bind (fields : List (Field σ)) (seen : List String) (isFirst : Bool) (s : σ)
    (bytes : List UInt8) :
    readMembers fields seen isFirst s bytes =
      (nextKey isFirst bytes).bind fun (isKey, rest) =>
        if isKey then
          (scanText rest).bind fun (key, rest') =>
            (readValue fields seen (String.ofList key) s rest').bind
              fun (s', seen', rest'') => readMembers fields seen' false s' rest''
        else .ok (s, rest) := by
  rw [readMembers]
  split
  · rename_i hkey
    rw [hkey]
    rfl
  · rename_i hkey
    rw [hkey]
    rfl
  · rename_i hkey
    split
    · rename_i htext
      simp only [hkey, Except.bind, if_true, htext]
    · rename_i htext
      split
      · rename_i hvalue
        simp only [hkey, Except.bind, if_true, htext, hvalue]
      · rename_i hvalue
        simp only [hkey, Except.bind, if_true, htext, hvalue]

theorem readMembers_nil_atEnd (seen : List String) (isFirst : Bool) (s : σ) :
    AtEnd (readMembers fields seen isFirst s []) := by
  rw [readMembers_eq_bind]
  rfl

theorem readElements_nil_atEnd (isFirst : Bool) (s : σ) (fields : List (Field σ)) :
    AtEnd (readElements isFirst s fields []) := by
  cases fields with
  | nil => rfl
  | cons field fields => rfl

variable (hfields : ∀ field ∈ fields, field.value.Foresees)
include hfields

theorem readValue_foretells (seen : List String) (key : String) (s : σ)
    (bytes more : List UInt8) :
    Foretells more (readValue fields seen key s bytes)
      (readValue fields seen key s (bytes ++ more)) := by
  cases hfind : fields.find? (·.name == key) with
  | none =>
    simp only [readValue, hfind]
    refine (scanColon_persists bytes more).bind_foretells fun rest _ => ?_
    exact (skipValue_foretells rest more).bind (fun rest _ => .inl (.taken (s, seen, rest)))
      fun rest hrest => hrest
  | some field =>
    have hvalue := hfields field (List.mem_of_find?_eq_some hfind)
    by_cases hseen : key ∈ seen
    · simp only [readValue, hfind, if_pos hseen]
      exact .inl (.refused _ _)
    · rw [readValue_eq_bind hfind hseen, readValue_eq_bind hfind hseen]
      refine (scanColon_persists bytes more).bind_foretells fun rest _ => ?_
      apply ((hvalue.foretells rest more).mapError (sawEnd_place sawEnd_placeInObject)).bind
      · exact fun (change, rest) _ => .inl (.taken (change s, key :: seen, rest))
      · exact fun _ hrest => hrest

theorem readMembers_foretells (seen : List String) (isFirst : Bool) (s : σ)
    (bytes more : List UInt8) :
    Foretells more (readMembers fields seen isFirst s bytes)
      (readMembers fields seen isFirst s (bytes ++ more)) := by
  induction hlength : bytes.length using Nat.strongRecOn generalizing seen isFirst s bytes with
  | ind length ih =>
    rw [readMembers_eq_bind, readMembers_eq_bind]
    refine (nextKey_persists isFirst bytes more).bind_foretells fun (isKey, rest) hkey => ?_
    cases isKey with
    | false => exact .inl (.taken_pair s rest more)
    | true =>
      refine (scanText_persists rest more).bind_foretells fun (key, rest') htext => ?_
      apply (readValue_foretells hfields seen (String.ofList key) s rest' more).bind
      · intro (s', seen', rest'') hvalue
        have hshorter : rest''.length < length := by
          have := length_lt_of_nextKey hkey
          have := length_lt_of_scanText htext
          have := length_le_of_readValue hvalue
          omega
        exact ih _ hshorter seen' false s' rest'' rfl
      · rintro ⟨s', seen', rest''⟩ hend
        obtain rfl : rest'' = [] := hend
        exact readMembers_nil_atEnd seen' false s'

theorem readElements_foretells (isFirst : Bool) (s : σ) (bytes more : List UInt8) :
    Foretells more (readElements isFirst s fields bytes)
      (readElements isFirst s fields (bytes ++ more)) := by
  induction fields generalizing isFirst s bytes with
  | nil => exact ((endList_persists bytes more).map fun _ => rfl).foretells
  | cons field fields ih =>
    obtain ⟨hfield, hrest⟩ := List.forall_mem_cons.mp hfields
    rw [readElements_eq_bind, readElements_eq_bind]
    refine (nextElement_persists isFirst bytes more).bind_foretells fun (isElement, rest) _ => ?_
    cases isElement with
    | false => exact ((endList_persists rest more).map fun _ => rfl).foretells
    | true =>
      apply ((hfield.foretells rest more).mapError (sawEnd_place sawEnd_placeInList)).bind
      · exact fun (change, rest') _ => ih hrest false (change s) rest'
      · rintro ⟨change, rest'⟩ hend
        obtain rfl : rest' = [] := hend
        exact readElements_nil_atEnd false (change s) fields

end

end Record

theorem Reader.Foresees.record {σ : Type} {fields : List (Field σ)}
    (hfields : ∀ field ∈ fields, field.value.Foresees) (wanted : String) (initial : σ) :
    (Reader.record wanted fields initial).Foresees := by
  refine ⟨fun bytes more => ?_, rfl⟩
  change Foretells more (Record.read wanted fields initial bytes)
    (Record.read wanted fields initial (bytes ++ more))
  rw [Record.read, Record.read]
  rcases skipBlanks_append_cases bytes more with h | ⟨byte, rest, h, hmore⟩
  · rw [h]
    exact .inl (.cut rfl _)
  rw [h, hmore]
  dsimp only
  split
  · exact (Record.readElements_foretells hfields true initial rest more).mapError fun _ => rfl
  split
  · exact (Record.readMembers_foretells hfields [] true initial rest more).mapError fun _ => rfl
  · exact .inl (.refused _ _)

/-! ## Documents -/

theorem Reader.document_eq_bind {α : Type} (r : Reader α) (bytes : List UInt8) :
    r.document bytes =
      ((r.run bytes).mapError (Record.Failure.place Fault.before)).bind fun (a, rest) =>
        match skipBlanks rest with
        | [] => .ok a
        | rest' => .error (.looking .trailingCharacters rest') := by
  rw [Reader.document]
  cases r.run bytes <;> rfl

/-- A flaw that a reader finds in the front of a document, without having seen the end of the
front, is a flaw of every document that begins so. -/
theorem Reader.Foresees.document_error {α : Type} {r : Reader α} (h : r.Foresees) {f : Fault}
    (hfront : r.document bytes = .error f) (hend : f.sawEnd = false) (more : List UInt8) :
    ∃ f', r.document (bytes ++ more) = .error f' := by
  have hrun := (h.foretells bytes more).mapError
    (Record.sawEnd_place Fault.sawEnd_before)
  rw [Reader.document_eq_bind] at hfront ⊢
  generalize (r.run bytes).mapError (Record.Failure.place Fault.before) = x at hrun hfront
  generalize (r.run (bytes ++ more)).mapError (Record.Failure.place Fault.before) = y at hrun ⊢
  cases x with
  | error e =>
    cases hfront
    obtain ⟨e', rfl⟩ := hrun.exists_error hend
    exact ⟨e', rfl⟩
  | ok result =>
    obtain ⟨a, rest⟩ := result
    dsimp only [Except.bind] at hfront
    rcases skipBlanks_append_cases rest more with hblank | ⟨byte, rest', hblank, hmore⟩
    · rw [hblank] at hfront
      cases hfront
    · rcases hrun with hrun | hrest
      · rw [hrun.eq_ok]
        dsimp only [Except.bind, append_pair, append_bytes]
        rw [hmore]
        exact ⟨_, rfl⟩
      · obtain rfl : rest = [] := hrest
        cases hblank

end PingTun.Json
