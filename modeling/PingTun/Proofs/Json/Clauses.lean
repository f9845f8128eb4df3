-- SUMMARY: What a value says of a record: field by field, in whatever order its members are.
import PingTun.Proofs.Json.Grammar
import Mathlib.Data.List.Pairwise

/-! # What values say of records

An object says of a field what the only member of that name gives it, and nothing if there is none.
It is read member by member instead, and each member changes the record at once. That comes to the
same, as changes of different fields do not get in each other's way.
-/

namespace PingTun.Json

/-- A field by its name, and the change that a value given for it makes to the record. -/
structure Clause (σ : Type) where
  name : String
  change? : Value → Option (σ → σ)

/-- A clause that puts what is read of a value into the record. -/
def Clause.put {σ α : Type} (name : String) (of? : Value → Option α) (put : α → σ → σ) :
    Clause σ where
  name := name
  change? v := (of? v).map put

/-- The name that the key of a member spells, if it spells one. -/
def Member.name? {V : Type} (m : Member V) : Option String := (spelled? m.key).map String.ofList

/-- The values that are given under a name. -/
def given (name : String) (members : List (Member Value)) : List Value :=
  (members.filter (·.name? = some name)).map (·.value)

namespace Clause

variable {σ : Type}

/-- The change that members make by a clause. Without a value nothing is changed, and more than one
is refused. -/
def changeOf? (c : Clause σ) (members : List (Member Value)) : Option (σ → σ) :=
  match given c.name members with
  | [] => some id
  | [v] => c.change? v
  | _ => none

end Clause

namespace Record

variable {σ : Type}

/-- The record that the changes of all clauses make of another one, if there are all of them. -/
def change? (changeOf? : Clause σ → Option (σ → σ)) : List (Clause σ) → σ → Option σ
  | [], s => some s
  | c :: clauses, s => (changeOf? c).bind fun f => change? changeOf? clauses (f s)

/-- The record that the members of an object make of another one, if all of their keys are names. -/
def ofMembers? (clauses : List (Clause σ)) (s : σ) (members : List (Member Value)) : Option σ :=
  if ∀ m ∈ members, m.name?.isSome then change? (·.changeOf? members) clauses s else none

/-- The record that the elements of a list make of another one, in the order of the clauses. -/
def ofElements? : List (Clause σ) → σ → List Value → Option σ
  | _, s, [] => some s
  | [], _, _ :: _ => none
  | c :: clauses, s, v :: values =>
    (c.change? v).bind fun change => ofElements? clauses (change s) values

/-- The record that a value makes of another one. -/
def of? (clauses : List (Clause σ)) (s : σ) : Value → Option σ
  | .object _ members => ofMembers? clauses s members
  | .list _ items => ofElements? clauses s (items.map (·.value))
  | _ => none

/-! ## Member by member -/

/-- One member makes its change, unless its name has been seen. -/
def stepMember? (clauses : List (Clause σ)) (seen : List String) (s : σ) (name : String)
    (v : Value) : Option (σ × List String) :=
  match clauses.find? (·.name == name) with
  | none => some (s, seen)
  | some c => if name ∈ seen then none else (c.change? v).map fun change => (change s, name :: seen)

/-- All members make their changes, one after the other. -/
def runMembers? (clauses : List (Clause σ)) (seen : List String) (s : σ) :
    List (Member Value) → Option σ
  | [] => some s
  | m :: members =>
    m.name?.bind fun name =>
      (stepMember? clauses seen s name m.value).bind fun (s', seen') =>
        runMembers? clauses seen' s' members

end Record

/-! ## Changes that do not get in each other's way -/

/-- Clauses of different fields, whose changes can be made in either order. -/
structure Clause.Independent {σ : Type} (c d : Clause σ) : Prop where
  ne : c.name ≠ d.name
  commute : ∀ {v w : Value} {f g : σ → σ}, c.change? v = some f → d.change? w = some g →
    ∀ s, f (g s) = g (f s)

instance {σ : Type} : Std.Symm (@Clause.Independent σ) where
  symm _ _ h := ⟨h.ne.symm, fun hd hc s => (h.commute hc hd s).symm⟩

theorem Clause.independent_put {σ α β : Type} {name name' : String} {of? : Value → Option α}
    {of?' : Value → Option β} {put : α → σ → σ} {put' : β → σ → σ} (hne : name ≠ name')
    (h : ∀ a b s, put a (put' b s) = put' b (put a s)) :
    (Clause.put name of? put).Independent (Clause.put name' of?' put') where
  ne := hne
  commute {v w f g} hf hg s := by
    obtain ⟨a, -, rfl⟩ := Option.map_eq_some_iff.mp hf
    obtain ⟨b, -, rfl⟩ := Option.map_eq_some_iff.mp hg
    exact h a b s

section

variable {σ : Type} {c d : Clause σ} {clauses : List (Clause σ)} {seen : List String}
  {m : Member Value} {members : List (Member Value)} {name : String} {s : σ} {f : σ → σ}

/-! ## One member more -/

theorem given_cons_of_ne (h : m.name? ≠ some name) :
    given name (m :: members) = given name members := by
  rw [given, List.filter_cons_of_neg (by simpa using h)]
  rfl

theorem given_cons_of_eq (h : m.name? = some name) :
    given name (m :: members) = m.value :: given name members := by
  rw [given, List.filter_cons_of_pos (by simpa using h)]
  rfl

namespace Clause

/-- The change that members make by a clause, once some names have been seen. -/
def changeAfter? (c : Clause σ) (seen : List String) (members : List (Member Value)) :
    Option (σ → σ) :=
  match given c.name members with
  | [] => some id
  | [v] => if c.name ∈ seen then none else c.change? v
  | _ => none

theorem changeAfter?_nil (c : Clause σ) (members : List (Member Value)) :
    c.changeAfter? [] members = c.changeOf? members := by
  unfold changeAfter? changeOf?
  split <;> rfl

/-- Members make no change by a clause, or the change of some value. -/
theorem id_or_change_of_changeAfter? (h : c.changeAfter? seen members = some f) :
    f = id ∨ ∃ v, c.change? v = some f := by
  unfold changeAfter? at h
  split at h
  · exact .inl (Option.some.inj h).symm
  · split at h
    · cases h
    · exact .inr ⟨_, h⟩
  · cases h

theorem eq_id_of_changeAfter? (hseen : c.name ∈ seen) (h : c.changeAfter? seen members = some f) :
    f = id := by
  unfold changeAfter? at h
  split at h
  · exact (Option.some.inj h).symm
  · rw [if_pos hseen] at h
    cases h
  · cases h

theorem changeAfter?_cons_of_ne (h : m.name? ≠ some c.name) :
    c.changeAfter? seen (m :: members) = c.changeAfter? seen members := by
  unfold changeAfter?
  rw [given_cons_of_ne h]

/-- By its own clause a member makes the change of its value, if there is no other such member. -/
theorem changeAfter?_cons_of_eq (h : m.name? = some c.name) (hseen : c.name ∉ seen) :
    c.changeAfter? seen (m :: members) =
      (c.changeAfter? (c.name :: seen) members).bind fun _ => c.change? m.value := by
  unfold changeAfter?
  rw [given_cons_of_eq h]
  cases given c.name members with
  | nil => exact if_neg hseen
  | cons v values =>
    cases values with
    | nil =>
      dsimp only
      rw [if_pos List.mem_cons_self]
      rfl
    | cons w values => rfl

theorem changeAfter?_cons_of_mem (h : m.name? = some c.name) (hseen : c.name ∈ seen) :
    c.changeAfter? seen (m :: members) = none := by
  unfold changeAfter?
  rw [given_cons_of_eq h]
  cases given c.name members with
  | nil => exact if_pos hseen
  | cons v values => rfl

theorem changeAfter?_seen (h : c.name ≠ name) :
    c.changeAfter? (name :: seen) members = c.changeAfter? seen members := by
  simp only [changeAfter?, List.mem_cons, h, false_or]

end Clause

namespace Record

/-! ## All changes -/

variable {changeOf? changeOf?' : Clause σ → Option (σ → σ)}

theorem change?_congr (h : ∀ c ∈ clauses, changeOf? c = changeOf?' c) (s : σ) :
    change? changeOf? clauses s = change? changeOf?' clauses s := by
  induction clauses generalizing s with
  | nil => rfl
  | cons c clauses ih =>
    obtain ⟨hc, hrest⟩ := List.forall_mem_cons.mp h
    simp only [change?, hc, ih hrest]

theorem change?_of_id (h : ∀ c ∈ clauses, changeOf? c = some id) (s : σ) :
    change? changeOf? clauses s = some s := by
  induction clauses with
  | nil => rfl
  | cons c clauses ih =>
    obtain ⟨hc, hrest⟩ := List.forall_mem_cons.mp h
    rw [change?, hc]
    exact ih hrest

theorem change?_of_none (hmem : c ∈ clauses) (h : changeOf? c = none) (s : σ) :
    change? changeOf? clauses s = none := by
  induction clauses generalizing s with
  | nil => cases hmem
  | cons d clauses ih =>
    rw [change?]
    rcases List.mem_cons.mp hmem with rfl | hmem
    · rw [h]
      rfl
    · cases changeOf? d with
      | none => rfl
      | some g => exact ih hmem (g s)

/-- A change by one clause can be made in front of all others. -/
theorem change?_first (hpairwise : clauses.Pairwise Clause.Independent) (hmem : d ∈ clauses)
    (hothers : ∀ c ∈ clauses, c.name ≠ d.name → changeOf?' c = changeOf? c)
    (hown : ∀ g, changeOf? d = some g → g = id)
    (hchange : changeOf?' d = (changeOf? d).bind fun _ => some f)
    (hcommute : ∀ c ∈ clauses, c.name ≠ d.name → ∀ g, changeOf? c = some g →
      ∀ s, f (g s) = g (f s)) (s : σ) :
    change? changeOf?' clauses s = change? changeOf? clauses (f s) := by
  induction clauses generalizing s with
  | nil => cases hmem
  | cons c clauses ih =>
    obtain ⟨hindependent, htail⟩ := List.pairwise_cons.mp hpairwise
    obtain ⟨hsame, hsames⟩ := List.forall_mem_cons.mp hothers
    obtain ⟨hfirst, hfirsts⟩ := List.forall_mem_cons.mp hcommute
    rw [change?, change?]
    rcases List.mem_cons.mp hmem with rfl | hmem
    · rw [hchange]
      cases hd : changeOf? d with
      | none => rfl
      | some g =>
        rw [hown g hd]
        dsimp only [Option.bind_some, id]
        exact change?_congr (fun c hc => hsames c hc (hindependent c hc).ne.symm) (f s)
    · have hne := (hindependent d hmem).ne
      rw [hsame hne]
      cases hc : changeOf? c with
      | none => rfl
      | some g =>
        dsimp only [Option.bind_some]
        rw [ih htail hmem hsames hfirsts, hfirst hne g hc]

/-! ## Member by member, and clause by clause -/

/-- What one member says more of a record than those behind it: its change comes first. -/
theorem change?_cons (hpairwise : clauses.Pairwise Clause.Independent) (hmem : d ∈ clauses)
    (hname : m.name? = some d.name) (hseen : d.name ∉ seen) (hf : d.change? m.value = some f)
    (members : List (Member Value)) (s : σ) :
    change? (·.changeAfter? seen (m :: members)) clauses s =
      change? (·.changeAfter? (d.name :: seen) members) clauses (f s) := by
  apply change?_first hpairwise hmem
  · intro c _ hne
    rw [Clause.changeAfter?_seen hne, Clause.changeAfter?_cons_of_ne]
    rw [hname]
    exact fun h => hne (Option.some.inj h).symm
  · exact fun g => Clause.eq_id_of_changeAfter? List.mem_cons_self
  · rw [Clause.changeAfter?_cons_of_eq hname hseen, hf]
  · intro c hc hne g hg s
    rcases Clause.id_or_change_of_changeAfter? hg with rfl | ⟨v, hv⟩
    · rfl
    · have hindependent := hpairwise.forall hmem hc fun h => hne (h ▸ rfl)
      exact hindependent.commute hf hv s

theorem runMembers?_eq (hpairwise : clauses.Pairwise Clause.Independent) (seen : List String)
    (s : σ) (members : List (Member Value)) :
    runMembers? clauses seen s members =
      if ∀ m ∈ members, m.name?.isSome then change? (·.changeAfter? seen members) clauses s
      else none := by
  induction members generalizing seen s with
  | nil =>
    rw [if_pos (List.forall_mem_nil _)]
    exact (change?_of_id (fun _ _ => rfl) s).symm
  | cons m members ih =>
    rw [runMembers?]
    cases hname : m.name? with
    | none =>
      have hnamed : ¬ ∀ m' ∈ m :: members, m'.name?.isSome = true := by
        intro h
        have hm := h m List.mem_cons_self
        rw [hname] at hm
        cases hm
      exact (if_neg hnamed).symm
    | some name =>
      have hnamed : (∀ m' ∈ m :: members, m'.name?.isSome = true) ↔
          ∀ m' ∈ members, m'.name?.isSome = true := by
        rw [List.forall_mem_cons, hname]
        exact and_iff_right rfl
      simp only [hnamed, Option.bind_some, stepMember?]
      cases hfind : clauses.find? (·.name == name) with
      | none =>
        have hne : ∀ c ∈ clauses, m.name? ≠ some c.name := by
          intro c hc h
          have hnone := List.find?_eq_none.mp hfind c hc
          exact hnone (beq_iff_eq.mpr (Option.some.inj (h.symm.trans hname)))
        dsimp only [Option.bind_some]
        rw [ih, change?_congr fun c hc => Clause.changeAfter?_cons_of_ne (hne c hc)]
      | some d =>
        have hmem := List.mem_of_find?_eq_some hfind
        obtain rfl : d.name = name := by simpa using List.find?_some hfind
        dsimp only
        by_cases hseen : d.name ∈ seen
        · rw [if_pos hseen, change?_of_none hmem (Clause.changeAfter?_cons_of_mem hname hseen),
            ite_self]
          rfl
        · rw [if_neg hseen]
          cases hf : d.change? m.value with
          | none =>
            have hown : d.changeAfter? seen (m :: members) = none := by
              rw [Clause.changeAfter?_cons_of_eq hname hseen, hf, Option.bind_fun_none]
            rw [change?_of_none hmem hown, ite_self]
            rfl
          | some f =>
            rw [change?_cons hpairwise hmem hname hseen hf]
            exact ih (d.name :: seen) (f s)

/-- The order of members does not matter: a record is what each field is given by them. -/
theorem runMembers?_nil (hpairwise : clauses.Pairwise Clause.Independent) (s : σ)
    (members : List (Member Value)) :
    runMembers? clauses [] s members = ofMembers? clauses s members := by
  rw [runMembers?_eq hpairwise, ofMembers?,
    change?_congr fun c _ => Clause.changeAfter?_nil c members]

end Record

end

end PingTun.Json
