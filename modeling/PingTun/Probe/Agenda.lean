-- SUMMARY: Replies that are still to come, kept in the order in which they are due.
import PingTun.Address

/-! # Agendas

What is put into an agenda is nearly always due last. Agendas therefore consist of a front, whose
first reply is the next one, and of a back that is kept the other way round. The list of all
replies is their view: `insert` puts a reply into it, and `next?` and `tail` take it apart.
-/

namespace PingTun

/-- A reply that is still to come. -/
structure Outstanding where
  due : Nat
  address : Address
deriving DecidableEq, Repr

namespace Outstanding

/-- Put a reply behind those that are not due later. -/
def insert (reply : Outstanding) : List Outstanding → List Outstanding
  | [] => [reply]
  | next :: rest =>
    if reply.due < next.due then reply :: next :: rest else next :: insert reply rest

theorem mem_insert {reply other : Outstanding} {replies : List Outstanding} :
    other ∈ insert reply replies ↔ other = reply ∨ other ∈ replies := by
  induction replies with
  | nil => simp [insert]
  | cons next rest ih =>
    rw [insert]
    split
    · simp
    · simp only [List.mem_cons, ih]
      exact or_left_comm

theorem pairwise_insert (reply : Outstanding) {replies : List Outstanding}
    (h : replies.Pairwise (·.due ≤ ·.due)) : (insert reply replies).Pairwise (·.due ≤ ·.due) := by
  induction replies with
  | nil => simp [insert]
  | cons next rest ih =>
    obtain ⟨hnext, hrest⟩ := List.pairwise_cons.mp h
    rw [insert]
    split
    · rename_i hlt
      refine List.pairwise_cons.mpr ⟨?_, h⟩
      intro other hother
      rcases List.mem_cons.mp hother with rfl | hmem
      · exact Nat.le_of_lt hlt
      · exact Nat.le_trans (Nat.le_of_lt hlt) (hnext other hmem)
    · rename_i hge
      refine List.pairwise_cons.mpr ⟨?_, ih hrest⟩
      intro other hother
      rcases mem_insert.mp hother with rfl | hmem
      · exact Nat.le_of_not_lt hge
      · exact hnext other hmem

/-- A reply that is due last goes to the end. -/
theorem insert_eq_append {reply : Outstanding} {replies : List Outstanding}
    (h : ∀ other ∈ replies, other.due ≤ reply.due) : insert reply replies = replies ++ [reply] := by
  induction replies with
  | nil => rfl
  | cons next rest ih =>
    rw [insert, if_neg (Nat.not_lt.mpr (h next List.mem_cons_self)),
      ih fun other hother => h other (List.mem_cons_of_mem next hother)]
    rfl

end Outstanding

/-! ## Agendas -/

structure Agenda where
  front : List Outstanding := []
  /-- What follows the front, the last reply first. -/
  back : List Outstanding := []
  /-- No reply is due later. -/
  latest : Nat := 0
  due_le_latest : ∀ reply ∈ front ++ back.reverse, reply.due ≤ latest := by simp
  back_eq_nil : front = [] → back = [] := by simp
deriving DecidableEq

namespace Agenda

/-- All replies, in the order in which they are due. -/
def toList (a : Agenda) : List Outstanding := a.front ++ a.back.reverse

/-- Put in a reply that is due last. -/
def push (reply : Outstanding) (a : Agenda) (h : a.latest ≤ reply.due) : Agenda :=
  have due_le {other : Outstanding} (hother : other ∈ a.toList) : other.due ≤ reply.due :=
    Nat.le_trans (a.due_le_latest other hother) h
  match hfront : a.front with
  | [] => { front := [reply], latest := reply.due }
  | next :: rest => {
      front := next :: rest
      back := reply :: a.back
      latest := reply.due
      due_le_latest := by
        intro other hother
        simp only [List.reverse_cons, ← List.append_assoc, List.mem_append, List.mem_singleton]
          at hother
        rcases hother with hmem | rfl
        · exact due_le (by simpa [toList, hfront, or_assoc] using hmem)
        · exact Nat.le_refl _ }

/-- Put a reply behind those that are not due later. -/
def insert (reply : Outstanding) (a : Agenda) : Agenda :=
  if h : a.latest ≤ reply.due then a.push reply h
  else {
    front := reply.insert a.toList
    latest := a.latest
    due_le_latest := by
      intro other hother
      simp only [List.reverse_nil, List.append_nil, Outstanding.mem_insert] at hother
      rcases hother with rfl | hmem
      · exact Nat.le_of_not_le h
      · exact a.due_le_latest other hmem }

/-- The reply that is due next. -/
def next? (a : Agenda) : Option Outstanding := a.front.head?

/-- All replies but the next one. -/
def tail (a : Agenda) : Agenda :=
  match hfront : a.front with
  | [] => a
  | [_] => {
      front := a.back.reverse
      latest := a.latest
      due_le_latest := by
        intro other hother
        simp only [List.reverse_nil, List.append_nil] at hother
        exact a.due_le_latest other (List.mem_append_right _ hother) }
  | _ :: second :: rest => {
      front := second :: rest
      back := a.back
      latest := a.latest
      due_le_latest := by
        intro other hother
        refine a.due_le_latest other ?_
        rw [hfront, List.cons_append]
        exact List.mem_cons_of_mem _ hother }

theorem toList_push {reply : Outstanding} {a : Agenda} (h : a.latest ≤ reply.due) :
    (a.push reply h).toList = a.toList ++ [reply] := by
  unfold push
  split
  · rename_i hfront
    simp [toList, hfront, a.back_eq_nil hfront]
  · rename_i hfront
    simp [toList, hfront]

@[simp] theorem toList_insert (reply : Outstanding) (a : Agenda) :
    (a.insert reply).toList = reply.insert a.toList := by
  unfold insert
  split
  · rename_i h
    rw [toList_push, Outstanding.insert_eq_append]
    exact fun other hother => Nat.le_trans (a.due_le_latest other hother) h
  · simp [toList]

@[simp] theorem head?_toList (a : Agenda) : a.toList.head? = a.next? := by
  unfold toList next?
  cases hfront : a.front with
  | nil => simp [a.back_eq_nil hfront]
  | cons next rest => rfl

@[simp] theorem toList_tail (a : Agenda) : a.tail.toList = a.toList.tail := by
  unfold tail
  split
  · rename_i hfront
    simp [toList, hfront, a.back_eq_nil hfront]
  · rename_i hfront
    simp [toList, hfront]
  · rename_i hfront
    simp [toList, hfront]

end Agenda

end PingTun
