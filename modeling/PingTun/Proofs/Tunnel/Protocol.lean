-- SUMMARY: The calls that bind control sockets to units, in order, up to the first that fails.
import PingTun.Proofs.Host.Ledger
import PingTun.Proofs.Tunnel.Candidates
import PingTun.Tunnel.MacOS

/-! # The protocol of control sockets

For every candidate a socket of its own goes through the same four calls, each of which is made only
if those in front of it have succeeded. A socket that was opened in vain is closed before the next
candidate is tried. Unit 0 is passed over without a call.
-/

namespace PingTun

namespace Call

/-- A call that failed, in place of one that did not. -/
def failed (cause : Errno) : Call → Call
  | .openControlSocket _ => .openControlSocket (.error cause)
  | .closeOnExec socket _ => .closeOnExec socket (some cause)
  | .lookUpControl socket name _ => .lookUpControl socket name (.error cause)
  | .connectControl socket address guarded _ =>
    .connectControl socket address guarded (some cause)
  | call => call

theorem connectControl_of_failed {call : Call} {cause : Errno} {socket : Descriptor}
    {address : ControlAddress} {guarded : Bool} {refusal : Option Errno}
    (h : .connectControl socket address guarded refusal = call.failed cause) :
    ∃ before, call = .connectControl socket address guarded before := by
  cases call with
  | connectControl _ _ _ before =>
    cases h
    exact ⟨before, rfl⟩
  | _ => cases h

end Call

namespace MacOS

/-! ## Attempts -/

/-- The calls that bind a socket to a unit: the socket is opened, kept from programs that are
started later, asked for the number of the kernel control, and connected to the unit of that
control. -/
def protocol (socket : Descriptor) (id unit : UInt32) : List Call :=
  [.openControlSocket (.ok socket), .closeOnExec socket none,
    .lookUpControl socket controlName (.ok id),
    .connectControl socket (controlAddress id unit) true none]

theorem of_mem_protocol {socket s : Descriptor} {id unit : UInt32} {address : ControlAddress}
    {guarded : Bool} {refusal : Option Errno}
    (h : .connectControl s address guarded refusal ∈ protocol socket id unit) :
    address.unit = unit ∧ guarded = true := by
  simp only [protocol, List.mem_cons, reduceCtorEq, false_or, List.not_mem_nil, or_false] at h
  cases h
  exact ⟨rfl, rfl⟩

/-- The calls that were made for a candidate, and the socket that they are about. -/
structure Attempt where
  unit : UInt32
  socket : Descriptor
  calls : List Call

namespace Attempt

/-- All calls of the protocol have succeeded. -/
structure Granted (a : Attempt) : Prop where
  unit_ne : a.unit ≠ 0
  calls_eq : ∃ id, a.calls = protocol a.socket id a.unit

/-- The calls of a protocol up to one that failed, and the socket is closed if there was one. -/
inductive Cut (socket : Descriptor) (unit : UInt32) : List Call → Prop
  | unopened (cause : Errno) : Cut socket unit [.openControlSocket (.error cause)]
  | closed {id : UInt32} {front back : List Call} {call : Call} (cause : Errno) :
    protocol socket id unit = front ++ call :: back → front ≠ [] →
    Cut socket unit (front ++ [call.failed cause, .close socket (some (.tunnel none))])

/-- No call was made for unit 0, or one of the calls has failed, and was the last one. -/
def Refused (a : Attempt) : Prop :=
  if a.unit = 0 then a.calls = [] else Cut a.socket a.unit a.calls

section

variable {s : Descriptor} {address : ControlAddress} {guarded : Bool} {refusal : Option Errno}

theorem Cut.of_mem {socket : Descriptor} {unit : UInt32} {calls : List Call}
    (hcut : Cut socket unit calls) (h : .connectControl s address guarded refusal ∈ calls) :
    address.unit = unit ∧ guarded = true := by
  cases hcut with
  | unopened cause => cases List.mem_singleton.mp h
  | @closed id front back call cause hprotocol hne =>
    rcases List.mem_append.mp h with hfront | hlast
    · apply of_mem_protocol
      rw [hprotocol]
      exact List.mem_append_left _ hfront
    · rcases List.mem_cons.mp hlast with hfailed | hclose
      · obtain ⟨before, rfl⟩ := Call.connectControl_of_failed hfailed
        apply of_mem_protocol
        rw [hprotocol]
        exact List.mem_append_right _ List.mem_cons_self
      · cases List.mem_singleton.mp hclose

end

end Attempt

/-! ## New sockets -/

/-- What a host has become: these calls were made, and the descriptors that they opened, so many of
them, are the next that there were to be handed out, in order. -/
structure Makes (h : Host) (calls : List Call) (count : Nat) (after : Host) : Prop where
  calls_eq : after.calls = h.calls ++ calls
  next_eq : after.next = h.next + count
  opened_eq : calls.filterMap Call.opened? = List.range' h.next count

/-- One socket was opened, and stands first in the books. -/
structure OnTop (h : Host) (calls : List Call) (top : OpenDescriptor) (after : Host) : Prop
    extends Makes h calls 1 after where
  head_eq : after.live.head? = some top
  descriptor_eq : top.descriptor = h.next

section

variable {h o after : Host} {calls later : List Call} {m n : Nat} {top : OpenDescriptor}

theorem Makes.refl (h : Host) : Makes h [] 0 h := ⟨(List.append_nil _).symm, rfl, rfl⟩

theorem Makes.trans (hfirst : Makes h calls m o) (hlater : Makes o later n after) :
    Makes h (calls ++ later) (m + n) after where
  calls_eq := by rw [hlater.calls_eq, hfirst.calls_eq, List.append_assoc]
  next_eq := by rw [hlater.next_eq, hfirst.next_eq, Nat.add_assoc]
  opened_eq := by
    rw [List.filterMap_append, hfirst.opened_eq, hlater.opened_eq, hfirst.next_eq]
    exact List.range'_append_1

theorem makes_record (h : Host) (call : Call) (hcall : call.opened? = none) :
    Makes h [call] 0 (h.record call) :=
  ⟨Host.calls_record .., rfl, List.filterMap_cons_none hcall⟩

namespace OnTop

theorem record (htop : OnTop h calls top o) (call : Call) (hcall : call.opened? = none) :
    OnTop h (calls ++ [call]) top (o.record call) where
  toMakes := htop.toMakes.trans (makes_record o call hcall)
  head_eq := htop.head_eq
  descriptor_eq := htop.descriptor_eq

theorem find?_eq (htop : OnTop h calls top o) : o.find? h.next = some top := by
  obtain ⟨rest, hlive⟩ := List.head?_eq_some_iff.mp htop.head_eq
  rw [Host.find?, hlive]
  exact List.find?_cons_of_pos (by simp [htop.descriptor_eq])

theorem update (htop : OnTop h calls top o) (change : OpenDescriptor → OpenDescriptor)
    (hsame : (change top).descriptor = top.descriptor) :
    OnTop h calls (change top) (o.update h.next change) where
  toMakes := ⟨htop.calls_eq, htop.next_eq, htop.opened_eq⟩
  head_eq := by
    rw [Host.live_update, List.head?_map, htop.head_eq, Option.map_some, if_pos htop.descriptor_eq]
  descriptor_eq := hsame.trans htop.descriptor_eq

theorem occupy (htop : OnTop h calls top o) (unit : UInt32) :
    OnTop h calls top (o.occupy unit) :=
  ⟨⟨htop.calls_eq, htop.next_eq, htop.opened_eq⟩, htop.head_eq, htop.descriptor_eq⟩

/-- A socket that was opened in vain is closed. -/
theorem close {guarded : Bool} (htop : OnTop h calls ⟨h.next, .tunnel none, guarded⟩ o) :
    Makes h (calls ++ [.close h.next (some (.tunnel none))]) 1 (Host.close h.next o).2 := by
  have hrecord := htop.toMakes.trans (makes_record o (.close h.next (some (.tunnel none))) rfl)
  simp only [Host.close, htop.find?_eq]
  exact ⟨hrecord.calls_eq, hrecord.next_eq, hrecord.opened_eq⟩

end OnTop

end

/-- What attempts for units, in order, come to: all units were refused, or all in front of one that
a handle was claimed of, and the handle's descriptor stands for the interface that it is named by.
No unit is left out. -/
inductive Scanned (units : List UInt32) (after : Host) :
    List Attempt → Option TunnelHandle → Prop
  | exhausted {attempts : List Attempt} :
    attempts.map (·.unit) = units → (∀ a ∈ attempts, a.Refused) →
    Scanned units after attempts none
  | claimed {refused : List Attempt} {last : Attempt} :
    (refused ++ [last]).map (·.unit) <+: units → (∀ a ∈ refused, a.Refused) → last.Granted →
    after.find? last.socket = some ⟨last.socket, .tunnel (some last.unit), true⟩ →
    Scanned units after (refused ++ [last])
      (some ⟨some last.socket, last.unit, interfaceName last.unit, none⟩)

namespace Scanned

variable {units : List UInt32} {after : Host} {attempts : List Attempt} {a : Attempt}
  {claimed : Option TunnelHandle}

theorem cons (hscanned : Scanned units after attempts claimed) (ha : a.Refused) :
    Scanned (a.unit :: units) after (a :: attempts) claimed := by
  cases hscanned with
  | exhausted hunits hrefused =>
    refine .exhausted ?_ (List.forall_mem_cons.mpr ⟨ha, hrefused⟩)
    rw [List.map_cons, hunits]
  | @claimed refused last hunits hrefused hgranted hfind =>
    have hcons : (a :: refused ++ [last]).map (·.unit) <+: a.unit :: units :=
      (List.prefix_cons_inj a.unit).mpr hunits
    exact .claimed hcons (List.forall_mem_cons.mpr ⟨ha, hrefused⟩) hgranted hfind

theorem settled (hscanned : Scanned units after attempts claimed) :
    ∀ a ∈ attempts, a.Refused ∨ a.Granted := by
  cases hscanned with
  | exhausted _ hrefused => exact fun a ha => .inl (hrefused a ha)
  | claimed _ hrefused hgranted =>
    intro a ha
    rcases List.mem_append.mp ha with ha | ha
    · exact .inl (hrefused a ha)
    · exact .inr (List.mem_singleton.mp ha ▸ hgranted)

end Scanned

/-- Unit 0 is passed over, unit 1 is refused, and unit 2 is granted on another socket. -/
example :
    let refusals : Refusals := { bind := fun unit => if unit = 1 then some .busy else none }
    (control.create ⟨0, 3⟩ { script := refusals.script 5 }).2.calls =
      [.openControlSocket (.ok 0), .closeOnExec 0 none, .lookUpControl 0 controlName (.ok 5),
        .connectControl 0 (controlAddress 5 1) true (some .busy), .close 0 (some (.tunnel none))] ++
      protocol 1 5 2 := by
  rfl

end MacOS

end PingTun
