-- SUMMARY: Which descriptors are opened and closed by what is done to a host, and which are left open.
import Mathlib.Data.List.Nodup
import PingTun.Proofs.Host.Calls

/-! # Ledgers

A ledger sets the descriptors that were opened by a number of calls against those that were closed.
What is left open is neither lost nor closed a second time. Most of what is done to a host is quiet:
it leaves open what was open before. The rest opens one descriptor, and has closed it if it fails.
-/

namespace PingTun

/-! ## Calls -/

namespace Call

/-- The descriptor that a call opened. -/
def opened? : Call → Option Descriptor
  | .openRawSocket (.ok descriptor) | .openTunnelDevice (.ok descriptor)
  | .openDatagramSocket (.ok descriptor) | .openControlSocket (.ok descriptor) => some descriptor
  | _ => none

/-- The descriptor that a call closed. -/
def closed? : Call → Option Descriptor
  | .close descriptor _ => some descriptor
  | _ => none

/-- A call that neither opens nor closes anything. -/
structure IsQuiet (call : Call) : Prop where
  opened : call.opened? = none
  closed : call.closed? = none

end Call

/-- Calls that opened descriptors in a range, each of them once, and have closed them once but for
those that are left. -/
structure Ledger (calls : List Call) (first next : Descriptor) (left : List Descriptor) :
    Prop where
  settled : (calls.filterMap Call.opened?).Perm (calls.filterMap Call.closed? ++ left)
  nodup : (calls.filterMap Call.opened?).Nodup
  range : ∀ d ∈ calls.filterMap Call.opened?, first ≤ d ∧ d < next

namespace Ledger

variable {calls : List Call} {call : Call} {first next descriptor : Descriptor}
  {left other : List Descriptor}

theorem nil (first next : Descriptor) : Ledger [] first next [] :=
  ⟨.refl _, .nil, List.forall_mem_nil _⟩

/-- No descriptor is closed twice. -/
theorem nodup_closed (h : Ledger calls first next left) :
    (calls.filterMap Call.closed?).Nodup :=
  List.Nodup.of_append_left (h.settled.nodup_iff.mp h.nodup)

theorem perm (h : Ledger calls first next left) (hperm : left.Perm other) :
    Ledger calls first next other :=
  ⟨h.settled.trans (hperm.append_left _), h.nodup, h.range⟩

/-- Ledgers of descriptors in ranges next to each other are kept as one. -/
theorem append {later : List Call} {middle : Descriptor} (h : Ledger calls first middle left)
    (hlater : Ledger later middle next other) (hfirst : first ≤ middle) (hnext : middle ≤ next) :
    Ledger (calls ++ later) first next (other ++ left) := by
  refine ⟨?_, ?_, ?_⟩
  · rw [List.filterMap_append, List.filterMap_append]
    apply (h.settled.append hlater.settled).trans
    apply List.perm_iff_count.mpr
    intro d
    simp only [List.count_append]
    omega
  · rw [List.filterMap_append]
    refine h.nodup.append hlater.nodup ?_
    intro d hd hd'
    exact Nat.lt_irrefl _ (Nat.lt_of_lt_of_le (h.range d hd).2 (hlater.range d hd').1)
  · rw [List.filterMap_append]
    intro d hd
    rcases List.mem_append.mp hd with hd | hd
    · exact ⟨(h.range d hd).1, Nat.lt_of_lt_of_le (h.range d hd).2 hnext⟩
    · exact ⟨Nat.le_trans hfirst (hlater.range d hd).1, (hlater.range d hd).2⟩

theorem quiet (h : Ledger calls first next left) (hcall : call.IsQuiet) :
    Ledger (calls ++ [call]) first next left := by
  have hopened : (calls ++ [call]).filterMap Call.opened? = calls.filterMap Call.opened? := by
    simp [hcall.opened]
  have hclosed : (calls ++ [call]).filterMap Call.closed? = calls.filterMap Call.closed? := by
    simp [hcall.closed]
  refine ⟨?_, ?_, ?_⟩
  · rw [hopened, hclosed]
    exact h.settled
  · rw [hopened]
    exact h.nodup
  · rw [hopened]
    exact h.range

theorem «open» (h : Ledger calls first next left) (hopened : call.opened? = some next)
    (hclosed : call.closed? = none) (hle : first ≤ next) :
    Ledger (calls ++ [call]) first (next + 1) (next :: left) := by
  have hopened : (calls ++ [call]).filterMap Call.opened? =
      calls.filterMap Call.opened? ++ [next] := by simp [hopened]
  have hclosed : (calls ++ [call]).filterMap Call.closed? = calls.filterMap Call.closed? := by
    simp [hclosed]
  refine ⟨?_, ?_, ?_⟩
  · rw [hopened, hclosed]
    exact (List.perm_append_singleton ..).trans ((h.settled.cons next).trans List.perm_middle.symm)
  · rw [hopened, ← List.concat_eq_append]
    refine h.nodup.concat fun hmem => ?_
    exact Nat.lt_irrefl _ (h.range next hmem).2
  · rw [hopened]
    intro d hd
    rcases List.mem_append.mp hd with hd | hd
    · exact ⟨(h.range d hd).1, Nat.lt_succ_of_lt (h.range d hd).2⟩
    · rw [List.mem_singleton.mp hd]
      exact ⟨hle, Nat.lt_succ_self _⟩

theorem close (h : Ledger calls first next left) (hopened : call.opened? = none)
    (hclosed : call.closed? = some descriptor) (hleft : descriptor ∈ left) :
    Ledger (calls ++ [call]) first next (left.erase descriptor) := by
  have hopened : (calls ++ [call]).filterMap Call.opened? = calls.filterMap Call.opened? := by
    simp [hopened]
  have hclosed : (calls ++ [call]).filterMap Call.closed? =
      calls.filterMap Call.closed? ++ [descriptor] := by simp [hclosed]
  refine ⟨?_, ?_, ?_⟩
  · rw [hopened, hclosed, List.append_assoc]
    exact h.settled.trans ((List.perm_cons_erase hleft).append_left _)
  · rw [hopened]
    exact h.nodup
  · rw [hopened]
    exact h.range

end Ledger

namespace Host

/-! ## Hosts -/

/-- The descriptors that are open. -/
def descriptors (h : Host) : List Descriptor := h.live.map (·.descriptor)

/-- The books list every descriptor once, and only such as were handed out. -/
structure Tidy (h : Host) : Prop where
  fresh : ∀ d ∈ h.descriptors, d < h.next
  nodup : h.descriptors.Nodup

/-- What was done to a host has left these descriptors open, beside those that were open before. -/
structure Leaves (h : Host) (left : List Descriptor) (after : Host) : Prop where
  calls : ∃ calls, after.calls = h.calls ++ calls ∧ Ledger calls h.next after.next left
  next : h.next ≤ after.next
  live : after.descriptors.Perm (left ++ h.descriptors)
  tidy : after.Tidy

namespace Leaves

variable {start h after : Host} {left other : List Descriptor} {call : Call}

theorem refl (htidy : h.Tidy) : Leaves h [] h where
  calls := ⟨[], (List.append_nil _).symm, .nil ..⟩
  next := Nat.le_refl _
  live := .refl _
  tidy := htidy

theorem perm (hleft : Leaves start left h) (hperm : left.Perm other) : Leaves start other h := by
  obtain ⟨calls, hcalls, hledger⟩ := hleft.calls
  exact ⟨⟨calls, hcalls, hledger.perm hperm⟩, hleft.next, hleft.live.trans (hperm.append_right _),
    hleft.tidy⟩

theorem trans (hleft : Leaves start left h) (hlater : Leaves h other after) :
    Leaves start (other ++ left) after := by
  obtain ⟨calls, hcalls, hledger⟩ := hleft.calls
  obtain ⟨later, hcalls', hledger'⟩ := hlater.calls
  refine ⟨⟨calls ++ later, ?_, hledger.append hledger' hleft.next hlater.next⟩, ?_, ?_, ?_⟩
  · rw [hcalls', hcalls, List.append_assoc]
  · exact Nat.le_trans hleft.next hlater.next
  · rw [List.append_assoc]
    exact hlater.live.trans (hleft.live.append_left other)
  · exact hlater.tidy

/-- What is left open is open, beside what was open before. -/
theorem mem_descriptors (hleft : Leaves start left h) {descriptor : Descriptor}
    (hmem : descriptor ∈ left) : descriptor ∈ h.descriptors :=
  hleft.live.symm.subset (List.mem_append_left _ hmem)

theorem quiet (hleft : Leaves start left h) (hcall : call.IsQuiet)
    (hcalls : after.calls = h.calls ++ [call]) (hnext : after.next = h.next)
    (hlive : after.descriptors = h.descriptors) : Leaves start left after := by
  obtain ⟨calls, hbefore, hledger⟩ := hleft.calls
  refine ⟨⟨calls ++ [call], ?_, ?_⟩, ?_, ?_, ?_, ?_⟩
  · rw [hcalls, hbefore, List.append_assoc]
  · rw [hnext]
    exact hledger.quiet hcall
  · rw [hnext]
    exact hleft.next
  · rw [hlive]
    exact hleft.live
  · rw [hlive, hnext]
    exact hleft.tidy.fresh
  · rw [hlive]
    exact hleft.tidy.nodup

theorem record (hleft : Leaves start left h) (hcall : call.IsQuiet) :
    Leaves start left (h.record call) :=
  hleft.quiet hcall (calls_record ..) rfl rfl

theorem «open» (hleft : Leaves start left h) (hopened : call.opened? = some h.next)
    (hclosed : call.closed? = none) (endpoint : Endpoint) (closeOnExec : Bool) :
    Leaves start (h.next :: left) { h.record call with
      live := ⟨h.next, endpoint, closeOnExec⟩ :: h.live
      next := h.next + 1 } := by
  obtain ⟨calls, hbefore, hledger⟩ := hleft.calls
  refine ⟨⟨calls ++ [call], ?_, hledger.open hopened hclosed hleft.next⟩, ?_, ?_, ?_, ?_⟩
  · refine (calls_record ..).trans ?_
    rw [hbefore, List.append_assoc]
  · exact Nat.le_succ_of_le hleft.next
  · exact hleft.live.cons h.next
  · refine List.forall_mem_cons.mpr ⟨Nat.lt_succ_self _, fun d hd => ?_⟩
    exact Nat.lt_succ_of_lt (hleft.tidy.fresh d hd)
  · refine List.nodup_cons.mpr ⟨fun hmem => ?_, hleft.tidy.nodup⟩
    exact Nat.lt_irrefl _ (hleft.tidy.fresh _ hmem)

end Leaves

/-- A descriptor that is open is closed, and open no longer. -/
theorem close_of_mem {h : Host} {descriptor : Descriptor} (hopen : descriptor ∈ h.descriptors) :
    ∃ endpoint, (Host.close descriptor h).2.calls =
        h.calls ++ [.close descriptor (some endpoint)] ∧
      (Host.close descriptor h).2.next = h.next ∧
      (Host.close descriptor h).2.descriptors = h.descriptors.filter (· != descriptor) := by
  have hfind : ∃ d, h.find? descriptor = some d := by
    obtain ⟨d, hd, rfl⟩ := List.mem_map.mp hopen
    exact Option.isSome_iff_exists.mp
      (List.find?_isSome.mpr ⟨d, hd, beq_self_eq_true d.descriptor⟩)
  obtain ⟨d, hd⟩ := hfind
  refine ⟨d.endpoint, ?_⟩
  have hdescriptors : (h.live.filter (·.descriptor != descriptor)).map (·.descriptor) =
      h.descriptors.filter (· != descriptor) := by
    rw [descriptors, List.filter_map]
    rfl
  simp only [Host.close, hd]
  split
  · exact ⟨calls_record .., rfl, hdescriptors⟩
  · exact ⟨calls_record .., rfl, hdescriptors⟩

theorem Leaves.close {start h : Host} {left : List Descriptor} {descriptor : Descriptor}
    (hleft : Leaves start left h) (hmem : descriptor ∈ left) :
    Leaves start (left.erase descriptor) (Host.close descriptor h).2 := by
  obtain ⟨endpoint, hclose, hnext, hlive⟩ := close_of_mem (hleft.mem_descriptors hmem)
  obtain ⟨calls, hbefore, hledger⟩ := hleft.calls
  have herase : (Host.close descriptor h).2.descriptors = h.descriptors.erase descriptor :=
    hlive.trans (hleft.tidy.nodup.erase_eq_filter descriptor).symm
  refine ⟨⟨calls ++ [.close descriptor (some endpoint)], ?_, ?_⟩, ?_, ?_, ?_, ?_⟩
  · rw [hclose, hbefore, List.append_assoc]
  · rw [hnext]
    exact hledger.close rfl rfl hmem
  · rw [hnext]
    exact hleft.next
  · rw [herase, ← List.erase_append_left _ hmem]
    exact hleft.live.erase descriptor
  · rw [herase, hnext]
    exact fun d hd => hleft.tidy.fresh d (List.mem_of_mem_erase hd)
  · rw [herase]
    exact hleft.tidy.nodup.erase descriptor

/-! ## Quiet actions -/

variable {α β ε : Type}

/-- Whatever comes of it, the same descriptors are left open. -/
def Quiet (action : StateM Host α) : Prop :=
  ∀ ⦃start h left⦄, Leaves start left h → Leaves start left (action h).2

theorem Quiet.pure (a : α) : Quiet (Pure.pure a) := fun _ _ _ hleft => hleft

theorem Quiet.bind {action : StateM Host α} {rest : α → StateM Host β} (h : Quiet action)
    (hrest : ∀ a, Quiet (rest a)) : Quiet (action >>= rest) :=
  fun _ _ _ hleft => hrest _ (h hleft)

theorem quiet_ask (request : Request) {call : Option Errno → Call}
    (hcall : ∀ refusal, (call refusal).IsQuiet) : Quiet (ask request call) := by
  intro start h left hleft
  cases hrefusal : h.refusal? request with
  | some cause =>
    rw [ask_refused hrefusal]
    exact hleft.record (hcall _)
  | none =>
    rw [ask_granted hrefusal]
    exact hleft.record (hcall _)

/-- To change what is known of a descriptor opens and closes none. -/
theorem descriptors_update (change : OpenDescriptor → OpenDescriptor)
    (hchange : ∀ d, (change d).descriptor = d.descriptor) (h : Host) (descriptor : Descriptor) :
    (h.update descriptor change).descriptors = h.descriptors := by
  rw [descriptors, live_update, List.map_map]
  refine List.map_congr_left fun d _ => ?_
  simp only [Function.comp_apply]
  split
  · exact hchange d
  · rfl

theorem quiet_bindUnit (descriptor : Descriptor) (unit : UInt32) {call : Option Errno → Call}
    (hcall : ∀ refusal, (call refusal).IsQuiet) : Quiet (bindUnit descriptor unit call) := by
  intro start h left hleft
  cases hrefusal : h.bindRefusal? unit with
  | some cause =>
    rw [bindUnit_refused hrefusal]
    exact hleft.record (hcall _)
  | none =>
    rw [bindUnit_granted hrefusal]
    refine hleft.quiet (hcall none) (calls_record ..) rfl ?_
    exact descriptors_update (fun d => { d with endpoint := .tunnel (some unit) }) (fun _ => rfl) ..

theorem quiet_setCloseOnExec (descriptor : Descriptor) : Quiet (setCloseOnExec descriptor) := by
  intro start h left hleft
  cases hrefusal : h.refusal? .closeOnExec with
  | some cause =>
    rw [setCloseOnExec_refused hrefusal]
    exact hleft.record ⟨rfl, rfl⟩
  | none =>
    rw [setCloseOnExec_granted hrefusal]
    refine hleft.quiet ⟨rfl, rfl⟩ (calls_record (.closeOnExec descriptor none) h) rfl ?_
    exact descriptors_update (fun d => { d with closeOnExec := true }) (fun _ => rfl) ..

theorem quiet_lookUpControl (socket : Descriptor) (name : String) :
    Quiet (lookUpControl socket name) := by
  intro start h left hleft
  cases hrefusal : h.refusal? .lookUpControl with
  | some cause =>
    rw [lookUpControl_refused hrefusal]
    exact hleft.record ⟨rfl, rfl⟩
  | none =>
    rw [lookUpControl_granted hrefusal]
    exact hleft.record ⟨rfl, rfl⟩

theorem quiet_attachInterface (descriptor : Descriptor) (name : InterfaceName) (flags : UInt16) :
    Quiet (attachInterface descriptor name flags) := by
  intro start h left hleft
  simp only [attachInterface]
  split
  · exact hleft.record ⟨rfl, rfl⟩
  · exact quiet_bindUnit _ _ (fun _ => ⟨rfl, rfl⟩) hleft

theorem quiet_connectControl (socket : Descriptor) (address : ControlAddress) :
    Quiet (connectControl socket address) :=
  fun _ _ _ hleft => quiet_bindUnit _ _ (fun _ => ⟨rfl, rfl⟩) hleft

theorem quiet_getMtu (socket : Descriptor) (name : InterfaceName) : Quiet (getMtu socket name) := by
  intro start h left hleft
  simp only [getMtu]
  split
  · exact hleft.record ⟨rfl, rfl⟩
  · exact hleft.record ⟨rfl, rfl⟩

theorem quiet_setMtu (socket : Descriptor) (name : InterfaceName) (mtu : Int32) :
    Quiet (setMtu socket name mtu) := by
  intro start h left hleft
  simp only [setMtu]
  split
  · exact hleft.record ⟨rfl, rfl⟩
  · exact hleft.quiet ⟨rfl, rfl⟩ (calls_record (.setMtu socket name mtu none) h) rfl rfl

/-! ## Actions that open a descriptor -/

/-- The descriptor that it gives is left open beside those that were open before, and nothing else,
if it fails, not even that. -/
def Acquires (action : StateM Host (Except ε Descriptor)) : Prop :=
  ∀ ⦃start h left⦄, Leaves start left h →
    Leaves start ((action h).1.toOption.toList ++ left) (action h).2

/-- A call that opens a descriptor, if anything comes of it. -/
structure Opening (call : Except Errno Descriptor → Call) : Prop where
  opened : ∀ result, (call result).opened? = result.toOption
  closed : ∀ result, (call result).closed? = none

theorem acquires_openDescriptor {call : Except Errno Descriptor → Call} (hcall : Opening call)
    (request : Request) (endpoint : Endpoint) (closeOnExec : Bool) :
    Acquires (openDescriptor request call endpoint closeOnExec) := by
  intro start h left hleft
  cases hrefusal : h.refusal? request with
  | some cause =>
    rw [openDescriptor_refused hrefusal]
    exact hleft.record ⟨hcall.opened _, hcall.closed _⟩
  | none =>
    rw [openDescriptor_granted hrefusal]
    exact hleft.open (hcall.opened _) (hcall.closed _) endpoint closeOnExec

theorem acquires_openRawSocket : Acquires openRawSocket :=
  acquires_openDescriptor ⟨fun result => by cases result <;> rfl, fun _ => rfl⟩ ..

theorem acquires_openTunnelDevice : Acquires openTunnelDevice :=
  acquires_openDescriptor ⟨fun result => by cases result <;> rfl, fun _ => rfl⟩ ..

theorem acquires_openControlSocket : Acquires openControlSocket :=
  acquires_openDescriptor ⟨fun result => by cases result <;> rfl, fun _ => rfl⟩ ..

theorem acquires_openDatagramSocket : Acquires openDatagramSocket :=
  acquires_openDescriptor ⟨fun result => by cases result <;> rfl, fun _ => rfl⟩ ..

section

variable {action : StateM Host (Except Errno Descriptor)}

/-- What is opened for a purpose is closed if that fails. -/
theorem Acquires.guarded {prepare : Descriptor → StateM Host (Except Errno Unit)}
    (h : Acquires action) (fail : Errno → ε) (hprepare : ∀ descriptor, Quiet (prepare descriptor)) :
    Acquires (do
      match ← action with
      | .error cause => return .error (fail cause)
      | .ok descriptor =>
        match ← prepare descriptor with
        | .ok () => return .ok descriptor
        | .error cause =>
          close descriptor
          return .error (fail cause)) := by
  intro start host left hleft
  have hopened := h hleft
  cases hopen : action host with
  | mk opening opened =>
    rw [hopen] at hopened
    rw [bind_of_eq hopen]
    cases opening with
    | error cause => exact hopened
    | ok descriptor =>
      have hprepared := hprepare descriptor hopened
      cases hready : prepare descriptor opened with
      | mk preparing prepared =>
        rw [hready] at hprepared
        dsimp only
        rw [bind_of_eq hready]
        cases preparing with
        | ok _ => exact hprepared
        | error cause =>
          have hclosed := hprepared.close List.mem_cons_self
          exact hclosed.perm (.of_eq (List.erase_cons_head ..))

/-- What is opened for the time of an action is closed behind it. -/
theorem Acquires.during {during : Descriptor → StateM Host (Except ε α)} (h : Acquires action)
    (fail : Errno → ε) (hduring : ∀ descriptor, Quiet (during descriptor)) :
    Quiet (do
      match ← action with
      | .error cause => return .error (fail cause)
      | .ok descriptor =>
        let result ← during descriptor
        close descriptor
        return result) := by
  intro start host left hleft
  have hopened := h hleft
  cases hopen : action host with
  | mk opening opened =>
    rw [hopen] at hopened
    rw [bind_of_eq hopen]
    cases opening with
    | error cause => exact hopened
    | ok descriptor =>
      have hclosed := (hduring descriptor hopened).close List.mem_cons_self
      exact hclosed.perm (.of_eq (List.erase_cons_head ..))

end

end Host

end PingTun
