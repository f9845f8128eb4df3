-- SUMMARY: The books of a host: which descriptors and units they list, and how calls change them.
import PingTun.Proofs.Host.Calls

/-! # Books

The books of a host are sound if descriptors are handed out once only, every unit that a descriptor
is bound to is occupied, and no two descriptors are bound to the same unit. Opening a descriptor,
binding it to a unit and closing it keep them sound.
-/

namespace PingTun.Host

structure Sound (h : Host) : Prop where
  fresh : ∀ d ∈ h.live, d.descriptor < h.next
  descriptor_inj : ∀ d ∈ h.live, ∀ e ∈ h.live, d.descriptor = e.descriptor → d = e
  occupied : ∀ d ∈ h.live, ∀ unit, d.endpoint = .tunnel (some unit) → h.occupied unit = true
  unit_inj : ∀ d ∈ h.live, ∀ e ∈ h.live, ∀ unit, d.endpoint = .tunnel (some unit) →
    e.endpoint = .tunnel (some unit) → d = e

/-- Nothing in the books is different, other than that descriptors may have been handed out. -/
structure Unmoved (h after : Host) : Prop where
  live : after.live = h.live
  occupied : after.occupied = h.occupied
  mtus : after.mtus = h.mtus
  next : h.next ≤ after.next

/-- One descriptor more is open, which stands for something that is bound to no unit. -/
structure Opens (h : Host) (endpoint : Endpoint) (after : Host) : Prop where
  live : ∃ closeOnExec, after.live = ⟨h.next, endpoint, closeOnExec⟩ :: h.live
  occupied : after.occupied = h.occupied
  mtus : after.mtus = h.mtus
  next : after.next = h.next + 1

/-- One descriptor more is open, which is bound to a unit that was not occupied. -/
structure Claims (h : Host) (unit : UInt32) (after : Host) : Prop where
  free : h.occupied unit = false
  live : ∃ closeOnExec, after.live = ⟨h.next, .tunnel (some unit), closeOnExec⟩ :: h.live
  occupied : after.occupied = (h.occupy unit).occupied
  mtus : after.mtus = h.mtus
  next : after.next = h.next + 1

/-- A descriptor is open no longer, and the unit that it was bound to is free. -/
structure Gives (h : Host) (descriptor : Descriptor) (unit : UInt32) (after : Host) : Prop where
  live : after.live = h.live.filter (·.descriptor != descriptor)
  occupied : after.occupied = (h.vacate unit).occupied
  mtus : after.mtus = h.mtus
  next : after.next = h.next

section

variable {h after later : Host} {unit : UInt32} {endpoint : Endpoint}

/-! ## Books stay sound -/

theorem Unmoved.sound (hmoved : Unmoved h after) (hsound : h.Sound) : after.Sound where
  fresh := by
    intro d hd
    rw [hmoved.live] at hd
    exact Nat.lt_of_lt_of_le (hsound.fresh d hd) hmoved.next
  descriptor_inj := by
    rw [hmoved.live]
    exact hsound.descriptor_inj
  occupied := by
    rw [hmoved.live, hmoved.occupied]
    exact hsound.occupied
  unit_inj := by
    rw [hmoved.live]
    exact hsound.unit_inj

/-- What no two open descriptors have in common, no two have once one more is open, if that has it
in common with none of them. -/
theorem eq_of_mem_cons {R : OpenDescriptor → OpenDescriptor → Prop} {opened : OpenDescriptor}
    {live : List OpenDescriptor} (hsymm : ∀ {d e}, R d e → R e d)
    (hlive : ∀ d ∈ live, ∀ e ∈ live, R d e → d = e) (hother : ∀ d ∈ live, ¬ R d opened) :
    ∀ d ∈ opened :: live, ∀ e ∈ opened :: live, R d e → d = e := by
  intro d hd e he hcommon
  rcases List.mem_cons.mp hd with rfl | hold
  · rcases List.mem_cons.mp he with rfl | hold
    · rfl
    · exact absurd (hsymm hcommon) (hother e hold)
  · rcases List.mem_cons.mp he with rfl | hold'
    · exact absurd hcommon (hother d hold)
    · exact hlive d hold e hold' hcommon

theorem Claims.sound (hclaims : Claims h unit after) (hsound : h.Sound) : after.Sound := by
  obtain ⟨closeOnExec, hlive⟩ := hclaims.live
  have hother : ∀ d ∈ h.live, d.endpoint ≠ .tunnel (some unit) := by
    intro d hd hbound
    have hbusy := hsound.occupied d hd unit hbound
    rw [hclaims.free] at hbusy
    cases hbusy
  refine ⟨?_, ?_, ?_, ?_⟩
  · rw [hlive, hclaims.next]
    refine List.forall_mem_cons.mpr ⟨Nat.lt_succ_self _, fun d hd => ?_⟩
    exact Nat.lt_succ_of_lt (hsound.fresh d hd)
  · rw [hlive]
    apply eq_of_mem_cons Eq.symm hsound.descriptor_inj
    exact fun d hd => Nat.ne_of_lt (hsound.fresh d hd)
  · rw [hlive, hclaims.occupied]
    intro d hd bound hbound
    rcases List.mem_cons.mp hd with rfl | hd
    · cases hbound
      exact if_pos rfl
    · simp only [occupy, hsound.occupied d hd bound hbound, ite_self]
  · rw [hlive]
    intro d hd e he bound hd' he'
    let Shares (d e : OpenDescriptor) : Prop :=
      d.endpoint = .tunnel (some bound) ∧ e.endpoint = .tunnel (some bound)
    refine eq_of_mem_cons (R := Shares) And.symm ?_ ?_ d hd e he ⟨hd', he'⟩
    · exact fun d hd e he hshares => hsound.unit_inj d hd e he bound hshares.1 hshares.2
    · rintro d hd ⟨hbound, ⟨⟩⟩
      exact hother d hd hbound

theorem Gives.sound {descriptor : Descriptor} {closeOnExec : Bool}
    (hgives : Gives h descriptor unit after) (hsound : h.Sound)
    (hopen : ⟨descriptor, .tunnel (some unit), closeOnExec⟩ ∈ h.live) : after.Sound := by
  have hkept {d : OpenDescriptor} (hd : d ∈ after.live) :
      d ∈ h.live ∧ d.descriptor ≠ descriptor := by
    rw [hgives.live] at hd
    simpa using List.mem_filter.mp hd
  refine ⟨?_, ?_, ?_, ?_⟩
  · intro d hd
    rw [hgives.next]
    exact hsound.fresh d (hkept hd).1
  · intro d hd e he
    exact hsound.descriptor_inj d (hkept hd).1 e (hkept he).1
  · intro d hd bound hbound
    obtain ⟨hd, hne⟩ := hkept hd
    -- The unit that is given back has no second descriptor that would still need it.
    have hother : bound ≠ unit := by
      rintro rfl
      exact hne (congrArg OpenDescriptor.descriptor (hsound.unit_inj d hd _ hopen bound hbound rfl))
    rw [hgives.occupied]
    simp only [vacate, if_neg hother, hsound.occupied d hd bound hbound]
  · intro d hd e he
    exact hsound.unit_inj d (hkept hd).1 e (hkept he).1

/-! ## Fresh descriptors -/

theorem Sound.ne_next (hsound : h.Sound) : ∀ d ∈ h.live, d.descriptor ≠ h.next :=
  fun d hd => Nat.ne_of_lt (hsound.fresh d hd)

/-- What is changed about the next descriptor is changed about no other. -/
theorem Sound.map_live (hsound : h.Sound) (change : OpenDescriptor → OpenDescriptor) :
    (h.live.map fun d => if d.descriptor = h.next then change d else d) = h.live :=
  calc
    _ = h.live.map id := List.map_congr_left fun d hd => if_neg (hsound.ne_next d hd)
    _ = h.live := List.map_id _

theorem Sound.filter_live (hsound : h.Sound) :
    (h.live.filter (·.descriptor != h.next)) = h.live := by
  apply List.filter_eq_self.mpr
  intro d hd
  exact bne_iff_ne.mpr (hsound.ne_next d hd)

theorem opens_openDescriptor {request : Request} {call : Except Errno Descriptor → Call}
    {closeOnExec : Bool} {descriptor : Descriptor}
    (hopen : openDescriptor request call endpoint closeOnExec h = (.ok descriptor, after)) :
    descriptor = h.next ∧ Opens h endpoint after := by
  obtain ⟨-, rfl, rfl⟩ := granted_of_openDescriptor hopen
  exact ⟨rfl, ⟨closeOnExec, rfl⟩, rfl, rfl, rfl⟩

theorem unmoved_openDescriptor {request : Request} {call : Except Errno Descriptor → Call}
    {closeOnExec : Bool} {cause : Errno}
    (hopen : openDescriptor request call endpoint closeOnExec h = (.error cause, after)) :
    Unmoved h after := by
  cases hrefusal : h.refusal? request with
  | some cause =>
    rw [openDescriptor_refused hrefusal] at hopen
    cases hopen
    exact ⟨rfl, rfl, rfl, Nat.le_refl _⟩
  | none =>
    rw [openDescriptor_granted hrefusal] at hopen
    cases hopen

theorem Opens.record (hopens : Opens h endpoint after) (call : Call) :
    Opens h endpoint (after.record call) :=
  ⟨hopens.live, hopens.occupied, hopens.mtus, hopens.next⟩

theorem Opens.setCloseOnExec {result : Except Errno Unit} (hopens : Opens h endpoint after)
    (hsound : h.Sound) (hset : setCloseOnExec h.next after = (result, later)) :
    Opens h endpoint later := by
  cases hrefusal : after.refusal? .closeOnExec with
  | some cause =>
    rw [setCloseOnExec_refused hrefusal] at hset
    cases hset
    exact hopens.record _
  | none =>
    rw [setCloseOnExec_granted hrefusal] at hset
    cases hset
    obtain ⟨closeOnExec, hlive⟩ := hopens.live
    refine ⟨⟨true, ?_⟩, hopens.occupied, hopens.mtus, hopens.next⟩
    rw [live_update, live_record, hlive, List.map_cons, if_pos rfl, hsound.map_live]

theorem Opens.lookUpControl {result : Except Errno UInt32} {socket : Descriptor} {name : String}
    (hopens : Opens h endpoint after)
    (hlook : lookUpControl socket name after = (result, later)) : Opens h endpoint later := by
  cases hrefusal : after.refusal? .lookUpControl with
  | some cause =>
    rw [lookUpControl_refused hrefusal] at hlook
    cases hlook
    exact hopens.record _
  | none =>
    rw [lookUpControl_granted hrefusal] at hlook
    cases hlook
    exact hopens.record _

/-- What an attempt to bind a descriptor that was just opened comes to. -/
def Binds (h : Host) (unit : UInt32) : Except Errno Unit → Host → Prop
  | .ok _, after => h.Claims unit after
  | .error _, after => h.Opens (.tunnel none) after

theorem Opens.bindUnit {result : Except Errno Unit} {call : Option Errno → Call}
    (hopens : Opens h (.tunnel none) after) (hsound : h.Sound)
    (hbind : bindUnit h.next unit call after = (result, later)) : h.Binds unit result later := by
  cases hrefusal : after.bindRefusal? unit with
  | some cause =>
    rw [bindUnit_refused hrefusal] at hbind
    cases hbind
    exact hopens.record _
  | none =>
    rw [bindUnit_granted hrefusal] at hbind
    cases hbind
    obtain ⟨closeOnExec, hlive⟩ := hopens.live
    refine ⟨?_, ⟨closeOnExec, ?_⟩, ?_, hopens.mtus, hopens.next⟩
    · rw [← hopens.occupied]
      exact occupied_of_bindRefusal? hrefusal
    · change ((after.record _).update _ _).live = _
      rw [live_update, live_record, hlive, List.map_cons, if_pos rfl, hsound.map_live]
    · change (occupy unit after).occupied = _
      simp only [occupy, hopens.occupied]

/-! ## Closing -/

/-- Nothing is left of a descriptor that was bound to no unit. -/
theorem Opens.close (hopens : Opens h endpoint after) (hsound : h.Sound)
    (hendpoint : ∀ unit, endpoint ≠ .tunnel (some unit)) :
    Unmoved h (close h.next after).2 := by
  obtain ⟨closeOnExec, hlive⟩ := hopens.live
  have hfind : after.find? h.next = some ⟨h.next, endpoint, closeOnExec⟩ := by
    rw [find?, hlive]
    exact List.find?_cons_of_pos (beq_self_eq_true _)
  have hleft : after.live.filter (·.descriptor != h.next) = h.live := by
    rw [hlive, List.filter_cons_of_neg (by simp), hsound.filter_live]
  have hnext : h.next ≤ after.next := by
    rw [hopens.next]
    exact Nat.le_succ _
  simp only [Host.close, hfind]
  exact ⟨hleft, hopens.occupied, hopens.mtus, hnext⟩

/-- The unit of a descriptor is free once the descriptor is closed. -/
theorem Sound.gives_close {descriptor : Descriptor} {closeOnExec : Bool} (hsound : h.Sound)
    (hopen : ⟨descriptor, .tunnel (some unit), closeOnExec⟩ ∈ h.live) :
    Gives h descriptor unit (Host.close descriptor h).2 := by
  have hfind : h.find? descriptor = some ⟨descriptor, .tunnel (some unit), closeOnExec⟩ := by
    cases hfound : h.find? descriptor with
    | none =>
      have hnone := List.find?_eq_none.mp hfound _ hopen
      exact absurd (beq_self_eq_true _) hnone
    | some d =>
      rw [find?] at hfound
      have heq := List.find?_some hfound
      exact congrArg some
        (hsound.descriptor_inj d (List.mem_of_find?_eq_some hfound) _ hopen (beq_iff_eq.mp heq))
  simp only [Host.close, hfind]
  exact ⟨rfl, rfl, rfl, rfl⟩

end

end PingTun.Host
