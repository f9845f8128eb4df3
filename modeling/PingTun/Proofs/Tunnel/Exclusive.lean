-- SUMMARY: Both tunnel controls claim units exclusively: what comes of every attempt at one.
import PingTun.Proofs.Host.Books
import PingTun.Proofs.Tunnel.Naming

/-! # Exclusive controls

An attempt at a unit either opens one descriptor, bound to the unit, or leaves everything as it was.
The steps on the way differ from platform to platform.
-/

namespace PingTun

/-- Whether the interface of a unit can be had at all. -/
def TunnelControl.Serves (c : TunnelControl Host) (unit : UInt32) : Prop :=
  ∃ h descriptor after, c.connect unit h = (.ok descriptor, after)

/-- What an attempt at a unit comes to. -/
def Host.Attempts (h : Host) (unit : UInt32) : Except IoError Descriptor → Host → Prop
  | .ok descriptor, after => descriptor = h.next ∧ h.Claims unit after
  | .error _, after => h.Unmoved after

/-- What is asked of a control whose units are claimed exclusively. -/
structure TunnelControl.Exclusive (c : TunnelControl Host) : Prop where
  attempts : ∀ {h after unit result}, h.Sound → c.connect unit h = (result, after) →
    h.Attempts unit result after
  name_inj : ∀ {u v}, c.Serves u → c.Serves v → c.interfaceName u = c.interfaceName v → u = v
  close_eq : c.close = Host.close

theorem Host.Unmoved.refl (h : Host) : h.Unmoved h := ⟨rfl, rfl, rfl, Nat.le_refl _⟩

/-- A descriptor is opened, bound to the unit, and closed again if that is refused. -/
theorem Host.attempts_bind {h after : Host} {unit : UInt32} {result : Except IoError Descriptor}
    {request : Request} {call : Except Errno Descriptor → Call} {closeOnExec : Bool}
    {bind : Descriptor → StateM Host (Except Errno Unit)} (hsound : h.Sound)
    (hbind : ∀ {opened bound binding}, h.Opens (.tunnel none) opened →
      bind h.next opened = (binding, bound) → h.Binds unit binding bound)
    (hattempt :
      (do
        match ← openDescriptor request call (.tunnel none) closeOnExec with
        | .error cause => return .error (.os cause)
        | .ok descriptor =>
          match ← bind descriptor with
          | .ok () => return .ok descriptor
          | .error cause =>
            close descriptor
            return .error (.os cause) : StateM Host (Except IoError Descriptor)) h =
        (result, after)) :
    h.Attempts unit result after := by
  cases hopen : openDescriptor request call (.tunnel none) closeOnExec h with
  | mk opening opened =>
    rw [bind_of_eq hopen] at hattempt
    cases opening with
    | error cause =>
      cases hattempt
      exact unmoved_openDescriptor hopen
    | ok descriptor =>
      obtain ⟨rfl, hopens⟩ := opens_openDescriptor hopen
      dsimp only at hattempt
      cases hbound : bind h.next opened with
      | mk binding bound =>
        have hbinds := hbind hopens hbound
        rw [bind_of_eq hbound] at hattempt
        cases binding with
        | ok _ =>
          cases hattempt
          exact ⟨rfl, hbinds⟩
        | error cause =>
          cases hattempt
          exact hbinds.close hsound nofun

namespace Linux

/-- An attempt opens the tunnel device, attaches it to the name of the unit, and closes it again if
that is refused. -/
theorem attempts_connect {h after : Host} {unit : UInt32} {result : Except IoError Descriptor}
    (hsound : h.Sound) (hconnect : connect unit h = (result, after)) :
    h.Attempts unit result after := by
  unfold connect at hconnect
  cases hname : TunnelControl.kernelName? (interfaceName unit) with
  | error e =>
    simp only [hname] at hconnect
    cases hconnect
    exact .refl h
  | ok name =>
    simp only [hname] at hconnect
    refine Host.attempts_bind hsound ?_ hconnect
    intro opened bound binding hopens hbind
    simp only [Host.attachInterface, unitOfName?_interfaceName hname] at hbind
    exact hopens.bindUnit hsound hbind

theorem exclusive : control.Exclusive where
  attempts := attempts_connect
  name_inj := fun _ _ => interfaceName_injective
  close_eq := rfl

end Linux

namespace MacOS

theorem binds_attach {h opened after : Host} {unit : UInt32} {result : Except Errno Unit}
    (hsound : h.Sound) (hopens : h.Opens (.tunnel none) opened)
    (hattach : attach h.next unit opened = (result, after)) :
    h.Binds unit result after := by
  unfold attach at hattach
  cases hset : Host.setCloseOnExec h.next opened with
  | mk setting guarded =>
    have hguarded := hopens.setCloseOnExec hsound hset
    rw [Host.bind_of_eq hset] at hattach
    cases setting with
    | error cause =>
      cases hattach
      exact hguarded
    | ok _ =>
      dsimp only at hattach
      cases hlook : Host.lookUpControl h.next controlName guarded with
      | mk looking found =>
        have hfound := hguarded.lookUpControl hlook
        rw [Host.bind_of_eq hlook] at hattach
        cases looking with
        | error cause =>
          cases hattach
          exact hfound
        | ok id => exact hfound.bindUnit hsound hattach

/-- An attempt opens a control socket, connects it to the unit, and closes it again if anything on
the way is refused. -/
theorem attempts_connect {h after : Host} {unit : UInt32} {result : Except IoError Descriptor}
    (hsound : h.Sound) (hconnect : connect unit h = (result, after)) :
    h.Attempts unit result after := by
  unfold connect at hconnect
  by_cases hzero : unit = 0
  · rw [if_pos hzero] at hconnect
    cases hconnect
    exact .refl h
  · rw [if_neg hzero] at hconnect
    exact Host.attempts_bind hsound (binds_attach hsound) hconnect

theorem ne_zero_of_serves {unit : UInt32} (h : control.Serves unit) : unit ≠ 0 := by
  rintro rfl
  obtain ⟨host, descriptor, after, hconnect⟩ := h
  cases hconnect

theorem exclusive : control.Exclusive where
  attempts := attempts_connect
  name_inj hu hv := interfaceName_injOn (ne_zero_of_serves hu) (ne_zero_of_serves hv)
  close_eq := rfl

end MacOS

end PingTun
