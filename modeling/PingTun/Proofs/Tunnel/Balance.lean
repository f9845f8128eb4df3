-- SUMMARY: No descriptor of a tunnel or a probe is lost, or closed twice, whatever the system refuses.
import Mathlib.Data.List.Perm.Basic
import PingTun.Proofs.Host.Ledger
import PingTun.Proofs.Probe.Opening
import PingTun.Proofs.Tunnel.Candidates
import PingTun.Tunnel.Linux
import PingTun.Tunnel.MacOS

/-! # Balance

Handles and probes own the descriptors they work on. Whatever else is opened on the way is closed
before the next thing is done, also when the system refuses something halfway. So at any time there
are just as many more descriptors open as there are owners.
-/

namespace PingTun

open Host

/-! ## Controls -/

/-- What is asked of a control so that descriptors stay in balance. -/
structure TunnelControl.Balanced (c : TunnelControl Host) : Prop where
  connect : ∀ unit, Acquires (c.connect unit)
  getMtu : ∀ descriptor name, Quiet (c.getMtu descriptor name)
  setMtu : ∀ descriptor name mtu, Quiet (c.setMtu descriptor name mtu)
  close_eq : c.close = Host.close

theorem quiet_ofName {α : Type} {name : String}
    {ask : InterfaceName → StateM Host (Except IoError α)} (hask : ∀ name, Quiet (ask name)) :
    Quiet (match TunnelControl.kernelName? name with
      | .error e => pure (.error e)
      | .ok name => ask name) := by
  cases TunnelControl.kernelName? name with
  | error e => exact Quiet.pure _
  | ok name => exact hask name

namespace Linux

theorem acquires_connect (unit : UInt32) : Acquires (connect unit) := by
  unfold connect
  cases TunnelControl.kernelName? (interfaceName unit) with
  | error e => exact fun _ _ _ hleft => hleft
  | ok name =>
    dsimp only
    refine acquires_openTunnelDevice.guarded IoError.os fun descriptor => ?_
    exact quiet_attachInterface ..

/-- The datagram socket that MTUs are asked of is closed in any case. -/
theorem quiet_withSocket {α : Type} (name : String)
    {ask : Descriptor → InterfaceName → StateM Host (Except IoError α)}
    (hask : ∀ socket name, Quiet (ask socket name)) : Quiet (withSocket name ask) := by
  unfold withSocket
  cases TunnelControl.kernelName? name with
  | error e => exact acquires_openDatagramSocket.during IoError.os fun _ =>
      Quiet.pure (Except.error e)
  | ok name => exact acquires_openDatagramSocket.during IoError.os fun socket => hask socket name

theorem quiet_getMtu (name : String) : Quiet (getMtu name) := by
  refine quiet_withSocket name fun socket name => ?_
  refine (Host.quiet_getMtu socket name).bind fun result => ?_
  cases result with
  | ok mtu => exact Quiet.pure _
  | error cause => exact Quiet.pure _

theorem quiet_setMtu (name : String) (mtu : UInt32) : Quiet (setMtu name mtu) := by
  unfold setMtu
  cases TunnelControl.signedMtu? mtu with
  | error e => exact Quiet.pure _
  | ok mtu =>
    refine quiet_withSocket name fun socket name => ?_
    refine (Host.quiet_setMtu socket name mtu).bind fun result => ?_
    cases result with
    | ok _ => exact Quiet.pure _
    | error cause => exact Quiet.pure _

theorem balanced : control.Balanced where
  connect := acquires_connect
  getMtu _ := quiet_getMtu
  setMtu _ := quiet_setMtu
  close_eq := rfl

end Linux

namespace MacOS

theorem quiet_attach (socket : Descriptor) (unit : UInt32) : Quiet (attach socket unit) := by
  refine (quiet_setCloseOnExec socket).bind fun result => ?_
  cases result with
  | error cause => exact Quiet.pure _
  | ok _ =>
    refine (quiet_lookUpControl socket controlName).bind fun result => ?_
    cases result with
    | error cause => exact Quiet.pure _
    | ok id => exact quiet_connectControl ..

theorem acquires_connect (unit : UInt32) : Acquires (connect unit) := by
  unfold connect
  by_cases hzero : unit = 0
  · rw [if_pos hzero]
    exact fun _ _ _ hleft => hleft
  · rw [if_neg hzero]
    exact acquires_openControlSocket.guarded IoError.os fun socket => quiet_attach socket unit

theorem quiet_getMtu (socket : Descriptor) (name : String) : Quiet (getMtu socket name) := by
  refine quiet_ofName fun name => (Host.quiet_getMtu socket name).bind fun result => ?_
  cases result with
  | ok mtu => exact Quiet.pure _
  | error cause => exact Quiet.pure _

theorem quiet_setMtu (socket : Descriptor) (name : String) (mtu : UInt32) :
    Quiet (setMtu socket name mtu) := by
  unfold setMtu
  cases TunnelControl.signedMtu? mtu with
  | error e => exact Quiet.pure _
  | ok mtu =>
    refine quiet_ofName fun name => (Host.quiet_setMtu socket name mtu).bind fun result => ?_
    cases result with
    | ok _ => exact Quiet.pure _
    | error cause => exact Quiet.pure _

theorem balanced : control.Balanced where
  connect := acquires_connect
  getMtu := quiet_getMtu
  setMtu := quiet_setMtu
  close_eq := rfl

end MacOS

/-! ## Creations -/

namespace TunnelControl

variable {c : TunnelControl Host} {config : TunnelConfig} {h between after : Host} {k : Nat}
  {units : List UInt32} {unit : UInt32}

/-- Units that were refused one after the other. Before the next was tried, everything that was
opened for one of them had been closed. -/
inductive Refused (c : TunnelControl Host) : Host → List UInt32 → Host → Prop
  | nil {h : Host} : Refused c h [] h
  | cons {h between after : Host} {unit : UInt32} {units : List UInt32} {cause : IoError} :
    c.connect unit h = (.error cause, between) → h.Leaves [] between →
    Refused c between units after → Refused c h (unit :: units) after

/-- What the creation of a handle comes to: behind candidates that were refused, one descriptor is
left open, which the handle owns, or all candidates were refused, and none is. -/
inductive Created (c : TunnelControl Host) (config : TunnelConfig) (h : Host) :
    Except Unavailable TunnelHandle → Host → Prop
  | claimed {k : Nat} {unit : UInt32} {descriptor : Descriptor} {between after : Host} :
    Refused c h (config.candidates.take k) between → config.candidates[k]? = some unit →
    c.connect unit between = (.ok descriptor, after) → h.Leaves [descriptor] after →
    Created c config h (.ok ⟨some descriptor, unit, c.interfaceName unit, none⟩) after
  | exhausted {after : Host} : Refused c h config.candidates after → h.Leaves [] after →
    Created c config h (.error ⟨config.firstUnit, config.lastUnit⟩) after

theorem Refused.concat {cause : IoError} (hrefused : Refused c h units between)
    (hconnect : c.connect unit between = (.error cause, after)) (hleaves : between.Leaves [] after) :
    Refused c h (units ++ [unit]) after := by
  induction hrefused with
  | nil => exact .cons hconnect hleaves .nil
  | cons hfirst hsettled _ ih => exact .cons hfirst hsettled (ih hconnect hleaves)

/-- Once some candidates have been refused, trying the others leads to what a creation comes to. -/
theorem Balanced.tries {claimed : Option TunnelHandle} (hc : c.Balanced)
    (hrefused : Refused c h (config.candidates.take k) between) (hleft : h.Leaves [] between)
    (htries : Tries c between (config.candidates.drop k) claimed after) :
    Created c config h (outcome config claimed) after := by
  generalize hunits : config.candidates.drop k = units at htries
  induction htries generalizing k with
  | exhausted =>
    rw [List.take_of_length_le (List.drop_eq_nil_iff.mp hunits)] at hrefused
    exact .exhausted hrefused hleft
  | @claimed _ _ unit _ _ hconnect =>
    obtain ⟨hunit, -⟩ := TunnelConfig.candidate_of_drop hunits
    have hthere := hc.connect unit hleft
    rw [hconnect] at hthere
    exact .claimed hrefused hunit hconnect hthere
  | @refused _ _ _ unit _ _ _ hconnect _ ih =>
    obtain ⟨hunit, hrest⟩ := TunnelConfig.candidate_of_drop hunits
    have hthere := hc.connect unit hleft
    have hhere := hc.connect unit (.refl hleft.tidy)
    rw [hconnect] at hthere hhere
    refine ih ?_ hthere hrest
    rw [List.take_add_one, hunit]
    exact hrefused.concat hconnect hhere

/-- A creation leaves one descriptor open if a unit was claimed, and none otherwise. -/
theorem Balanced.create (hc : c.Balanced) (htidy : h.Tidy) (config : TunnelConfig) :
    Created c config h (c.create config h).1.1 (c.create config h).2 := by
  obtain ⟨claimed, hresult, htries⟩ := c.tries_create config h
  rw [hresult]
  exact hc.tries (k := 0) .nil (.refl htidy) htries

/-! ## Handles -/

theorem Balanced.mtuOf (hc : c.Balanced) (handle : TunnelHandle) : Quiet (c.mtuOf handle) := by
  unfold TunnelControl.mtuOf
  cases handle.descriptor? with
  | error e => exact Quiet.pure _
  | ok descriptor =>
    refine (hc.getMtu descriptor handle.name).bind fun result => ?_
    cases result with
    | ok mtu => exact Quiet.pure _
    | error e => exact Quiet.pure _

theorem Balanced.assignMtu (hc : c.Balanced) (handle : TunnelHandle) (mtu : UInt32) :
    Quiet (c.assignMtu handle mtu) := by
  unfold TunnelControl.assignMtu
  cases handle.descriptor? with
  | error e => exact Quiet.pure _
  | ok descriptor =>
    refine (hc.setMtu descriptor handle.name mtu).bind fun result => ?_
    cases result with
    | ok _ => exact Quiet.pure _
    | error e => exact Quiet.pure _

/-- A handle keeps its descriptor when its MTU is set, or is not. -/
theorem descriptor_assignMtu (c : TunnelControl Host) (handle : TunnelHandle) (mtu : UInt32)
    (h : Host) : (c.assignMtu handle mtu h).1.2.1.descriptor = handle.descriptor := by
  unfold TunnelControl.assignMtu
  cases handle.descriptor? with
  | error e => rfl
  | ok descriptor =>
    cases hset : c.setMtu descriptor handle.name mtu h with
    | mk result after =>
      dsimp only
      rw [bind_of_eq hset]
      cases result with
      | ok _ => rfl
      | error e => rfl

end TunnelControl

/-! ## Sessions -/

/-- A system, and the handles that there are over it. -/
structure Session where
  host : Host
  handles : List TunnelHandle

namespace Session

/-- What is done in a session. A handle is given by its place among those there are. -/
inductive Act
  | create (config : TunnelConfig)
  | invalid
  | mtu (place : Nat)
  | setMtu (place : Nat) (mtu : UInt32)
  | drop (place : Nat)

/-- The descriptors that are owned by handles. -/
def descriptors (s : Session) : List Descriptor := s.handles.filterMap (·.descriptor)

def step (c : TunnelControl Host) (s : Session) : Act → Session
  | .create config =>
    match c.create config s.host with
    | ((.ok handle, _), host) => ⟨host, handle :: s.handles⟩
    | ((.error _, _), host) => ⟨host, s.handles⟩
  | .invalid => { s with handles := .invalid :: s.handles }
  | .mtu place =>
    match s.handles[place]? with
    | none => s
    | some handle => { s with host := (c.mtuOf handle s.host).2 }
  | .setMtu place mtu =>
    match s.handles[place]? with
    | none => s
    | some handle =>
      let ((_, handle, _), host) := c.assignMtu handle mtu s.host
      ⟨host, s.handles.set place handle⟩
  | .drop place =>
    match s.handles[place]? with
    | none => s
    | some handle => ⟨(c.drop handle s.host).2, s.handles.eraseIdx place⟩

def run (c : TunnelControl Host) (s : Session) (acts : List Act) : Session := acts.foldl (step c) s

variable {c : TunnelControl Host} {start : Host} {s : Session} {place : Nat} {handle : TunnelHandle}

/-- What a handle owns, and what the others do. -/
theorem perm_eraseIdx {handles : List TunnelHandle} (hplace : handles[place]? = some handle) :
    (handles.filterMap (·.descriptor)).Perm
      (handle.descriptor.toList ++ (handles.eraseIdx place).filterMap (·.descriptor)) := by
  obtain ⟨hlt, rfl⟩ := List.getElem?_eq_some_iff.mp hplace
  have hperm := (List.getElem_cons_eraseIdx_perm hlt).filterMap (·.descriptor)
  refine hperm.symm.trans (.of_eq ?_)
  cases hdescriptor : handles[place].descriptor with
  | none => exact List.filterMap_cons_none hdescriptor
  | some descriptor => exact List.filterMap_cons_some hdescriptor

/-- After every step just the descriptors of the handles are left open. -/
theorem leaves_step (hc : c.Balanced) (h : start.Leaves s.descriptors s.host) (act : Act) :
    start.Leaves (s.step c act).descriptors (s.step c act).host := by
  cases act with
  | create config =>
    have hcreated := hc.create h.tidy config
    cases hcreate : c.create config s.host with
    | mk answer after =>
      obtain ⟨result, events⟩ := answer
      rw [hcreate] at hcreated
      simp only [step, hcreate]
      cases hcreated with
      | claimed hrefused hunit hconnect hleaves => exact h.trans hleaves
      | exhausted hrefused hleaves => exact h.trans hleaves
  | invalid => exact h
  | mtu place =>
    cases hplace : s.handles[place]? with
    | none =>
      simp only [step, hplace]
      exact h
    | some handle =>
      simp only [step, hplace]
      exact hc.mtuOf handle h
  | setMtu place mtu =>
    cases hplace : s.handles[place]? with
    | none =>
      simp only [step, hplace]
      exact h
    | some handle =>
      simp only [step, hplace]
      have hset : (s.handles.set place (c.assignMtu handle mtu s.host).1.2.1)[place]? =
          some (c.assignMtu handle mtu s.host).1.2.1 := by
        obtain ⟨hlt, -⟩ := List.getElem?_eq_some_iff.mp hplace
        exact List.getElem?_set_self hlt
      refine (hc.assignMtu handle mtu h).perm ?_
      refine (perm_eraseIdx hplace).trans (.symm ((perm_eraseIdx hset).trans (.of_eq ?_)))
      rw [c.descriptor_assignMtu, List.eraseIdx_set_eq]
  | drop place =>
    cases hplace : s.handles[place]? with
    | none =>
      simp only [step, hplace]
      exact h
    | some handle =>
      simp only [step, hplace, TunnelControl.drop]
      have hleft := h.perm (perm_eraseIdx hplace)
      cases hdescriptor : handle.descriptor with
      | none =>
        rw [hdescriptor] at hleft
        exact hleft
      | some descriptor =>
        rw [hdescriptor] at hleft
        dsimp only
        rw [hc.close_eq]
        exact (hleft.close List.mem_cons_self).perm (.of_eq (List.erase_cons_head ..))

theorem leaves_run (hc : c.Balanced) (h : start.Leaves s.descriptors s.host) (acts : List Act) :
    start.Leaves (s.run c acts).descriptors (s.run c acts).host := by
  induction acts generalizing s with
  | nil => exact h
  | cons act acts ih => exact ih (leaves_step hc h act)

end Session

/-! ## Probes -/

namespace Probe

theorem quiet_prepare (socket : Descriptor) : Quiet (prepare socket) := by
  refine (quiet_ask _ fun _ => ⟨rfl, rfl⟩).bind fun result => ?_
  cases result with
  | error cause => exact Quiet.pure _
  | ok _ =>
    refine (quiet_ask _ fun _ => ⟨rfl, rfl⟩).bind fun result => ?_
    cases result with
    | error cause => exact Quiet.pure _
    | ok _ => exact quiet_ask _ fun _ => ⟨rfl, rfl⟩

theorem acquires_openSocket : Acquires openSocket :=
  acquires_openRawSocket.guarded (fun cause => cause) quiet_prepare

/-- A probe that is opened owns one descriptor if it has got a socket, and none otherwise, and has
given it back once it is dropped. -/
theorem leaves_openedUnder {host : Host} (htidy : host.Tidy) (eventLoop : EventLoop)
    (config : ProbeConfig) (identifier : UInt16) :
    let s := Scene.openedUnder eventLoop config identifier host
    (s.probe.state ≠ .socketOpen → host.Leaves [] s.host) ∧
    (∀ socket inbox, s.probe.backend = .socket socket inbox → host.Leaves [socket] s.host) ∧
    host.Leaves [] (s.probe.drop s.host).2 := by
  have hnone : host.Leaves [] host := .refl htidy
  cases hrunning : eventLoop.running with
  | false =>
    rw [openedUnder_absent hrunning]
    exact ⟨fun _ => hnone, nofun, hnone⟩
  | true =>
    cases hsimulate : config.simulate with
    | true =>
      rw [openedUnder_simulated hrunning hsimulate]
      exact ⟨fun _ => hnone, nofun, hnone⟩
    | false =>
      have hopened := acquires_openSocket hnone
      cases hopen : openSocket host with
      | mk result after =>
        rw [hopen] at hopened
        rw [openedUnder_socket hrunning hsimulate hopen]
        cases result with
        | error cause => exact ⟨fun _ => hopened, nofun, hopened⟩
        | ok socket =>
          refine ⟨fun hstate => absurd rfl hstate, ?_, ?_⟩
          · rintro _ _ ⟨⟩
            exact hopened
          · exact (hopened.close List.mem_cons_self).perm (.of_eq (List.erase_cons_head ..))

end Probe

/-! ## All of it -/

/-- Whatever is created, asked, set and dropped, in whatever order, on either platform, and whatever
the system refuses: what is open beyond what was open before is just what the handles own, and
nothing was closed twice. An attempt that fails leaves nothing open, not even before the next unit
is tried. A creation leaves one descriptor open, which its handle owns, or fails and leaves none. To
ask for an MTU or to set one leaves open what was open, and to drop a handle closes its descriptor
and no other. A probe that is opened owns one descriptor or, if anything on the way fails, none, and
nothing else is left open. -/
theorem descriptors_balanced (host : Host) (htidy : host.Tidy) :
    (∀ c ∈ [Linux.control, MacOS.control], ∀ acts : List Session.Act,
      let s := Session.run c ⟨host, []⟩ acts
      host.Leaves s.descriptors s.host ∧
      (∃ calls, s.host.calls = host.calls ++ calls ∧ (calls.filterMap Call.closed?).Nodup) ∧
      (∀ unit cause after, c.connect unit s.host = (.error cause, after) →
        s.host.Leaves [] after) ∧
      (∀ config, c.Created config s.host (c.create config s.host).1.1
        (c.create config s.host).2) ∧
      ∀ handle ∈ s.handles,
        s.host.Leaves [] (c.mtuOf handle s.host).2 ∧
        (∀ mtu, s.host.Leaves [] (c.assignMtu handle mtu s.host).2) ∧
        ∀ descriptor ∈ handle.descriptor, ∃ endpoint,
          (c.drop handle s.host).2.calls =
            s.host.calls ++ [.close descriptor (some endpoint)] ∧
          (c.drop handle s.host).2.descriptors = s.host.descriptors.filter (· != descriptor)) ∧
    ∀ eventLoop config identifier,
      let s := Probe.Scene.openedUnder eventLoop config identifier host
      (s.probe.state ≠ .socketOpen → host.Leaves [] s.host) ∧
      (∀ socket inbox, s.probe.backend = .socket socket inbox → host.Leaves [socket] s.host) ∧
      host.Leaves [] (s.probe.drop s.host).2 := by
  refine ⟨?_, fun eventLoop config => Probe.leaves_openedUnder htidy eventLoop config⟩
  intro c hmem acts s
  have hc : c.Balanced := by
    rcases List.mem_cons.mp hmem with rfl | hmem
    · exact Linux.balanced
    · rw [List.mem_singleton.mp hmem]
      exact MacOS.balanced
  have hleft : host.Leaves s.descriptors s.host :=
    Session.leaves_run hc (s := ⟨host, []⟩) (.refl htidy) acts
  have hnone : s.host.Leaves [] s.host := .refl hleft.tidy
  refine ⟨hleft, ?_, ?_, hc.create hleft.tidy, ?_⟩
  · obtain ⟨calls, hcalls, hledger⟩ := hleft.calls
    exact ⟨calls, hcalls, hledger.nodup_closed⟩
  · intro unit cause after hconnect
    have hattempt := hc.connect unit hnone
    rw [hconnect] at hattempt
    exact hattempt
  · intro handle hhandle
    refine ⟨hc.mtuOf handle hnone, fun mtu => hc.assignMtu handle mtu hnone, ?_⟩
    intro descriptor hdescriptor
    have hown : descriptor ∈ s.descriptors :=
      List.mem_filterMap.mpr ⟨handle, hhandle, hdescriptor⟩
    obtain ⟨endpoint, hcalls, -, hlive⟩ := close_of_mem (hleft.mem_descriptors hown)
    rw [Option.mem_def] at hdescriptor
    simp only [TunnelControl.drop, hdescriptor, hc.close_eq]
    exact ⟨endpoint, hcalls, hlive⟩

/-- One unit is refused, and the next one is claimed by a descriptor that is still open. -/
theorem descriptors_balanced_refused :
    let refusals : Refusals := { bind := fun unit => if unit = 8 then some .busy else none }
    let host : Host := { script := refusals.script 5 }
    host.Tidy ∧ host.Leaves [1] (Session.run MacOS.control ⟨host, []⟩ [.create ⟨8, 2⟩]).host := by
  intro refusals host
  have htidy : host.Tidy := ⟨nofun, .nil⟩
  obtain ⟨hbalanced, -⟩ := descriptors_balanced host htidy
  obtain ⟨hleft, -⟩ := hbalanced MacOS.control
    (List.mem_cons_of_mem _ (List.mem_singleton_self _)) [.create ⟨8, 2⟩]
  have hdescriptors : (Session.run MacOS.control ⟨host, []⟩ [.create ⟨8, 2⟩]).descriptors = [1] := by
    decide +kernel
  rw [hdescriptors] at hleft
  exact ⟨htidy, hleft⟩

end PingTun
