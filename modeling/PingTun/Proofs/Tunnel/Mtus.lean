-- SUMMARY: The MTU that is told of an interface is the last one that was set through its own handle.
import PingTun.Proofs.Tunnel.Balance
import PingTun.Proofs.Tunnel.Exclusive

/-! # MTUs

The kernel keeps the MTUs of interfaces by their names. As the name of every unit fits into the
buffer that names are handed over in, and no two units that are claimed share a name, what is set
through a handle is told of its own interface, and of no other.
-/

namespace PingTun

/-! ## Words -/

namespace TunnelControl

/-- What is told of an MTU that the kernel keeps: a negative one can not be told. -/
def told (mtu : Int32) : UInt32 := if 0 ≤ mtu.toInt then mtu.toInt.toNat.toUInt32 else 0

/-- An MTU that fits into the kernel's word is read as it was written. -/
theorem told_ofNat {mtu : UInt32} (h : mtu.toNat ≤ greatestMtu) :
    told (Int32.ofNat mtu.toNat) = mtu := by
  have hvalue : (Int32.ofNat mtu.toNat).toInt = mtu.toNat :=
    Int32.toInt_ofNat_of_lt (Nat.lt_of_le_of_lt h (by decide))
  rw [told, hvalue, if_pos (Int.natCast_nonneg _), Int.toNat_natCast]
  exact UInt32.ofNat_toNat

theorem signedMtu?_of_le {mtu : UInt32} (h : mtu.toNat ≤ greatestMtu) :
    signedMtu? mtu = .ok (Int32.ofNat mtu.toNat) := if_pos h

theorem signedMtu?_of_lt {mtu : UInt32} (h : greatestMtu < mtu.toNat) :
    signedMtu? mtu = .error .mtuOutOfRange := if_neg (Nat.not_le.mpr h)

end TunnelControl

/-! ## The kernel -/

/-- The kernel answers every question about an MTU and takes every MTU, and gives the sockets that
are needed for it. -/
structure Script.GrantsMtus (script : Script) : Prop where
  getMtu : ∀ log name, script.refusal log (.getMtu name) = none
  setMtu : ∀ log name, script.refusal log (.setMtu name) = none
  openDatagramSocket : ∀ log, script.refusal log .openDatagramSocket = none

namespace Host

/-- A host that keeps these MTUs now, and is otherwise bound by the same script. -/
structure Keeps (h : Host) (mtus : List UInt8 → Int32) (after : Host) : Prop where
  script : after.script = h.script
  mtus : after.mtus = mtus

/-- The MTUs when one of them has been set. -/
def mtusWith (h : Host) (name : String) (mtu : UInt32) (n : List UInt8) : Int32 :=
  if n = Text.utf8 name then Int32.ofNat mtu.toNat else h.mtus n

variable {h opened : Host}

theorem Keeps.refl (h : Host) : h.Keeps h.mtus h := ⟨rfl, rfl⟩

theorem keeps_close (descriptor : Descriptor) (h : Host) :
    h.Keeps h.mtus (close descriptor h).2 := by
  unfold close
  split
  · exact ⟨rfl, rfl⟩
  · dsimp only
    split
    · exact ⟨rfl, rfl⟩
    · exact ⟨rfl, rfl⟩

theorem openDatagramSocket_granted (hscript : h.script.GrantsMtus) :
    ∃ opened, openDatagramSocket h = (.ok h.next, opened) ∧ h.Keeps h.mtus opened :=
  ⟨_, openDescriptor_granted (hscript.openDatagramSocket h.log) .., rfl, rfl⟩

/-- The MTU of a name is told to whoever asks, once the name is in its buffer. -/
theorem getMtu_granted (hscript : h.script.GrantsMtus) (hopened : h.Keeps h.mtus opened)
    (socket : Descriptor) (buffer : InterfaceName) :
    ∃ after, getMtu socket buffer opened = (.ok (h.mtus buffer.content), after) ∧
      h.Keeps h.mtus after := by
  have hrefusal : opened.refusal? (.getMtu buffer.content) = none := by
    rw [refusal?, hopened.script]
    exact hscript.getMtu ..
  simp only [getMtu, hrefusal, hopened.mtus]
  exact ⟨_, rfl, hopened.script, hopened.mtus⟩

theorem setMtu_granted (hscript : h.script.GrantsMtus) (hopened : h.Keeps h.mtus opened)
    (socket : Descriptor) {buffer : InterfaceName} {name : String}
    (hcontent : buffer.content = Text.utf8 name) (mtu : UInt32) :
    ∃ after, setMtu socket buffer (Int32.ofNat mtu.toNat) opened = (.ok (), after) ∧
      h.Keeps (h.mtusWith name mtu) after := by
  have hrefusal : opened.refusal? (.setMtu buffer.content) = none := by
    rw [refusal?, hopened.script]
    exact hscript.setMtu ..
  simp only [setMtu, hrefusal]
  refine ⟨_, rfl, hopened.script, ?_⟩
  funext n
  change (if n = buffer.content then _ else opened.mtus n) = h.mtusWith name mtu n
  rw [hcontent, hopened.mtus, mtusWith]

end Host

/-! ## Controls -/

/-- What is asked of a control so that MTUs can be told of what was set. -/
structure TunnelControl.Measures (c : TunnelControl Host) : Prop where
  getMtu : ∀ {h : Host}, h.script.GrantsMtus → ∀ descriptor unit, ∃ after,
    c.getMtu descriptor (c.interfaceName unit) h =
      (TunnelControl.unsignedMtu? (h.mtus (Text.utf8 (c.interfaceName unit))), after) ∧
    h.Keeps h.mtus after
  setMtu : ∀ {h : Host}, h.script.GrantsMtus → ∀ descriptor unit {mtu : UInt32},
    mtu.toNat ≤ TunnelControl.greatestMtu → ∃ after,
    c.setMtu descriptor (c.interfaceName unit) mtu h = (.ok (), after) ∧
    h.Keeps (h.mtusWith (c.interfaceName unit) mtu) after
  /-- What does not fit is refused without a call. -/
  outOfRange : ∀ {mtu : UInt32}, TunnelControl.greatestMtu < mtu.toNat → ∀ descriptor name h,
    c.setMtu descriptor name mtu h = (.error .mtuOutOfRange, h)

namespace Linux

/-- The socket that is opened for a question changes nothing that is kept. -/
theorem withSocket_granted {α : Type} {h : Host} (hscript : h.script.GrantsMtus) {name : String}
    {buffer : InterfaceName} (hname : TunnelControl.kernelName? name = .ok buffer)
    {ask : Descriptor → InterfaceName → StateM Host (Except IoError α)}
    {result : Except IoError α} {mtus : List UInt8 → Int32}
    (hask : ∀ socket opened, h.Keeps h.mtus opened →
      ∃ after, ask socket buffer opened = (result, after) ∧ h.Keeps mtus after) :
    ∃ after, withSocket name ask h = (result, after) ∧ h.Keeps mtus after := by
  obtain ⟨opened, hopen, hopened⟩ := Host.openDatagramSocket_granted hscript
  obtain ⟨asked, hasked, hkeeps⟩ := hask h.next opened hopened
  have hclosed := Host.keeps_close h.next asked
  refine ⟨(Host.close h.next asked).2, ?_, hclosed.script.trans hkeeps.script,
    hclosed.mtus.trans hkeeps.mtus⟩
  unfold withSocket
  rw [Host.bind_of_eq hopen]
  simp only [hname]
  rw [Host.bind_of_eq hasked]
  rfl

theorem measures : control.Measures where
  getMtu {h} hscript _ unit := by
    obtain ⟨buffer, hname, hcontent⟩ := kernelName?_interfaceName unit
    refine withSocket_granted hscript hname fun socket opened hopened => ?_
    obtain ⟨after, hget, hkeeps⟩ := Host.getMtu_granted hscript hopened socket buffer
    refine ⟨after, ?_, hkeeps⟩
    rw [Host.bind_of_eq hget, hcontent]
    rfl
  setMtu {h} hscript _ unit mtu hfits := by
    obtain ⟨buffer, hname, hcontent⟩ := kernelName?_interfaceName unit
    simp only [control, setMtu, TunnelControl.signedMtu?_of_le hfits]
    refine withSocket_granted hscript hname fun socket opened hopened => ?_
    obtain ⟨after, hset, hkeeps⟩ := Host.setMtu_granted hscript hopened socket hcontent mtu
    refine ⟨after, ?_, hkeeps⟩
    rw [Host.bind_of_eq hset]
    rfl
  outOfRange hlarge _ name h := by
    simp only [control, setMtu, TunnelControl.signedMtu?_of_lt hlarge]
    rfl

end Linux

namespace MacOS

theorem measures : control.Measures where
  getMtu {h} hscript descriptor unit := by
    obtain ⟨buffer, hname, hcontent⟩ := kernelName?_interfaceName unit
    obtain ⟨after, hget, hkeeps⟩ := Host.getMtu_granted hscript (.refl h) descriptor buffer
    refine ⟨after, ?_, hkeeps⟩
    simp only [control, getMtu, hname]
    rw [Host.bind_of_eq hget, hcontent]
    rfl
  setMtu {h} hscript descriptor unit mtu hfits := by
    obtain ⟨buffer, hname, hcontent⟩ := kernelName?_interfaceName unit
    obtain ⟨after, hset, hkeeps⟩ := Host.setMtu_granted hscript (.refl h) descriptor hcontent mtu
    refine ⟨after, ?_, hkeeps⟩
    simp only [control, setMtu, TunnelControl.signedMtu?_of_le hfits, hname]
    rw [Host.bind_of_eq hset]
    rfl
  outOfRange hlarge descriptor name h := by
    simp only [control, setMtu, TunnelControl.signedMtu?_of_lt hlarge]
    rfl

end MacOS

/-! ## Handles -/

namespace TunnelControl

/-- A handle that a creation gave, whatever was set through it since. -/
def Gave (c : TunnelControl Host) (handle : TunnelHandle) : Prop :=
  ∃ config h given, (c.create config h).1.1 = .ok given ∧
    handle = { given with configuredMtu := handle.configuredMtu }

variable {c : TunnelControl Host} {handle : TunnelHandle} {h : Host} {mtu : UInt32}

theorem Gave.served (hgave : c.Gave handle) :
    c.Serves handle.unit ∧ handle.name = c.interfaceName handle.unit ∧
      ∃ descriptor, handle.descriptor? = .ok descriptor := by
  obtain ⟨config, before, given, hcreate, hhandle⟩ := hgave
  obtain ⟨start, descriptor, after, hconnect, hgiven⟩ := connect_of_create hcreate
  rw [hhandle, hgiven]
  exact ⟨⟨start, descriptor, after, hconnect⟩, rfl, descriptor, rfl⟩

theorem Gave.configure (hgave : c.Gave handle) (mtu : Option UInt32) :
    c.Gave { handle with configuredMtu := mtu } := by
  obtain ⟨config, before, given, hcreate, hhandle⟩ := hgave
  refine ⟨config, before, given, hcreate, ?_⟩
  rw [hhandle]

theorem Measures.mtuOf (hc : c.Measures) (hscript : h.script.GrantsMtus) (hgave : c.Gave handle) :
    (c.mtuOf handle h).1.1 = told (h.mtus (Text.utf8 handle.name)) ∧
      h.Keeps h.mtus (c.mtuOf handle h).2 := by
  obtain ⟨-, hname, descriptor, hdescriptor⟩ := hgave.served
  obtain ⟨after, hget, hkeeps⟩ := hc.getMtu hscript descriptor handle.unit
  rw [← hname] at hget
  unfold TunnelControl.mtuOf
  simp only [hdescriptor]
  rw [Host.bind_of_eq hget]
  unfold unsignedMtu? told
  split
  · exact ⟨rfl, hkeeps⟩
  · exact ⟨rfl, hkeeps⟩

theorem Measures.assignMtu (hc : c.Measures) (hscript : h.script.GrantsMtus)
    (hgave : c.Gave handle) (hfits : mtu.toNat ≤ greatestMtu) :
    ∃ after, c.assignMtu handle mtu h =
        ((mtu, { handle with configuredMtu := some mtu }, []), after) ∧
      h.Keeps (h.mtusWith handle.name mtu) after := by
  obtain ⟨-, hname, descriptor, hdescriptor⟩ := hgave.served
  obtain ⟨after, hset, hkeeps⟩ := hc.setMtu hscript descriptor handle.unit hfits
  rw [← hname] at hset hkeeps
  refine ⟨after, ?_, hkeeps⟩
  unfold TunnelControl.assignMtu
  simp only [hdescriptor]
  rw [Host.bind_of_eq hset]
  rfl

theorem Measures.assignMtu_of_lt (hc : c.Measures) (hgave : c.Gave handle)
    (hlarge : greatestMtu < mtu.toNat) (h : Host) :
    c.assignMtu handle mtu h = ((0, handle, [.mtuRefused handle.name mtu]), h) := by
  obtain ⟨-, hname, descriptor, hdescriptor⟩ := hgave.served
  have hset := hc.outOfRange hlarge descriptor handle.name h
  unfold TunnelControl.assignMtu
  simp only [hdescriptor]
  rw [Host.bind_of_eq hset]
  rfl

end TunnelControl

/-! ## Sessions -/

/-- What is asked for in a session: the MTU of a handle, or that it be set. -/
inductive Inquiry
  | ask (place : Nat)
  | set (place : Nat) (mtu : UInt32)

namespace Inquiry

def act : Inquiry → Session.Act
  | .ask place => .mtu place
  | .set place mtu => .setMtu place mtu

/-- The MTU that is set through the handle at a place, if it fits into the kernel's word. -/
def accepted? (place : Nat) : Inquiry → Option UInt32
  | .ask _ => none
  | .set other mtu => if other = place ∧ mtu.toNat ≤ 2147483647 then some mtu else none

theorem accepted?_of_ne {place other : Nat} (h : other ≠ place) (mtu : UInt32) :
    (set other mtu).accepted? place = none := if_neg fun hboth => h hboth.1

theorem accepted?_of_lt {mtu : UInt32} (h : TunnelControl.greatestMtu < mtu.toNat)
    (place other : Nat) : (set other mtu).accepted? place = none :=
  if_neg fun hboth => Nat.not_le.mpr h hboth.2

theorem accepted?_self {mtu : UInt32} (h : mtu.toNat ≤ TunnelControl.greatestMtu) (place : Nat) :
    (set place mtu).accepted? place = some mtu := if_pos ⟨rfl, h⟩

/-- What was accepted fits into the kernel's word. -/
theorem le_of_mem_accepted {inquiries : List Inquiry} {place : Nat} {mtu : UInt32}
    (h : mtu ∈ inquiries.filterMap (·.accepted? place)) : mtu.toNat ≤ TunnelControl.greatestMtu := by
  obtain ⟨inquiry, -, haccepted⟩ := List.mem_filterMap.mp h
  cases inquiry with
  | ask other => cases haccepted
  | set other wanted =>
    obtain ⟨hboth, heq⟩ := Option.ite_none_right_eq_some.mp haccepted
    cases heq
    exact hboth.2

end Inquiry

namespace Session

/-- Handles of different units over a kernel that grants MTUs. -/
structure Measured (c : TunnelControl Host) (s : Session) : Prop where
  script : s.host.script.GrantsMtus
  gave : ∀ handle ∈ s.handles, c.Gave handle
  units : (s.handles.map (·.unit)).Nodup

namespace Measured

variable {c : TunnelControl Host} {s : Session} {place other : Nat} {handle rival : TunnelHandle}
  {mtu : UInt32}

theorem gave_of_place (h : Measured c s) (hplace : s.handles[place]? = some handle) :
    c.Gave handle := h.gave handle (List.mem_of_getElem? hplace)

/-- Handles at different places have interfaces of different names. -/
theorem name_ne (hc : c.Exclusive) (h : Measured c s) (hplace : s.handles[place]? = some handle)
    (hother : s.handles[other]? = some rival) (hne : other ≠ place) :
    Text.utf8 handle.name ≠ Text.utf8 rival.name := by
  intro heq
  obtain ⟨hserves, hname, -⟩ := (h.gave_of_place hplace).served
  obtain ⟨hserves', hname', -⟩ := (h.gave_of_place hother).served
  rw [hname, hname'] at heq
  have hunit := hc.name_inj hserves' hserves (Text.utf8_injective heq).symm
  obtain ⟨hlt, -⟩ := List.getElem?_eq_some_iff.mp hother
  refine hne ((List.getElem?_inj (by rwa [List.length_map]) h.units).mp ?_)
  rw [List.getElem?_map, List.getElem?_map, hother, hplace]
  exact congrArg some hunit

/-- A handle is configured, and the kernel keeps other MTUs. -/
theorem configure (h : Measured c s) (hother : s.handles[other]? = some rival)
    (mtu : Option UInt32) {mtus : List UInt8 → Int32} {after : Host}
    (hkeeps : s.host.Keeps mtus after) :
    Measured c ⟨after, s.handles.set other { rival with configuredMtu := mtu }⟩ where
  script := hkeeps.script ▸ h.script
  gave := by
    intro handle hmem
    rcases List.mem_or_eq_of_mem_set hmem with hmem | rfl
    · exact h.gave handle hmem
    · exact (h.gave_of_place hother).configure mtu
  units := by
    obtain ⟨hlt, hget⟩ := List.getElem?_eq_some_iff.mp hother
    have hunit : other < (s.handles.map (·.unit)).length := by rwa [List.length_map]
    have hself : (s.handles.map (·.unit))[other] = rival.unit := by
      rw [List.getElem_map, hget]
    rw [List.map_set, ← hself, List.set_getElem_self]
    exact h.units

/-- What one inquiry makes of a handle and of the MTU that is kept for its interface. -/
structure Told (s t : Session) (place : Nat) (handle : TunnelHandle) (mtu : Option UInt32) :
    Prop where
  handle_eq : t.handles[place]? =
    some { handle with configuredMtu := mtu.or handle.configuredMtu }
  mtus_eq : t.host.mtus (Text.utf8 handle.name) =
    (mtu.map fun mtu => Int32.ofNat mtu.toNat).getD (s.host.mtus (Text.utf8 handle.name))

theorem Told.refl (hplace : s.handles[place]? = some handle) : Told s s place handle none :=
  ⟨hplace, rfl⟩

/-- One inquiry changes the handle that it is about, and the MTU that is kept for it, and no
other. -/
theorem step (hc : c.Measures) (hexclusive : c.Exclusive) (h : Measured c s) (inquiry : Inquiry)
    (hplace : s.handles[place]? = some handle) :
    Measured c (s.step c inquiry.act) ∧
      Told s (s.step c inquiry.act) place handle (inquiry.accepted? place) := by
  cases inquiry with
  | ask other =>
    cases hother : s.handles[other]? with
    | none =>
      simp only [Session.step, Inquiry.act, hother]
      exact ⟨h, .refl hplace⟩
    | some rival =>
      simp only [Session.step, Inquiry.act, hother]
      obtain ⟨-, hkeeps⟩ := hc.mtuOf h.script (h.gave_of_place hother)
      exact ⟨⟨hkeeps.script ▸ h.script, h.gave, h.units⟩, hplace, by rw [hkeeps.mtus]; rfl⟩
  | set other mtu =>
    cases hother : s.handles[other]? with
    | none =>
      have hne : other ≠ place := by
        rintro rfl
        rw [hplace] at hother
        cases hother
      simp only [Session.step, Inquiry.act, hother, Inquiry.accepted?_of_ne hne]
      exact ⟨h, .refl hplace⟩
    | some rival =>
      rcases Nat.lt_or_ge TunnelControl.greatestMtu mtu.toNat with hlarge | hfits
      · have hset := hc.assignMtu_of_lt (h.gave_of_place hother) hlarge s.host
        obtain ⟨hlt, rfl⟩ := List.getElem?_eq_some_iff.mp hother
        simp only [Session.step, Inquiry.act, hother, hset, List.set_getElem_self,
          Inquiry.accepted?_of_lt hlarge]
        exact ⟨h, .refl hplace⟩
      · obtain ⟨after, hset, hkeeps⟩ := hc.assignMtu h.script (h.gave_of_place hother) hfits
        simp only [Session.step, Inquiry.act, hother, hset]
        refine ⟨h.configure hother (some mtu) hkeeps, ?_⟩
        by_cases heq : other = place
        · subst heq
          cases hother.symm.trans hplace
          obtain ⟨hlt, -⟩ := List.getElem?_eq_some_iff.mp hother
          rw [Inquiry.accepted?_self hfits]
          refine ⟨List.getElem?_set_self hlt, ?_⟩
          rw [hkeeps.mtus]
          exact if_pos rfl
        · rw [Inquiry.accepted?_of_ne heq]
          refine ⟨(List.getElem?_set_ne heq).trans hplace, ?_⟩
          rw [hkeeps.mtus]
          exact if_neg (h.name_ne hexclusive hplace hother heq)

/-- Of any inquiries it is the last one that was accepted for a handle that counts. -/
theorem run (hc : c.Measures) (hexclusive : c.Exclusive) (h : Measured c s)
    (inquiries : List Inquiry) (hplace : s.handles[place]? = some handle) :
    Measured c (s.run c (inquiries.map (·.act))) ∧
      Told s (s.run c (inquiries.map (·.act))) place handle
        (inquiries.filterMap (·.accepted? place)).getLast? := by
  induction inquiries generalizing s handle with
  | nil => exact ⟨h, .refl hplace⟩
  | cons inquiry inquiries ih =>
    obtain ⟨hafter, hfirst⟩ := h.step hc hexclusive inquiry hplace
    obtain ⟨hlast, hlater⟩ := ih hafter hfirst.handle_eq
    refine ⟨hlast, ?_⟩
    have hmtus := hlater.mtus_eq.trans (congrArg _ hfirst.mtus_eq)
    cases haccepted : inquiry.accepted? place with
    | none =>
      rw [haccepted] at hlater hmtus
      rw [List.filterMap_cons_none haccepted]
      exact ⟨hlater.handle_eq, hmtus⟩
    | some mtu =>
      rw [haccepted] at hlater hmtus
      rw [List.filterMap_cons_some haccepted, List.getLast?_cons]
      generalize (inquiries.filterMap (·.accepted? place)).getLast? = latest at hlater hmtus
      cases latest with
      | none => exact ⟨hlater.handle_eq, hmtus⟩
      | some latest => exact ⟨hlater.handle_eq, hmtus⟩

end Measured

end Session

/-- Over a kernel that grants MTUs, with handles that creations gave, of different units: whatever
MTUs have been asked for and set, in any order, the handle is configured with the last MTU that was
set through it and fits into the kernel's word, and this MTU is told of it. If there is none, what is
told is the MTU that the kernel has kept for the interface all along, or zero if that is negative.
Any MTU that fits is set, and any other is refused, which changes neither the handle nor the system,
and makes no call. -/
theorem mtu_of_inquiries {c : TunnelControl Host} (hc : c ∈ [Linux.control, MacOS.control])
    {s : Session} (hscript : s.host.script.GrantsMtus) (hgave : ∀ handle ∈ s.handles, c.Gave handle)
    (hunits : (s.handles.map (·.unit)).Nodup) (inquiries : List Inquiry) {place : Nat}
    {handle : TunnelHandle} (hplace : s.handles[place]? = some handle) :
    let t := s.run c (inquiries.map (·.act))
    let last := (inquiries.filterMap (·.accepted? place)).getLast?
    let current := { handle with configuredMtu := last.or handle.configuredMtu }
    let initial := s.host.mtus (Text.utf8 (c.interfaceName handle.unit))
    t.handles[place]? = some current ∧
    (c.mtuOf current t.host).1.1 =
      last.getD (if 0 ≤ initial.toInt then initial.toInt.toNat.toUInt32 else 0) ∧
    ∀ mtu : UInt32,
      (mtu.toNat ≤ 2147483647 → (c.assignMtu current mtu t.host).1.1 = mtu) ∧
      (2147483647 < mtu.toNat →
        c.assignMtu current mtu t.host = ((0, current, [.mtuRefused handle.name mtu]), t.host)) := by
  intro t last current initial
  obtain ⟨hmeasures, hexclusive⟩ : c.Measures ∧ c.Exclusive := by
    rcases List.mem_cons.mp hc with rfl | hc
    · exact ⟨Linux.measures, Linux.exclusive⟩
    · rw [List.mem_singleton.mp hc]
      exact ⟨MacOS.measures, MacOS.exclusive⟩
  have hmeasured : Session.Measured c s := ⟨hscript, hgave, hunits⟩
  obtain ⟨hafter, htold⟩ := hmeasured.run hmeasures hexclusive inquiries hplace
  have hcurrent : c.Gave current := hafter.gave_of_place htold.handle_eq
  refine ⟨htold.handle_eq, ?_, ?_⟩
  · obtain ⟨hmtu, -⟩ := hmeasures.mtuOf hafter.script hcurrent
    obtain ⟨-, hname, -⟩ := hcurrent.served
    have hkept : t.host.mtus (Text.utf8 current.name) = _ := htold.mtus_eq
    have hinitial : s.host.mtus (Text.utf8 handle.name) = initial :=
      congrArg (fun name => s.host.mtus (Text.utf8 name)) hname
    rw [hmtu, hkept, hinitial]
    cases hlast : (inquiries.filterMap (·.accepted? place)).getLast? with
    | none =>
      simp only [last, hlast]
      rfl
    | some mtu =>
      simp only [last, hlast]
      exact TunnelControl.told_ofNat (Inquiry.le_of_mem_accepted (List.mem_of_getLast? hlast))
  · intro mtu
    refine ⟨fun hfits => ?_, fun hlarge => hmeasures.assignMtu_of_lt hcurrent hlarge t.host⟩
    obtain ⟨after, hset, -⟩ := hmeasures.assignMtu hafter.script hcurrent hfits
    rw [hset]

/-- Two handles are created. What is set through the second, and what is too large, does not count
for the first. -/
theorem mtu_of_inquiries_created :
    let host : Host := { script := ({} : Refusals).script 5 }
    let first : TunnelHandle := ⟨some 0, 8, "utun7", none⟩
    let s := Session.run MacOS.control ⟨host, []⟩ [.create ⟨8, 1⟩, .create ⟨9, 1⟩]
    let inquiries : List Inquiry := [.set 1 1400, .set 0 9000, .set 1 4294967295, .ask 0]
    let t := s.run MacOS.control (inquiries.map (·.act))
    s.handles[1]? = some first ∧
      t.handles[1]? = some { first with configuredMtu := some 1400 } ∧
      (MacOS.control.mtuOf { first with configuredMtu := some 1400 } t.host).1.1 = 1400 := by
  intro host first s inquiries t
  have hcreate : (MacOS.control.create ⟨8, 1⟩ host).1.1 = .ok first := by decide +kernel
  have hsecond : (MacOS.control.create ⟨9, 1⟩ (MacOS.control.create ⟨8, 1⟩ host).2).1.1 =
      .ok ⟨some 1, 9, "utun8", none⟩ := by decide +kernel
  have hhandles : s.handles = [⟨some 1, 9, "utun8", none⟩, first] := by decide +kernel
  have hscript : s.host.script.GrantsMtus := ⟨fun _ _ => rfl, fun _ _ => rfl, fun _ => rfl⟩
  have hgave : ∀ handle ∈ s.handles, MacOS.control.Gave handle := by
    rw [hhandles]
    exact List.forall_mem_cons.mpr ⟨⟨⟨9, 1⟩, _, _, hsecond, rfl⟩,
      List.forall_mem_singleton.mpr ⟨⟨8, 1⟩, host, first, hcreate, rfl⟩⟩
  have hunits : (s.handles.map (·.unit)).Nodup := by
    rw [hhandles]
    decide
  have hplace : s.handles[1]? = some first := by
    rw [hhandles]
    rfl
  have hlast : (inquiries.filterMap (·.accepted? 1)).getLast? = some 1400 := by decide
  -- From here on nothing counts of the session but what has been shown of it.
  clear_value s
  obtain ⟨hhandle, hmtu, -⟩ := mtu_of_inquiries (List.mem_cons_of_mem _ (List.mem_singleton_self _))
    hscript hgave hunits inquiries hplace
  rw [hlast] at hhandle hmtu
  exact ⟨hplace, hhandle, hmtu⟩

end PingTun
