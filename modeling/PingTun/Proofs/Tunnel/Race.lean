-- SUMMARY: Provisioners that race for units over one system, and what their handles have to themselves.
import PingTun.Proofs.Tunnel.Candidates
import PingTun.Proofs.Tunnel.Exclusive

/-! # Races

Any number of provisioners create handles over one system at the same time. They take turns in any
order: a turn is one attempt at a unit, after which others may go on, and live handles are dropped
in between. A creation that nothing comes between is the one that provisioners run by themselves.
-/

namespace PingTun

/-! ## Turns -/

/-- Provisioners over one system, and their handles. -/
structure Race (ι : Type) where
  host : Host
  /-- How many candidates a provisioner has tried for the handle it is creating, if it is. -/
  tried : ι → Option Nat
  /-- The live handles, and who created them. -/
  handles : List (ι × TunnelHandle)

namespace Race

/-- What a provisioner does in a turn, or what is done to a handle of it. -/
inductive Act (ι : Type)
  | begun (i : ι)
  | refused (i : ι) (unit : UInt32)
  | claimed (i : ι) (handle : TunnelHandle)
  | gaveUp (i : ι) (e : Unavailable)
  | dropped (i : ι) (handle : TunnelHandle)

variable {ι : Type} [DecidableEq ι]

/-- The provisioners before any of them has begun. -/
def start (host : Host) : Race ι := { host, tried := fun _ => none, handles := [] }

/-- Note how far a provisioner has come. -/
def note (s : Race ι) (i : ι) (tried : Option Nat) : Race ι :=
  { s with tried := fun j => if j = i then tried else s.tried j }

theorem tried_note_self (s : Race ι) (i : ι) (tried : Option Nat) :
    (s.note i tried).tried i = tried := if_pos rfl

theorem tried_note_of_ne {i j : ι} (s : Race ι) (tried : Option Nat) (h : i ≠ j) :
    (s.note j tried).tried i = s.tried i := if_neg h

/-- The handle of a unit that was claimed. -/
def handle (c : TunnelControl Host) (unit : UInt32) (descriptor : Descriptor) : TunnelHandle :=
  ⟨some descriptor, unit, c.interfaceName unit, none⟩

section

variable (c : TunnelControl Host) (configs : ι → TunnelConfig)

/-- One turn. -/
inductive Turn (s : Race ι) : Act ι → Race ι → Prop
  | begun (i : ι) : s.tried i = none → Turn s (.begun i) (s.note i (some 0))
  | refused (i : ι) (k : Nat) (unit : UInt32) (cause : IoError) : s.tried i = some k →
    (configs i).candidates[k]? = some unit → (c.connect unit s.host).1 = .error cause →
    Turn s (.refused i unit)
      { s.note i (some (k + 1)) with host := (c.connect unit s.host).2 }
  | claimed (i : ι) (k : Nat) (unit : UInt32) (descriptor : Descriptor) : s.tried i = some k →
    (configs i).candidates[k]? = some unit → (c.connect unit s.host).1 = .ok descriptor →
    Turn s (.claimed i (handle c unit descriptor))
      { s.note i none with
        host := (c.connect unit s.host).2
        handles := (i, handle c unit descriptor) :: s.handles }
  | gaveUp (i : ι) (k : Nat) : s.tried i = some k → (configs i).candidates[k]? = none →
    Turn s (.gaveUp i ⟨(configs i).firstUnit, (configs i).lastUnit⟩) (s.note i none)
  | dropped (i : ι) (handle : TunnelHandle) (front back : List (ι × TunnelHandle)) :
    s.handles = front ++ (i, handle) :: back →
    Turn s (.dropped i handle)
      { s with host := (c.drop handle s.host).2, handles := front ++ back }

/-- Any number of turns. -/
inductive Turns (s : Race ι) : List (Act ι) → Race ι → Prop
  | nil : Turns s [] s
  | concat {log : List (Act ι)} {between after : Race ι} {act : Act ι} : Turns s log between →
    Turn c configs between act after → Turns s (log ++ [act]) after

end

/-! ## What handles have -/

/-- A handle has a descriptor that is bound to its unit, and bears the name of the unit. -/
structure Holds (c : TunnelControl Host) (h : Host) (handle : TunnelHandle) : Prop where
  bound : ∃ descriptor closeOnExec, handle.descriptor = some descriptor ∧
    ⟨descriptor, .tunnel (some handle.unit), closeOnExec⟩ ∈ h.live
  name_eq : handle.name = c.interfaceName handle.unit

/-- What is true of the live handles at any time. -/
structure Settled (c : TunnelControl Host) (configs : ι → TunnelConfig) (s : Race ι) : Prop where
  sound : s.host.Sound
  holds : ∀ p ∈ s.handles, Holds c s.host p.2
  serves : ∀ p ∈ s.handles, c.Serves p.2.unit
  candidate : ∀ p ∈ s.handles, p.2.unit ∈ (configs p.1).candidates
  apart : s.handles.Pairwise fun p q => p.2.unit ≠ q.2.unit

variable {c : TunnelControl Host} {configs : ι → TunnelConfig} {s after : Race ι} {act : Act ι}
  {log : List (Act ι)} {host : Host}

omit [DecidableEq ι] in
theorem settled_start (hsound : host.Sound) : Settled c configs (start host) where
  sound := hsound
  holds := List.forall_mem_nil _
  serves := List.forall_mem_nil _
  candidate := List.forall_mem_nil _
  apart := .nil

theorem Holds.mono {h after : Host} {handle : TunnelHandle} (hholds : Holds c h handle)
    (hlive : ∀ d ∈ h.live, d.endpoint = .tunnel (some handle.unit) → d ∈ after.live) :
    Holds c after handle := by
  obtain ⟨descriptor, closeOnExec, hdescriptor, hmem⟩ := hholds.bound
  exact ⟨⟨descriptor, closeOnExec, hdescriptor, hlive _ hmem rfl⟩, hholds.name_eq⟩

/-- The unit of a handle is occupied. -/
theorem Holds.occupied {h : Host} {handle : TunnelHandle} (hholds : Holds c h handle)
    (hsound : h.Sound) : h.occupied handle.unit = true := by
  obtain ⟨descriptor, closeOnExec, -, hmem⟩ := hholds.bound
  exact hsound.occupied _ hmem _ rfl

/-- A handle that was just claimed has all that belongs to it. -/
theorem holds_handle {h after : Host} {unit : UInt32} (hclaims : h.Claims unit after) :
    Holds c after (handle c unit h.next) := by
  obtain ⟨closeOnExec, hlive⟩ := hclaims.live
  refine ⟨⟨h.next, closeOnExec, rfl, ?_⟩, rfl⟩
  rw [hlive]
  exact List.mem_cons_self

/-- To drop a handle gives its unit back, and no other. -/
theorem Holds.gives_drop {h : Host} {handle : TunnelHandle} (hc : c.Exclusive) (hsound : h.Sound)
    (hholds : Holds c h handle) :
    ∃ descriptor closeOnExec, ⟨descriptor, .tunnel (some handle.unit), closeOnExec⟩ ∈ h.live ∧
      h.Gives descriptor handle.unit (c.drop handle h).2 := by
  obtain ⟨descriptor, closeOnExec, hdescriptor, hmem⟩ := hholds.bound
  refine ⟨descriptor, closeOnExec, hmem, ?_⟩
  simp only [TunnelControl.drop, hdescriptor, hc.close_eq]
  exact hsound.gives_close hmem

theorem Settled.note (h : Settled c configs s) (i : ι) (tried : Option Nat) :
    Settled c configs (s.note i tried) :=
  ⟨h.sound, h.holds, h.serves, h.candidate, h.apart⟩

/-- A refused attempt leaves every handle what it has. -/
theorem Settled.refuse (h : Settled c configs s) (i : ι) (tried : Option Nat)
    (hmoved : s.host.Unmoved host) : Settled c configs { s.note i tried with host } := by
  refine ⟨hmoved.sound h.sound, ?_, h.serves, h.candidate, h.apart⟩
  intro p hp
  apply (h.holds p hp).mono
  intro d hd _
  rwa [hmoved.live]

/-- A unit that is claimed is not the unit of any other handle. -/
theorem Settled.claim (h : Settled c configs s) {i : ι} {unit : UInt32}
    (hunit : unit ∈ (configs i).candidates) (hserves : c.Serves unit)
    (hclaims : s.host.Claims unit host) :
    Settled c configs
      { s.note i none with host, handles := (i, handle c unit s.host.next) :: s.handles } := by
  obtain ⟨closeOnExec, hlive⟩ := hclaims.live
  refine ⟨hclaims.sound h.sound, ?_, ?_, ?_, ?_⟩
  · refine List.forall_mem_cons.mpr ⟨holds_handle hclaims, fun p hp => ?_⟩
    apply (h.holds p hp).mono
    intro d hd _
    rw [hlive]
    exact List.mem_cons_of_mem _ hd
  · exact List.forall_mem_cons.mpr ⟨hserves, h.serves⟩
  · exact List.forall_mem_cons.mpr ⟨hunit, h.candidate⟩
  · refine List.pairwise_cons.mpr ⟨?_, h.apart⟩
    -- The unit was free when it was bound, and that of a live handle never is.
    rintro p hp rfl
    have hbusy := (h.holds p hp).occupied h.sound
    rw [hclaims.free] at hbusy
    cases hbusy

omit [DecidableEq ι] in
/-- A handle that is dropped takes nothing from the others. -/
theorem Settled.drop (hc : c.Exclusive) (h : Settled c configs s) {i : ι} {handle : TunnelHandle}
    {front back : List (ι × TunnelHandle)} (hhandles : s.handles = front ++ (i, handle) :: back) :
    Settled c configs
      { s with host := (c.drop handle s.host).2, handles := front ++ back } := by
  have hmem {p : ι × TunnelHandle} (hp : p ∈ front ++ back) : p ∈ s.handles := by
    rw [hhandles]
    exact ((List.sublist_cons_self ..).append_left front).subset hp
  have hown : (i, handle) ∈ s.handles := by
    rw [hhandles]
    exact List.mem_append_right _ List.mem_cons_self
  obtain ⟨hothers, hapart⟩ : (∀ p ∈ front ++ back, handle.unit ≠ p.2.unit) ∧ _ := by
    have hall := h.apart
    rw [hhandles, List.pairwise_middle fun hne => hne.symm] at hall
    exact List.pairwise_cons.mp hall
  obtain ⟨descriptor, closeOnExec, hopen, hgives⟩ := (h.holds _ hown).gives_drop hc h.sound
  refine ⟨hgives.sound h.sound hopen, ?_, ?_, ?_, hapart⟩
  · intro p hp
    apply (h.holds p (hmem hp)).mono
    intro d hd hbound
    -- Descriptors alone would not do: what tells the two apart is that their units differ.
    have hne : d.descriptor ≠ descriptor := by
      intro heq
      have hsame := h.sound.descriptor_inj d hd _ hopen heq
      rw [hsame] at hbound
      exact hothers p hp (Option.some.inj (Endpoint.tunnel.inj hbound))
    rw [hgives.live]
    exact List.mem_filter.mpr ⟨hd, bne_iff_ne.mpr hne⟩
  · exact fun p hp => h.serves p (hmem hp)
  · exact fun p hp => h.candidate p (hmem hp)

/-- No turn unsettles a handle. -/
theorem Settled.turn (hc : c.Exclusive) (h : Settled c configs s)
    (hturn : Turn c configs s act after) : Settled c configs after := by
  cases hturn with
  | begun i htried => exact h.note i _
  | gaveUp i k htried hnone => exact h.note i _
  | refused i k unit cause htried hunit hconnect =>
    exact h.refuse i _ (hc.attempts h.sound (Prod.ext hconnect rfl))
  | claimed i k unit descriptor htried hunit hconnect =>
    have hattempt : c.connect unit s.host = (.ok descriptor, _) := Prod.ext hconnect rfl
    obtain ⟨rfl, hclaims⟩ := hc.attempts h.sound hattempt
    exact h.claim (List.mem_of_getElem? hunit) ⟨_, _, _, hattempt⟩ hclaims
  | dropped i handle front back hhandles => exact h.drop hc hhandles

theorem Settled.turns (hc : c.Exclusive) (h : Settled c configs s)
    (hturns : Turns c configs s log after) : Settled c configs after := by
  induction hturns with
  | nil => exact h
  | concat _ hturn ih => exact ih.turn hc hturn

omit [DecidableEq ι] in
/-- No two handles have the same unit or the same name. -/
theorem Settled.distinct (hc : c.Exclusive) (h : Settled c configs s) :
    s.handles.Pairwise fun p q => p.2.unit ≠ q.2.unit ∧ p.2.name ≠ q.2.name := by
  refine h.apart.imp_of_mem ?_
  intro p q hp hq hunit
  refine ⟨hunit, fun hname => hunit ?_⟩
  rw [(h.holds p hp).name_eq, (h.holds q hq).name_eq] at hname
  exact hc.name_inj (h.serves p hp) (h.serves q hq) hname

/-! ## What creations have tried -/

/-- The units that a provisioner was refused since it last began, behind one turn more. -/
def Act.tally (i : ι) (units : List UInt32) : Act ι → List UInt32
  | .begun j => if j = i then [] else units
  | .refused j unit => if j = i then units ++ [unit] else units
  | _ => units

/-- The units that a provisioner was refused since it last began. -/
def refusals (i : ι) (log : List (Act ι)) : List UInt32 := log.foldl (Act.tally i) []

theorem refusals_concat (i : ι) (log : List (Act ι)) (act : Act ι) :
    refusals i (log ++ [act]) = act.tally i (refusals i log) := by
  rw [refusals, List.foldl_append]
  rfl

/-- While a handle is being created, exactly the candidates that were tried have been refused. -/
def Tallied (configs : ι → TunnelConfig) (s : Race ι) (i : ι) (units : List UInt32) : Prop :=
  ∀ k, s.tried i = some k → units = (configs i).candidates.take k

section

variable {i j : ι} {units : List UInt32}

theorem Tallied.note_of_ne (h : Tallied configs s i units) (hj : j ≠ i) (tried : Option Nat) :
    Tallied configs (s.note j tried) i units := by
  intro k hk
  rw [tried_note_of_ne s tried (Ne.symm hj)] at hk
  exact h k hk

/-- Nothing has to be tallied once no handle is being created. -/
theorem Tallied.note_none (h : Tallied configs s i units) (j : ι) :
    Tallied configs (s.note j none) i units := by
  by_cases hj : j = i
  · subst hj
    intro k hk
    rw [tried_note_self] at hk
    cases hk
  · exact h.note_of_ne hj none

/-- Every turn is tallied, if only those before it are. -/
theorem Tallied.turn (h : Tallied configs s i units) (hturn : Turn c configs s act after) :
    Tallied configs after i (act.tally i units) := by
  cases hturn with
  | begun j hidle =>
    by_cases hj : j = i
    · subst hj
      intro k hk
      rw [tried_note_self] at hk
      cases hk
      exact if_pos rfl
    · rw [Act.tally, if_neg hj]
      exact h.note_of_ne hj _
  | refused j l unit cause hbefore hunit hconnect =>
    by_cases hj : j = i
    · subst hj
      intro k hk
      have hl : l + 1 = k := Option.some.inj ((tried_note_self ..).symm.trans hk)
      rw [Act.tally, if_pos rfl, ← hl, List.take_add_one, hunit, h l hbefore]
      rfl
    · rw [Act.tally, if_neg hj]
      exact h.note_of_ne hj _
  | claimed j l unit descriptor hbefore hunit hconnect => exact h.note_none j
  | gaveUp j l hbefore hnone => exact h.note_none j
  | dropped j handle front back hhandles => exact h

theorem tallied_of_turns (hturns : Turns c configs (start host) log s) (i : ι) :
    Tallied configs s i (refusals i log) := by
  induction hturns with
  | nil =>
    intro k hk
    cases hk
  | concat _ hturn ih =>
    rw [refusals_concat]
    exact ih.turn hturn

end

/-! ## Provisioners by themselves -/

theorem Turns.single (hturn : Turn c configs s act after) : Turns c configs s [act] after :=
  .concat .nil hturn

theorem Turns.trans {between : Race ι} {later : List (Act ι)} (h : Turns c configs s log between)
    (hlater : Turns c configs between later after) : Turns c configs s (log ++ later) after := by
  induction hlater with
  | nil =>
    rw [List.append_nil]
    exact h
  | concat _ hturn ih =>
    rw [← List.append_assoc]
    exact .concat ih hturn

/-- What a provisioner does last. -/
def Act.ofResult (i : ι) : Except Unavailable TunnelHandle → Act ι
  | .ok handle => .claimed i handle
  | .error e => .gaveUp i e

/-- A provisioner can come to its end without anyone else having a turn. -/
def Ends (c : TunnelControl Host) (configs : ι → TunnelConfig) (s : Race ι) (i : ι)
    (result : Except Unavailable TunnelHandle) (host : Host) : Prop :=
  ∃ log after, Turns c configs s (log ++ [.ofResult i result]) after ∧ after.host = host ∧
    after.handles = (result.toOption.map (i, ·)).toList ++ s.handles

theorem Ends.behind {i : ι} {between : Race ι} {result : Except Unavailable TunnelHandle}
    (hturn : Turn c configs s act between) (hhandles : between.handles = s.handles)
    (h : Ends c configs between i result host) : Ends c configs s i result host := by
  obtain ⟨log, after, hturns, hhost, hafter⟩ := h
  rw [hhandles] at hafter
  exact ⟨act :: log, after, (Turns.single hturn).trans hturns, hhost, hafter⟩

/-- The turns of a provisioner are the attempts of its creation. -/
theorem ends_of_tries {i : ι} {k : Nat} {claimed : Option TunnelHandle}
    (htried : s.tried i = some k)
    (htries : c.Tries s.host ((configs i).candidates.drop k) claimed host) :
    Ends c configs s i (TunnelControl.outcome (configs i) claimed) host := by
  generalize hstart : s.host = start at htries
  generalize hunits : (configs i).candidates.drop k = units at htries
  induction htries generalizing k s with
  | exhausted =>
    have hnone := List.getElem?_eq_none_iff.mpr (List.drop_eq_nil_iff.mp hunits)
    exact ⟨[], s.note i none, .single (.gaveUp i k htried hnone), hstart, rfl⟩
  | @claimed before after unit units descriptor hconnect =>
    obtain ⟨hunit, -⟩ := TunnelConfig.candidate_of_drop hunits
    cases hstart
    have hresult : (c.connect unit s.host).1 = .ok descriptor := by rw [hconnect]
    refine ⟨[], _, .single (.claimed i k unit descriptor htried hunit hresult), ?_, rfl⟩
    exact congrArg Prod.snd hconnect
  | @refused before between after unit units cause claimed hconnect _ ih =>
    obtain ⟨hunit, hrest⟩ := TunnelConfig.candidate_of_drop hunits
    cases hstart
    have hresult : (c.connect unit s.host).1 = .error cause := by rw [hconnect]
    refine Ends.behind (.refused i k unit cause htried hunit hresult) rfl ?_
    exact ih (tried_note_self s i (some (k + 1))) (congrArg Prod.snd hconnect) hrest

/-- A creation that nothing comes between is the one that provisioners run by themselves. -/
theorem ends_create (c : TunnelControl Host) (configs : ι → TunnelConfig) {i : ι}
    (hidle : s.tried i = none) :
    Ends c configs s i (c.create (configs i) s.host).1.1 (c.create (configs i) s.host).2 := by
  obtain ⟨claimed, hresult, htries⟩ := c.tries_create (configs i) s.host
  rw [hresult]
  refine Ends.behind (.begun i hidle) rfl ?_
  exact ends_of_tries (tried_note_self s i (some 0)) htries

/-! ## All of it -/

/-- A refused attempt changes nothing for anyone but the provisioner that made it. -/
theorem Settled.undisturbed (hc : c.Exclusive) (h : Settled c configs s) {i : ι} {unit : UInt32}
    (hturn : Turn c configs s (.refused i unit) after) :
    (∃ cause, (c.connect unit s.host).1 = .error cause) ∧ s.host.Unmoved after.host ∧
      after.handles = s.handles ∧ ∀ j, j ≠ i → after.tried j = s.tried j := by
  cases hturn with
  | refused i k unit cause htried hunit hconnect =>
    refine ⟨⟨cause, hconnect⟩, hc.attempts h.sound (Prod.ext hconnect rfl), rfl, ?_⟩
    exact fun j hj => tried_note_of_ne s _ hj

/-- A provisioner gives up once all its candidates were refused. -/
theorem refusals_of_gaveUp (hturns : Turns c configs (start host) log s) {i : ι} {e : Unavailable}
    (hturn : Turn c configs s (.gaveUp i e) after) : refusals i log = (configs i).candidates := by
  cases hturn with
  | gaveUp i k htried hnone =>
    rw [tallied_of_turns hturns i k htried]
    exact List.take_of_length_le (List.getElem?_eq_none_iff.mp hnone)

/-- However provisioners race, on either platform: no two live handles have the same unit or the
same name, and each has a descriptor bound to its unit, which lies in the range of the provisioner
that created it. A refused attempt changes nothing for anyone else. A provisioner gives up only once
it was refused all its candidates, each of them once. The turns are the program's own: a provisioner
that begins at any time, and that nothing comes between, ends as its creation does. -/
theorem exclusive_of_turns (configs : ι → TunnelConfig) (host : Host) (hsound : host.Sound) :
    ∀ c ∈ [Linux.control, MacOS.control], ∀ log s, Turns c configs (start host) log s →
      s.handles.Pairwise (fun p q => p.2.unit ≠ q.2.unit ∧ p.2.name ≠ q.2.name) ∧
      (∀ p ∈ s.handles, Holds c s.host p.2 ∧
        (configs p.1).firstUnit ≤ p.2.unit ∧ p.2.unit ≤ (configs p.1).lastUnit) ∧
      (∀ i unit after, Turn c configs s (.refused i unit) after →
        (∃ cause, (c.connect unit s.host).1 = .error cause) ∧ s.host.Unmoved after.host ∧
          after.handles = s.handles ∧ ∀ j, j ≠ i → after.tried j = s.tried j) ∧
      (∀ i e after, Turn c configs s (.gaveUp i e) after →
        refusals i log = (configs i).candidates ∧ (configs i).candidates.Nodup ∧
          (configs i).candidates.length =
            min (configs i).unitCount.toNat (UInt32.size - (configs i).firstUnit.toNat)) ∧
      ∀ i, s.tried i = none →
        Ends c configs s i (c.create (configs i) s.host).1.1 (c.create (configs i) s.host).2 := by
  intro c hmem log s hturns
  have hc : c.Exclusive := by
    rcases List.mem_cons.mp hmem with rfl | hmem
    · exact Linux.exclusive
    · rw [List.mem_singleton.mp hmem]
      exact MacOS.exclusive
  have hsettled : Settled c configs s := (settled_start hsound).turns hc hturns
  refine ⟨hsettled.distinct hc, ?_, ?_, ?_, fun i => ends_create c configs⟩
  · intro p hp
    exact ⟨hsettled.holds p hp, TunnelConfig.mem_candidates (hsettled.candidate p hp)⟩
  · intro i unit after hturn
    exact hsettled.undisturbed hc hturn
  · intro i e after hturn
    exact ⟨refusals_of_gaveUp hturns hturn, TunnelConfig.nodup_candidates _,
      TunnelConfig.length_candidates _⟩

/-- One provisioner claims the only candidate of another, which is refused and gives up. -/
theorem exclusive_of_turns_taken :
    let host : Host := { script := ({} : Refusals).script 5 }
    let configs (second : Bool) : TunnelConfig := if second then ⟨8, 1⟩ else ⟨8, 2⟩
    let c := MacOS.control
    let log : List (Act Bool) :=
      [.begun false, .begun true, .claimed false (handle c 8 0), .refused true 8]
    host.Sound ∧ ∃ s, Turns c configs (start host) log s ∧
      (∃ e after, Turn c configs s (.gaveUp true e) after) ∧
      refusals true log = (configs true).candidates := by
  intro host configs c log
  have hsound : host.Sound := ⟨nofun, nofun, nofun, nofun⟩
  have hbegun : Turns c configs (start host) [.begun false, .begun true] _ :=
    .concat (.concat .nil (.begun false rfl)) (.begun true rfl)
  have hclaimed := hbegun.concat (.claimed false 0 8 0 rfl rfl rfl)
  have hturns := hclaimed.concat (.refused true 0 8 (.os .busy) rfl rfl rfl)
  obtain ⟨-, -, -, hexhausted, -⟩ := exclusive_of_turns configs host hsound c
    (List.mem_cons_of_mem _ (List.mem_singleton_self _)) log _ hturns
  refine ⟨hsound, _, hturns, ⟨_, _, .gaveUp true 1 rfl rfl⟩, ?_⟩
  exact (hexhausted true _ _ (.gaveUp true 1 rfl rfl)).1

end Race

end PingTun
