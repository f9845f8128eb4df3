-- SUMMARY: What a handle keeps of the MTUs that are set through it, over any control, and what zero stands for.
import PingTun.CommandLine.Tunneling
import PingTun.Proofs.Tunnel.Candidates
import PingTun.Tunnel.Linux
import PingTun.Tunnel.Rehearsal

/-! # Settings

The MTU of a handle is asked for and set again and again, over a control whose answers may depend on
everything that it was asked before. A control that keeps what it is asked, beside its own state,
tells what it answered to which access. The handle is configured with what was accepted last, and
what fails leaves the handle as it was.

Zero stands for a failure. As it is accepted like any other MTU where the control does not refuse it,
it can stand for a success as well.
-/

namespace PingTun

/-! ## Queries -/

/-- A question to a control, or an order, with the answer. -/
inductive Query
  | connect (unit : UInt32) (answer : Except IoError Descriptor)
  | getMtu (descriptor : Descriptor) (name : String) (answer : Except IoError UInt32)
  | setMtu (descriptor : Descriptor) (name : String) (mtu : UInt32) (answer : Except IoError Unit)
  | close (descriptor : Descriptor)

namespace Query

def Granted : Query → Prop
  | .connect _ answer => answer.isOk
  | .getMtu _ _ answer => answer.isOk
  | .setMtu _ _ _ answer => answer.isOk
  | .close _ => True

/-- The MTU that was to be set, if this was accepted. -/
def accepted? : Query → Option UInt32
  | .setMtu _ _ mtu (.ok ()) => some mtu
  | _ => none

end Query

/-! ## Accesses -/

/-- What is done with the MTU of a handle: it is asked for, or it is set. -/
inductive Access
  | ask
  | set (mtu : UInt32)
deriving DecidableEq

/-- An access with all that comes of it: what the control was asked, what is answered to the caller,
the handle from then on, and what is logged. -/
structure Exchange where
  access : Access
  before : TunnelHandle
  queries : List Query
  result : UInt32
  after : TunnelHandle
  events : List Event

/-- An access fails if the control refuses it, or is not even asked. -/
def Exchange.Failed (e : Exchange) : Prop := ∀ query ∈ e.queries, ¬ query.Granted

namespace TunnelControl

variable {σ : Type}

/-- A handle that a creation gave, or one of no interface. -/
def Issued (c : TunnelControl σ) (handle : TunnelHandle) : Prop :=
  (∃ config s, (c.create config s).1.1 = .ok handle) ∨ handle = .invalid

/-- Access the MTU of a handle. -/
def access (c : TunnelControl σ) (handle : TunnelHandle) :
    Access → StateM σ (UInt32 × TunnelHandle × List Event)
  | .ask => do
    let (mtu, events) ← c.mtuOf handle
    return (mtu, handle, events)
  | .set mtu => c.assignMtu handle mtu

/-- One access after the other, each through the handle that the one before has left. -/
def accessAll (c : TunnelControl σ) (handle : TunnelHandle) : List Access → StateM σ TunnelHandle
  | [] => return handle
  | access :: accesses => do
    let (_, handle, _) ← c.access handle access
    c.accessAll handle accesses

/-! ## Records -/

/-- An action that is kept as a query. -/
def kept {α : Type} (query : α → Query) (action : StateM σ α) : StateM (σ × List Query) α := fun s =>
  let (answer, after) := action s.1
  (answer, (after, s.2 ++ [query answer]))

/-- The control with a record of all that it is asked, in order. -/
def recorded (c : TunnelControl σ) : TunnelControl (σ × List Query) where
  connect unit := kept (.connect unit) (c.connect unit)
  interfaceName := c.interfaceName
  getMtu descriptor name := kept (.getMtu descriptor name) (c.getMtu descriptor name)
  setMtu descriptor name mtu := kept (.setMtu descriptor name mtu) (c.setMtu descriptor name mtu)
  close descriptor := kept (fun _ => .close descriptor) (c.close descriptor)

/-- What the control is asked in an access. -/
def queries (c : TunnelControl σ) (handle : TunnelHandle) (access : Access) (s : σ) : List Query :=
  (c.recorded.access handle access (s, [])).2.2

/-- Accesses in a row, with all that comes of each. -/
def exchanges (c : TunnelControl σ) (handle : TunnelHandle) : List Access → σ → List Exchange
  | [], _ => []
  | access :: accesses, s =>
    let ((result, after, events), s') := c.access handle access s
    ⟨access, handle, c.queries handle access s, result, after, events⟩ ::
      c.exchanges after accesses s'

end TunnelControl

/-! ## One access -/

/-- The handle when an MTU has been set through it, if one has. -/
def TunnelHandle.configure (handle : TunnelHandle) (mtu : Option UInt32) : TunnelHandle :=
  { handle with configuredMtu := mtu.or handle.configuredMtu }

theorem TunnelHandle.configure_configure (handle : TunnelHandle) (mtu later : Option UInt32) :
    (handle.configure mtu).configure later = handle.configure (later.or mtu) := by
  simp only [configure, Option.or_assoc]

/-- What an access to the MTU of a handle comes to. -/
inductive Accessed (handle : TunnelHandle) :
    Access → List Query → UInt32 × TunnelHandle × List Event → Prop
  | unasked : handle.descriptor = none →
    Accessed handle .ask [] (0, handle, [.mtuUnknown handle.name])
  | unset (mtu : UInt32) : handle.descriptor = none →
    Accessed handle (.set mtu) [] (0, handle, [.mtuRefused handle.name mtu])
  | told (descriptor : Descriptor) (mtu : UInt32) : handle.descriptor = some descriptor →
    Accessed handle .ask [.getMtu descriptor handle.name (.ok mtu)] (mtu, handle, [])
  | unknown (descriptor : Descriptor) (cause : IoError) : handle.descriptor = some descriptor →
    Accessed handle .ask [.getMtu descriptor handle.name (.error cause)]
      (0, handle, [.mtuUnknown handle.name])
  | accepted (descriptor : Descriptor) (mtu : UInt32) : handle.descriptor = some descriptor →
    Accessed handle (.set mtu) [.setMtu descriptor handle.name mtu (.ok ())]
      (mtu, { handle with configuredMtu := some mtu }, [])
  | refused (descriptor : Descriptor) (mtu : UInt32) (cause : IoError) :
    handle.descriptor = some descriptor →
    Accessed handle (.set mtu) [.setMtu descriptor handle.name mtu (.error cause)]
      (0, handle, [.mtuRefused handle.name mtu])

/-- What comes of an answer to the question for the MTU of a handle. -/
def TunnelHandle.told (handle : TunnelHandle) :
    Except IoError UInt32 → UInt32 × TunnelHandle × List Event
  | .ok mtu => (mtu, handle, [])
  | .error _ => (0, handle, [.mtuUnknown handle.name])

/-- What comes of an answer to the order to set the MTU of a handle. -/
def TunnelHandle.assigned (handle : TunnelHandle) (mtu : UInt32) :
    Except IoError Unit → UInt32 × TunnelHandle × List Event
  | .ok () => (mtu, { handle with configuredMtu := some mtu }, [])
  | .error _ => (0, handle, [.mtuRefused handle.name mtu])

namespace TunnelControl

variable {σ : Type} {c : TunnelControl σ} {handle : TunnelHandle} {descriptor : Descriptor}
  {s after : σ}

section

variable (hdescriptor : handle.descriptor = some descriptor)
include hdescriptor

theorem access_ask {answer : Except IoError UInt32}
    (hanswer : c.getMtu descriptor handle.name s = (answer, after)) :
    c.access handle .ask s = (handle.told answer, after) := by
  have hgiven : handle.descriptor? = .ok descriptor := by
    rw [TunnelHandle.descriptor?, hdescriptor]
  simp only [access, mtuOf, hgiven, bind, StateT.bind, hanswer]
  cases answer <;> rfl

theorem access_set {answer : Except IoError Unit} {mtu : UInt32}
    (hanswer : c.setMtu descriptor handle.name mtu s = (answer, after)) :
    c.access handle (.set mtu) s = (handle.assigned mtu answer, after) := by
  have hgiven : handle.descriptor? = .ok descriptor := by
    rw [TunnelHandle.descriptor?, hdescriptor]
  simp only [access, assignMtu, hgiven]
  rw [Host.bind_of_eq hanswer]
  cases answer <;> rfl

theorem queries_ask (c : TunnelControl σ) (s : σ) : c.queries handle .ask s =
    [.getMtu descriptor handle.name (c.getMtu descriptor handle.name s).1] := by
  rw [queries, access_ask hdescriptor rfl]
  rfl

theorem queries_set (c : TunnelControl σ) (mtu : UInt32) (s : σ) :
    c.queries handle (.set mtu) s =
      [.setMtu descriptor handle.name mtu (c.setMtu descriptor handle.name mtu s).1] := by
  rw [queries, access_set hdescriptor rfl]
  rfl

end

/-- An access to a handle of no interface fails before the control is asked. -/
theorem access_of_none (hnone : handle.descriptor = none) (access : Access) (s : σ) :
    c.access handle access s = ((0, handle, match access with
      | .ask => [.mtuUnknown handle.name]
      | .set mtu => [.mtuRefused handle.name mtu]), s) := by
  cases access with
  | ask =>
    simp only [TunnelControl.access, mtuOf, TunnelHandle.descriptor?, hnone]
    rfl
  | set mtu =>
    simp only [TunnelControl.access, assignMtu, TunnelHandle.descriptor?, hnone]
    rfl

/-- Over the control that keeps a record an access comes to the same, and its queries are kept
behind those before. -/
theorem access_recorded (c : TunnelControl σ) (handle : TunnelHandle) (access : Access) (s : σ)
    (log : List Query) :
    c.recorded.access handle access (s, log) =
        ((c.access handle access s).1,
          ((c.access handle access s).2, log ++ c.queries handle access s)) ∧
      Accessed handle access (c.queries handle access s) (c.access handle access s).1 := by
  cases hdescriptor : handle.descriptor with
  | none =>
    have hqueries : c.queries handle access s = [] := by
      rw [queries, access_of_none hdescriptor]
    rw [access_of_none hdescriptor, access_of_none hdescriptor, hqueries, List.append_nil]
    refine ⟨rfl, ?_⟩
    cases access with
    | ask => exact .unasked hdescriptor
    | set mtu => exact .unset mtu hdescriptor
  | some descriptor =>
    cases access with
    | ask =>
      cases hanswer : c.getMtu descriptor handle.name s with
      | mk answer after =>
        have hrecorded (log : List Query) : c.recorded.getMtu descriptor handle.name (s, log) =
            (answer, (after, log ++ [.getMtu descriptor handle.name answer])) := by
          simp only [recorded, kept, hanswer]
        have hqueries : c.queries handle .ask s = [.getMtu descriptor handle.name answer] := by
          rw [queries_ask hdescriptor, hanswer]
        rw [access_ask hdescriptor (hrecorded log), access_ask hdescriptor hanswer, hqueries]
        refine ⟨rfl, ?_⟩
        cases answer with
        | ok mtu => exact .told descriptor mtu hdescriptor
        | error cause => exact .unknown descriptor cause hdescriptor
    | set mtu =>
      cases hanswer : c.setMtu descriptor handle.name mtu s with
      | mk answer after =>
        have hrecorded (log : List Query) : c.recorded.setMtu descriptor handle.name mtu (s, log) =
            (answer, (after, log ++ [.setMtu descriptor handle.name mtu answer])) := by
          simp only [recorded, kept, hanswer]
        have hqueries : c.queries handle (.set mtu) s =
            [.setMtu descriptor handle.name mtu answer] := by
          rw [queries_set hdescriptor, hanswer]
        rw [access_set hdescriptor (hrecorded log), access_set hdescriptor hanswer, hqueries]
        refine ⟨rfl, ?_⟩
        cases answer with
        | ok _ => exact .accepted descriptor mtu hdescriptor
        | error cause => exact .refused descriptor mtu cause hdescriptor

theorem accessed (c : TunnelControl σ) (handle : TunnelHandle) (access : Access) (s : σ) :
    Accessed handle access (c.queries handle access s) (c.access handle access s).1 :=
  (c.access_recorded handle access s []).2

end TunnelControl

namespace Accessed

variable {handle after : TunnelHandle} {access : Access} {queries : List Query} {result : UInt32}
  {events : List Event}

/-- Nothing of a handle changes but the MTU that it is configured with, and that only if it is
accepted. -/
theorem after_eq (h : Accessed handle access queries (result, after, events)) :
    after = handle.configure (queries.filterMap Query.accepted?).getLast? := by
  cases h <;> rfl

/-- Without a success of the control the access fails: zero is answered, the handle stays as it is,
and there is one warning. -/
theorem of_failed (h : Accessed handle access queries (result, after, events))
    (hfailed : ∀ query ∈ queries, ¬ query.Granted) :
    result = 0 ∧ after = handle ∧ ∃ event, events = [event] ∧ event.level = .warn := by
  cases h with
  | unasked => exact ⟨rfl, rfl, _, rfl, rfl⟩
  | unset => exact ⟨rfl, rfl, _, rfl, rfl⟩
  | told => exact absurd rfl (hfailed _ List.mem_cons_self)
  | unknown => exact ⟨rfl, rfl, _, rfl, rfl⟩
  | accepted => exact absurd rfl (hfailed _ List.mem_cons_self)
  | refused => exact ⟨rfl, rfl, _, rfl, rfl⟩

theorem after_of_ask (h : Accessed handle .ask queries (result, after, events)) :
    after = handle := by
  cases h <;> rfl

/-- An MTU that is set is answered if it is accepted, and zero is answered if it is not. -/
theorem of_set {mtu : UInt32} (h : Accessed handle (.set mtu) queries (result, after, events)) :
    (∀ query ∈ queries, ¬ query.Granted) ∧ queries.filterMap Query.accepted? = [] ∧ result = 0 ∨
      (¬ ∀ query ∈ queries, ¬ query.Granted) ∧ queries.filterMap Query.accepted? = [mtu] ∧
        result = mtu := by
  cases h with
  | unset => exact .inl ⟨List.forall_mem_nil _, rfl, rfl⟩
  | accepted => exact .inr ⟨fun hfailed => hfailed _ List.mem_cons_self rfl, rfl, rfl⟩
  | refused =>
    refine .inl ⟨List.forall_mem_singleton.mpr fun hgranted => ?_, rfl, rfl⟩
    cases hgranted

theorem queries_of_none (h : Accessed handle access queries (result, after, events))
    (hnone : handle.descriptor = none) : queries = [] := by
  cases h with
  | unasked => rfl
  | unset => rfl
  | told descriptor _ hsome => cases hnone.symm.trans hsome
  | unknown descriptor _ hsome => cases hnone.symm.trans hsome
  | accepted descriptor _ hsome => cases hnone.symm.trans hsome
  | refused descriptor _ _ hsome => cases hnone.symm.trans hsome

end Accessed

/-! ## Accesses in a row -/

namespace TunnelControl

variable {σ : Type} {c : TunnelControl σ} {handle : TunnelHandle} {accesses : List Access} {s : σ}
  {e : Exchange}

theorem accessAll_cons (c : TunnelControl σ) (handle : TunnelHandle) (access : Access)
    (accesses : List Access) (s : σ) :
    let first := c.access handle access s
    c.accessAll handle (access :: accesses) s = c.accessAll first.1.2.1 accesses first.2 := rfl

theorem exchanges_cons (c : TunnelControl σ) (handle : TunnelHandle) (access : Access)
    (accesses : List Access) (s : σ) :
    let first := c.access handle access s
    c.exchanges handle (access :: accesses) s =
      ⟨access, handle, c.queries handle access s, first.1.1, first.1.2.1, first.1.2.2⟩ ::
        c.exchanges first.1.2.1 accesses first.2 := rfl

/-- Over the control that keeps a record, too, the accesses come to the same, and nothing is asked
but in them. -/
theorem accessAll_recorded (c : TunnelControl σ) (handle : TunnelHandle) (accesses : List Access)
    (s : σ) (log : List Query) :
    c.recorded.accessAll handle accesses (s, log) =
      ((c.accessAll handle accesses s).1, ((c.accessAll handle accesses s).2,
        log ++ (c.exchanges handle accesses s).flatMap (·.queries))) := by
  induction accesses generalizing handle s log with
  | nil =>
    rw [exchanges, List.flatMap_nil, List.append_nil]
    rfl
  | cons access accesses ih =>
    obtain ⟨hrecorded, -⟩ := c.access_recorded handle access s log
    rw [accessAll_cons, hrecorded, ih, accessAll_cons, exchanges_cons, List.flatMap_cons,
      List.append_assoc]

theorem access_of_exchanges (c : TunnelControl σ) (handle : TunnelHandle) (accesses : List Access)
    (s : σ) : (c.exchanges handle accesses s).map (·.access) = accesses := by
  induction accesses generalizing handle s with
  | nil => rfl
  | cons access accesses ih => rw [exchanges_cons, List.map_cons, ih]

theorem accessed_of_mem (he : e ∈ c.exchanges handle accesses s) :
    Accessed e.before e.access e.queries (e.result, e.after, e.events) := by
  induction accesses generalizing handle s with
  | nil => cases he
  | cons access accesses ih =>
    rw [exchanges_cons] at he
    rcases List.mem_cons.mp he with rfl | hlater
    · exact c.accessed handle access s
    · exact ih hlater

/-- Behind any accesses the handle is configured with the MTU that was accepted last, and has not
changed in any other way. -/
theorem accessAll_eq (c : TunnelControl σ) (handle : TunnelHandle) (accesses : List Access)
    (s : σ) :
    let queries := (c.exchanges handle accesses s).flatMap (·.queries)
    (c.accessAll handle accesses s).1 =
      handle.configure (queries.filterMap Query.accepted?).getLast? := by
  induction accesses generalizing handle s with
  | nil => rfl
  | cons access accesses ih =>
    have hfirst := (c.accessed handle access s).after_eq
    have hlater := ih (c.access handle access s).1.2.1 (c.access handle access s).2
    simp only [accessAll_cons, exchanges_cons, List.flatMap_cons, List.filterMap_append,
      List.getLast?_append, hlater]
    rw [hfirst, TunnelHandle.configure_configure]

/-- A handle of no interface stays as it is, the control is not asked, and all that is answered is
zero. -/
theorem accessAll_of_none (hnone : handle.descriptor = none) (accesses : List Access) (s : σ) :
    c.accessAll handle accesses s = (handle, s) ∧
      ∀ e ∈ c.exchanges handle accesses s, e.queries = [] ∧ e.result = 0 ∧ e.after = handle := by
  induction accesses with
  | nil => exact ⟨rfl, List.forall_mem_nil _⟩
  | cons access accesses ih =>
    obtain ⟨hlast, hexchanges⟩ := ih
    have haccess := access_of_none (c := c) hnone access s
    have hqueries := (c.accessed handle access s).queries_of_none hnone
    rw [accessAll_cons, exchanges_cons, haccess]
    exact ⟨hlast, List.forall_mem_cons.mpr ⟨⟨hqueries, rfl, rfl⟩, hexchanges⟩⟩

/-- Whatever is done with the MTU of a handle, in any order, and whatever the control answers: the
handle is configured with the MTU that the control accepted last, with none if there is none, and
has not changed in any other way. To ask for the MTU, and what fails, leaves the handle as it is.
What fails is answered by zero, and there is one warning. Of a handle of no interface the control
is never asked. -/
theorem configured_of_accesses (c : TunnelControl σ) {handle : TunnelHandle}
    (hissued : c.Issued handle) (accesses : List Access) (s : σ) :
    let exchanges := c.exchanges handle accesses s
    let queries := exchanges.flatMap (·.queries)
    let last := c.accessAll handle accesses s
    c.recorded.accessAll handle accesses (s, []) = (last.1, (last.2, queries)) ∧
      exchanges.map (·.access) = accesses ∧
      last.1 = { handle with configuredMtu := (queries.filterMap Query.accepted?).getLast? } ∧
      (∀ e ∈ exchanges,
        (e.access = .ask ∨ e.Failed → e.after = e.before) ∧
        (e.Failed → e.result = 0 ∧ ∃ event, e.events = [event] ∧ event.level = .warn)) ∧
      (handle = .invalid → queries = [] ∧ last = (.invalid, s) ∧
        ∀ e ∈ exchanges, e.result = 0 ∧ e.after.configuredMtu = none) := by
  intro exchanges queries last
  have hunset : handle.configuredMtu = none := by
    rcases hissued with ⟨config, start, hcreate⟩ | rfl
    · obtain ⟨_, descriptor, _, -, hgiven⟩ := connect_of_create hcreate
      rw [hgiven]
    · rfl
  refine ⟨c.accessAll_recorded handle accesses s [], c.access_of_exchanges handle accesses s,
    ?_, ?_, ?_⟩
  · have hlast : last.1 = _ := c.accessAll_eq handle accesses s
    rw [hlast, TunnelHandle.configure, hunset, Option.or_none]
  · intro e he
    have haccessed := accessed_of_mem he
    constructor
    · rintro (hask | hfailed)
      · rw [hask] at haccessed
        exact haccessed.after_of_ask
      · exact (haccessed.of_failed hfailed).2.1
    · intro hfailed
      obtain ⟨hzero, -, hwarning⟩ := haccessed.of_failed hfailed
      exact ⟨hzero, hwarning⟩
  · rintro rfl
    have hnone : TunnelHandle.invalid.descriptor = none := rfl
    obtain ⟨hlast, hexchanges⟩ := accessAll_of_none (c := c) hnone accesses s
    refine ⟨List.flatMap_eq_nil_iff.mpr fun e he => (hexchanges e he).1, hlast, fun e he => ?_⟩
    obtain ⟨-, hzero, hafter⟩ := hexchanges e he
    exact ⟨hzero, by rw [hafter]; rfl⟩

/-- An MTU that the kernel's word does not hold is refused. The one that was accepted before it
stays. -/
theorem configured_of_accesses_refused :
    let host : Host := { script := ({} : Refusals).script 5 }
    let handle : TunnelHandle := ⟨some 0, 8, "tun8", none⟩
    let after := (Linux.control.create ⟨8, 1⟩ host).2
    Linux.control.Issued handle ∧
      (Linux.control.accessAll handle [.set 1400, .set 4294967295, .ask] after).1 =
        { handle with configuredMtu := some 1400 } := by
  intro host handle after
  have hissued : Linux.control.Issued handle := .inl ⟨⟨8, 1⟩, host, by decide +kernel⟩
  obtain ⟨-, -, hlast, -⟩ := configured_of_accesses Linux.control hissued
    [.set 1400, .set 4294967295, .ask] after
  refine ⟨hissued, hlast.trans ?_⟩
  have haccepted : ((Linux.control.exchanges handle [.set 1400, .set 4294967295, .ask]
      after).flatMap (·.queries)).filterMap Query.accepted? = [1400] := by decide +kernel
  rw [haccepted]
  rfl

/-! ## Zeros -/

/-- If no zero is set, the MTUs that are accepted are what is answered but for zeros. -/
theorem answered_eq {mtus : List UInt32} (hzero : 0 ∉ mtus) (handle : TunnelHandle) (s : σ) :
    let settings := c.exchanges handle (mtus.map .set) s
    (settings.map (·.result)).filter (· ≠ 0) =
      (settings.flatMap (·.queries)).filterMap Query.accepted? := by
  induction mtus generalizing handle s with
  | nil => rfl
  | cons mtu mtus ih =>
    obtain ⟨hne, hlater⟩ := not_or.mp (mt List.mem_cons.mpr hzero)
    simp only [List.map_cons, exchanges_cons, List.flatMap_cons, List.filterMap_append]
    rw [← ih hlater]
    rcases (c.accessed handle (.set mtu) s).of_set with ⟨-, hqueries, hresult⟩ |
      ⟨-, hqueries, hresult⟩
    · rw [hqueries, hresult]
      exact List.filter_cons_of_neg (by decide)
    · rw [hqueries, hresult]
      exact List.filter_cons_of_pos (by simpa using Ne.symm hne)

/-- The command gives up exactly if zero is answered when it sets the MTU. -/
theorem describe_eq_failure_iff (c : TunnelControl σ) (handle : TunnelHandle) (mtu : UInt32)
    (s : σ) :
    (CommandLine.describe c handle (some mtu) s).1.2 =
        .failure ("failed to set mtu " ++ Numeral.text mtu.toNat ++ " on " ++ handle.name) ↔
      (c.access handle (.set mtu) s).1.1 = 0 := by
  have haccessed := c.accessed handle (.set mtu) s
  simp only [access] at haccessed ⊢
  cases hset : c.assignMtu handle mtu s with
  | mk answer s' =>
    obtain ⟨result, after, events⟩ := answer
    rw [hset] at haccessed
    have hname : after.name = handle.name := by rw [haccessed.after_eq, TunnelHandle.configure]
    simp only [CommandLine.describe, bind, StateT.bind, hset]
    by_cases hzero : result = 0
    · subst hzero
      simp only [← hname]
      exact iff_of_true rfl trivial
    · simp only [if_neg hzero]
      refine iff_of_false (fun heq => ?_) hzero
      cases congrArg CommandLine.Outcome.exitCode heq

/-- The command that holds a handle describes the one that it has created. -/
theorem tun_of_create {config : TunnelConfig} {start : σ} {events : List Event}
    (hcreate : c.create config start = ((.ok handle, events), s)) (mtu : Option UInt32) :
    (CommandLine.tun c config mtu start).1 = (CommandLine.describe c handle mtu s).1.2 := by
  unfold CommandLine.tun
  rw [Host.bind_of_eq hcreate]
  rfl

/-- When MTUs are set, zero is answered exactly if the control refuses, which leaves the handle as it
was, or if the MTU is zero, which the handle is configured with if the control accepts it. If no
zero is set, zero always stands for a failure, and the handle is configured with the last answer
that is not zero. The command gives up exactly if the MTU was not set, or if it is zero. -/
theorem zero_of_settings (c : TunnelControl σ) (handle : TunnelHandle) (mtus : List UInt32)
    (s : σ) :
    let settings := c.exchanges handle (mtus.map .set) s
    let answered := (settings.map (·.result)).filter (· ≠ 0)
    (∀ e ∈ settings, e.result = 0 ↔ e.Failed ∧ e.after = e.before ∨ e.access = .set 0) ∧
      (∀ e ∈ settings, e.access = .set 0 → ¬ e.Failed → e.after.configuredMtu = some 0) ∧
      (0 ∉ mtus → (∀ e ∈ settings, e.result = 0 ↔ e.Failed ∧ e.after = e.before) ∧
        (c.accessAll handle (mtus.map .set) s).1.configuredMtu =
          answered.getLast?.or handle.configuredMtu) ∧
      ∀ config start events mtu, c.create config start = ((.ok handle, events), s) →
        ((CommandLine.tun c config (some mtu) start).1 =
            .failure ("failed to set mtu " ++ Numeral.text mtu.toNat ++ " on " ++ handle.name) ↔
          mtu ∉ (c.queries handle (.set mtu) s).filterMap Query.accepted? ∨ mtu = 0) := by
  intro settings answered
  have hset {e : Exchange} (he : e ∈ settings) : ∃ mtu ∈ mtus, e.access = .set mtu ∧
      Accessed e.before (.set mtu) e.queries (e.result, e.after, e.events) := by
    have haccess : e.access ∈ settings.map (·.access) := List.mem_map_of_mem he
    rw [c.access_of_exchanges] at haccess
    obtain ⟨mtu, hmem, heq⟩ := List.mem_map.mp haccess
    exact ⟨mtu, hmem, heq.symm, heq ▸ accessed_of_mem he⟩
  have hresult (e : Exchange) (he : e ∈ settings) :
      e.result = 0 ↔ e.Failed ∧ e.after = e.before ∨ e.access = .set 0 := by
    obtain ⟨mtu, -, haccess, haccessed⟩ := hset he
    rw [haccess]
    rcases haccessed.of_set with ⟨hfailed, -, hzero⟩ | ⟨hgranted, -, hmtu⟩
    · exact iff_of_true hzero (.inl ⟨hfailed, (haccessed.of_failed hfailed).2.1⟩)
    · rw [hmtu, Access.set.injEq]
      exact (or_iff_right fun hboth => hgranted hboth.1).symm
  refine ⟨hresult, fun e he hzero hgranted => ?_, fun hnone => ⟨fun e he => ?_, ?_⟩, ?_⟩
  · obtain ⟨mtu, -, haccess, haccessed⟩ := hset he
    cases haccess.symm.trans hzero
    rcases haccessed.of_set with ⟨hfailed, -, -⟩ | ⟨-, haccepted, -⟩
    · exact absurd hfailed hgranted
    · rw [haccessed.after_eq, haccepted]
      rfl
  · obtain ⟨mtu, hmem, haccess, -⟩ := hset he
    rw [hresult e he, haccess, Access.set.injEq]
    exact or_iff_left fun hzero => hnone (hzero ▸ hmem)
  · have hlast := c.accessAll_eq handle (mtus.map .set) s
    rw [hlast, ← answered_eq hnone]
    rfl
  · intro config start events mtu hcreate
    rw [tun_of_create hcreate, describe_eq_failure_iff]
    rcases (c.accessed handle (.set mtu) s).of_set with ⟨-, hqueries, hzero⟩ |
      ⟨-, hqueries, hmtu⟩
    · rw [hqueries]
      exact iff_of_true hzero (.inl (List.not_mem_nil))
    · rw [hqueries, hmtu, or_iff_right (fun hnot => hnot List.mem_cons_self)]

/-- No zero is set, and one of two MTUs is refused. -/
theorem zero_of_settings_refused :
    let host : Host := { script := ({} : Refusals).script 5 }
    let handle : TunnelHandle := ⟨some 0, 8, "tun8", none⟩
    let after := (Linux.control.create ⟨8, 1⟩ host).2
    let mtus : List UInt32 := [1400, 4294967295]
    0 ∉ mtus ∧
      (Linux.control.accessAll handle (mtus.map .set) after).1.configuredMtu = some 1400 ∧
      Linux.control.create ⟨8, 1⟩ host = ((.ok handle, [.tunnelOpened 8 "tun8"]), after) ∧
      (CommandLine.tun Linux.control ⟨8, 1⟩ (some 4294967295) host).1 =
        .failure "failed to set mtu 4294967295 on tun8" := by
  intro host handle after mtus
  have hanswer : (Linux.control.create ⟨8, 1⟩ host).1 = (.ok handle, [.tunnelOpened 8 "tun8"]) := by
    decide +kernel
  have hcreate : Linux.control.create ⟨8, 1⟩ host = (_, after) := Prod.ext hanswer rfl
  obtain ⟨-, -, hnone, htun⟩ := zero_of_settings Linux.control handle mtus after
  have hnonzero : 0 ∉ mtus := by decide
  have hanswered : ((Linux.control.exchanges handle (mtus.map .set) after).map
      (·.result)).filter (· ≠ 0) = [1400] := by decide +kernel
  refine ⟨hnonzero, ?_, hcreate, ?_⟩
  · rw [(hnone hnonzero).2, hanswered]
    rfl
  · exact (htun ⟨8, 1⟩ host _ 4294967295 hcreate).mpr (.inl (by decide +kernel))

/-- Where a zero is accepted, its success is answered by zero: the handle is configured with it, and
still the command gives up. -/
theorem zero_accepted :
    let handle : TunnelHandle := ⟨some 0, 8, "fake8", none⟩
    let created := Rehearsal.control.create {} {}
    let run := CommandLine.tun Rehearsal.control {} (some 0) {}
    created.1.1 = .ok handle ∧
      (∃ e, Rehearsal.control.exchanges handle [.set 0] created.2 = [e] ∧
        e.result = 0 ∧ ¬ e.Failed ∧ e.after = { handle with configuredMtu := some 0 }) ∧
      run.1 = .failure "failed to set mtu 0 on fake8" ∧ run.2.mtus "fake8" = 0 := by
  intro handle created run
  have hcreated : created.1.1 = .ok handle := by decide +kernel
  refine ⟨hcreated, ⟨_, rfl, rfl, fun hfailed => ?_, rfl⟩, by decide +kernel, by decide +kernel⟩
  exact hfailed _ List.mem_cons_self rfl

end TunnelControl

end PingTun
