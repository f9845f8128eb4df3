-- SUMMARY: Which units are tried for a handle, what comes of that, and which range is reported.
import PingTun.Proofs.Tunnel.Candidates
import PingTun.Tunnel.Rehearsal

/-! # Attempts

A control that is watched keeps, beside its own state, which units it was asked to connect and what
it answered. To watch it changes nothing, so what was kept tells how a handle is created over any
control, however its answers depend on what it was asked before.
-/

namespace PingTun

/-- A unit that a control was asked to connect, and its answer. -/
structure Attempt where
  unit : UInt32
  answer : Except IoError Descriptor

namespace Attempt

def Refused (a : Attempt) : Prop := ∃ cause, a.answer = .error cause

/-- The event of an attempt that is refused. -/
def event (a : Attempt) : Event := .unitUnavailable a.unit

end Attempt

namespace TunnelControl

variable {σ : Type}

/-! ## Watched controls -/

/-- An action that no attempt is made in. -/
def unattempted {α : Type} (action : StateM σ α) : StateM (σ × List Attempt) α := fun s =>
  let (answer, after) := action s.1
  (answer, (after, s.2))

/-- The control with a record of all attempts, in order. -/
def watched (c : TunnelControl σ) : TunnelControl (σ × List Attempt) where
  connect unit := fun s =>
    let (answer, after) := c.connect unit s.1
    (answer, (after, s.2 ++ [⟨unit, answer⟩]))
  interfaceName := c.interfaceName
  getMtu descriptor name := unattempted (c.getMtu descriptor name)
  setMtu descriptor name mtu := unattempted (c.setMtu descriptor name mtu)
  close descriptor := unattempted (c.close descriptor)

/-- The attempts that are made in creating a handle. -/
def attempts (c : TunnelControl σ) (config : TunnelConfig) (s : σ) : List Attempt :=
  (c.watched.create config (s, [])).2.2

variable {c : TunnelControl σ} {config : TunnelConfig} {unit : UInt32} {k count : Nat}
  {s after : σ}

theorem connect_watched {answer : Except IoError Descriptor}
    (h : c.connect unit s = (answer, after)) (log : List Attempt) :
    c.watched.connect unit (s, log) = (answer, (after, log ++ [⟨unit, answer⟩])) := by
  simp only [watched, h]

/-- Every attempt is answered as the control answers to its unit on some state. -/
theorem answer_of_mem_attempts {a : Attempt} (ha : a ∈ c.attempts config s) :
    ∃ before, a.answer = (c.connect a.unit before).1 := by
  obtain ⟨claimed, -, htries⟩ := c.watched.tries_create config (s, [])
  -- An attempt is put into the record with its answer, and nothing in the record changes later.
  have hall := htries.preserves
    (P := fun t => ∀ a ∈ t.2, ∃ before, a.answer = (c.connect a.unit before).1)
    (fun unit t ht => List.forall_mem_append.mpr
      ⟨ht, List.forall_mem_singleton.mpr ⟨t.1, rfl⟩⟩) (List.forall_mem_nil _)
  exact hall a ha

/-! ## Claiming -/

/-- How attempts at units in order end: all units were refused, or the last that was tried was not,
and is claimed. -/
inductive Ended (c : TunnelControl σ) :
    List UInt32 → List Attempt → Option TunnelHandle → List Event → Prop
  | exhausted (refusals : List Attempt) : (∀ a ∈ refusals, a.Refused) →
    Ended c (refusals.map (·.unit)) refusals none (refusals.map Attempt.event)
  | claimed (refusals : List Attempt) (unit : UInt32) (descriptor : Descriptor)
    (untried : List UInt32) : (∀ a ∈ refusals, a.Refused) →
    Ended c (refusals.map (·.unit) ++ unit :: untried) (refusals ++ [⟨unit, .ok descriptor⟩])
      (some ⟨some descriptor, unit, c.interfaceName unit, none⟩)
      (refusals.map Attempt.event ++ [.tunnelOpened unit (c.interfaceName unit)])

variable {units : List UInt32} {attempts : List Attempt} {claimed : Option TunnelHandle}
  {events : List Event}

theorem Ended.cons {a : Attempt} (ha : a.Refused) (h : Ended c units attempts claimed events) :
    Ended c (a.unit :: units) (a :: attempts) claimed (a.event :: events) := by
  cases h with
  | exhausted _ hrefusals =>
    exact .exhausted (a :: attempts) (List.forall_mem_cons.mpr ⟨ha, hrefusals⟩)
  | claimed refusals unit descriptor untried hrefusals =>
    have hall := List.forall_mem_cons.mpr ⟨ha, hrefusals⟩
    exact .claimed (a :: refusals) unit descriptor untried hall

theorem Ended.units_prefix (h : Ended c units attempts claimed events) :
    attempts.map (·.unit) <+: units := by
  cases h with
  | exhausted => exact List.prefix_rfl
  | claimed refusals unit descriptor untried hrefusals =>
    rw [List.map_append]
    exact (List.prefix_append_right_inj _).mpr (List.prefix_append [unit] untried)

/-- What is recorded of claiming one of the candidates from a place on. Over the control itself it
comes to the same. -/
theorem claim_watched (c : TunnelControl σ) (s : σ) (hcount : k + count = config.unitCount.toNat)
    (log : List Attempt) :
    ∃ attempts,
      c.watched.claim config.firstUnit count k (s, log) =
        ((c.claim config.firstUnit count k s).1,
          ((c.claim config.firstUnit count k s).2, log ++ attempts)) ∧
      Ended c (config.candidates.drop k) attempts (c.claim config.firstUnit count k s).1.1
        (c.claim config.firstUnit count k s).1.2 := by
  induction count generalizing k s log with
  | zero =>
    have hnone : config.candidates.drop k = [] := by
      rw [List.drop_eq_nil_iff, TunnelConfig.length_candidates]
      omega
    refine ⟨[], by rw [List.append_nil]; rfl, ?_⟩
    rw [hnone]
    exact .exhausted [] (List.forall_mem_nil _)
  | succ count ih =>
    cases hunit : config.candidates[k]? with
    | none =>
      rw [claim_of_none hcount hunit, claim_of_none hcount hunit,
        List.drop_eq_nil_iff.mpr (List.getElem?_eq_none_iff.mp hunit)]
      exact ⟨[], by rw [List.append_nil], .exhausted [] (List.forall_mem_nil _)⟩
    | some unit =>
      obtain ⟨hlt, hget⟩ := List.getElem?_eq_some_iff.mp hunit
      rw [List.drop_eq_getElem_cons hlt, hget]
      cases hconnect : c.connect unit s with
      | mk result after =>
        have hwatched := connect_watched hconnect log
        cases result with
        | ok descriptor =>
          rw [claim_of_ok hcount hunit hconnect, claim_of_ok hcount hunit hwatched]
          exact ⟨_, rfl, .claimed [] unit descriptor _ (List.forall_mem_nil _)⟩
        | error cause =>
          obtain ⟨attempts, hclaim, hended⟩ :=
            ih (k := k + 1) after (by omega) (log ++ [⟨unit, .error cause⟩])
          rw [claim_of_error hcount hunit hconnect, claim_of_error hcount hunit hwatched, hclaim,
            List.append_assoc]
          exact ⟨_, rfl, hended.cons (a := ⟨unit, .error cause⟩) ⟨cause, rfl⟩⟩

/-! ## Creations -/

/-- How a creation ends, over the control itself and over the watched one. -/
theorem create_watched (c : TunnelControl σ) (config : TunnelConfig) (s : σ) :
    c.watched.create config (s, []) =
        ((c.create config s).1, ((c.create config s).2, c.attempts config s)) ∧
      ∃ claimed events, Ended c config.candidates (c.attempts config s) claimed events ∧
        (c.create config s).1 = (outcome config claimed, events ++ report config claimed) := by
  obtain ⟨attempts, hwatched, hended⟩ :=
    c.claim_watched s (Nat.zero_add config.unitCount.toNat) []
  cases hclaim : c.claim config.firstUnit config.unitCount.toNat 0 s with
  | mk answer after =>
    obtain ⟨claimed, events⟩ := answer
    rw [hclaim] at hwatched hended
    have hattempts : c.watched.create config (s, []) =
        ((c.create config s).1, ((c.create config s).2, attempts)) := by
      rw [create_of_claim hwatched, create_of_claim hclaim]
      rfl
    have hsame : c.attempts config s = attempts := by rw [TunnelControl.attempts, hattempts]
    rw [hsame]
    exact ⟨hattempts, claimed, events, hended, by rw [create_of_claim hclaim]⟩

theorem Ended.length_le (h : Ended c units attempts claimed events) :
    attempts.length ≤ units.length := by
  have hlength := h.units_prefix.length_le
  rwa [List.length_map] at hlength

/-- The units of attempts at the candidates are numbered upwards from the first one. -/
theorem Ended.toNat_units (h : Ended c config.candidates attempts claimed events) :
    attempts.map (·.unit.toNat) = List.range' config.firstUnit.toNat attempts.length := by
  refine List.ext_getElem? fun k => ?_
  rw [List.getElem?_map]
  rcases Nat.lt_or_ge k attempts.length with hk | hk
  · have hunit : config.candidates[k]? = some attempts[k].unit := by
      obtain ⟨untried, huntried⟩ := h.units_prefix
      rw [← huntried, List.getElem?_append_left (by rwa [List.length_map]), List.getElem?_map,
        List.getElem?_eq_getElem hk, Option.map_some]
    rw [List.getElem?_range' hk, List.getElem?_eq_getElem hk, Option.map_some,
      TunnelConfig.toNat_candidate hunit, Nat.one_mul]
  · rw [List.getElem?_eq_none hk, List.getElem?_eq_none (by rwa [List.length_range'])]
    rfl

/-- What attempts at so many available units come to, with what is logged: a handle of the last unit
that was tried, which is the only one that was not refused, or none, if all of them were. -/
def Concludes (c : TunnelControl σ) (available : Nat) (attempts : List Attempt) :
    Except Unavailable TunnelHandle × List Event → Prop
  | (.ok handle, events) => ∃ refusals descriptor,
    attempts = refusals ++ [⟨handle.unit, .ok descriptor⟩] ∧ (∀ a ∈ refusals, a.Refused) ∧
    handle = ⟨some descriptor, handle.unit, c.interfaceName handle.unit, none⟩ ∧
    handle.isValid = true ∧
    events = refusals.map (fun a => .unitUnavailable a.unit) ++
      [.tunnelOpened handle.unit handle.name] ∧
    events.map (·.level) = List.replicate refusals.length .debug ++ [.info]
  | (.error e, events) =>
    attempts.length = available ∧ (∀ a ∈ attempts, a.Refused) ∧
    events = attempts.map (fun a => .unitUnavailable a.unit) ++
      [.unitsExhausted e.firstUnit e.lastUnit]

theorem Ended.concludes (h : Ended c units attempts claimed events) (config : TunnelConfig) :
    Concludes c units.length attempts
      (outcome config claimed, events ++ report config claimed) := by
  cases h with
  | exhausted _ hrefusals => exact ⟨(List.length_map _).symm, hrefusals, rfl⟩
  | claimed refusals unit descriptor untried hrefusals =>
    refine ⟨refusals, descriptor, rfl, hrefusals, rfl, rfl, List.append_nil _, ?_⟩
    have hlevels : (refusals.map Attempt.event).map (·.level) =
        List.replicate refusals.length .debug := by
      rw [List.map_map]
      exact List.map_const'
    rw [report, List.append_nil, List.map_append, hlevels]
    rfl

/-- A creation tries units one by one from the first one upwards, no more than are configured and no
more than there are, and stops at the first that is not refused: this unit is claimed, and the
handle has the descriptor that the control gave, the name of the unit, and no MTU. Each unit that
was refused is logged, and so is the one that is claimed. None is available only if all were tried
and refused. The answers of the control may depend on whatever it was asked before. -/
theorem create_of_attempts (c : TunnelControl σ) (config : TunnelConfig) (s : σ) :
    let attempts := c.attempts config s
    let available := min config.unitCount.toNat (UInt32.size - config.firstUnit.toNat)
    c.watched.create config (s, []) =
        ((c.create config s).1, ((c.create config s).2, attempts)) ∧
      attempts.map (·.unit.toNat) = List.range' config.firstUnit.toNat attempts.length ∧
      attempts.length ≤ available ∧
      Concludes c available attempts (c.create config s).1 := by
  intro attempts available
  obtain ⟨hwatched, claimed, events, hended, hcreate⟩ := c.create_watched config s
  have havailable : config.candidates.length = available := config.length_candidates
  rw [← havailable]
  refine ⟨hwatched, hended.toNat_units, hended.length_le, ?_⟩
  rw [hcreate]
  exact hended.concludes config

/-! ## Reported ranges -/

theorem Ended.of_refused (h : Ended c units attempts claimed events)
    (hrefused : ∀ a ∈ attempts, a.Refused) :
    units = attempts.map (·.unit) ∧ claimed = none ∧ events = attempts.map Attempt.event := by
  cases h with
  | exhausted => exact ⟨rfl, rfl, rfl⟩
  | claimed refusals unit descriptor untried hrefusals =>
    obtain ⟨cause, hcause⟩ := hrefused ⟨unit, .ok descriptor⟩ (by simp)
    cases hcause

/-- If every attempt is refused, the range that is reported, with the error and with the warning, is
that of the configuration. It is never empty, so it is the range of what was tried exactly if there
are candidates; if there are none, nothing was tried, and still the first unit is reported. -/
theorem reported_of_refused (c : TunnelControl σ) (config : TunnelConfig) (s : σ)
    (hrefused : ∀ a ∈ c.attempts config s, a.Refused) :
    let tried := (c.attempts config s).map (·.unit)
    ∃ e, (c.create config s).1 =
        (.error e, tried.map .unitUnavailable ++ [.unitsExhausted e.firstUnit e.lastUnit]) ∧
      e.firstUnit = config.firstUnit ∧ e.lastUnit = config.lastUnit ∧
      e.firstUnit ≤ e.lastUnit ∧
      ∀ unit, unit ∈ tried ↔
        config.unitCount ≠ 0 ∧ e.firstUnit ≤ unit ∧ unit ≤ e.lastUnit := by
  intro tried
  obtain ⟨-, claimed, events, hended, hcreate⟩ := c.create_watched config s
  obtain ⟨hunits, rfl, rfl⟩ := hended.of_refused hrefused
  refine ⟨⟨config.firstUnit, config.lastUnit⟩, ?_, rfl, rfl, config.firstUnit_le_lastUnit, ?_⟩
  · rw [hcreate, List.map_map]
    rfl
  · intro unit
    rw [← TunnelConfig.mem_candidates_iff, hunits]

/-- A rehearsal in which four units are all in use. -/
theorem reported_of_refused_busy :
    let config : TunnelConfig := { firstUnit := 40, unitCount := 4 }
    let busy : Rehearsal := { occupied := fun _ => true }
    let attempts := Rehearsal.control.attempts config busy
    (∀ a ∈ attempts, a.Refused) ∧ ∃ e, (Rehearsal.control.create config busy).1.1 = .error e ∧
      e.message = "no tunnel unit available in 40..=43" ∧
      ∀ unit, unit ∈ attempts.map (·.unit) ↔ 40 ≤ unit ∧ unit ≤ 43 := by
  intro config busy attempts
  have hattempts : attempts = [40, 41, 42, 43].map (⟨·, .error (.os .busy)⟩) := rfl
  have hrefused : ∀ a ∈ attempts, a.Refused := by
    rw [hattempts, List.forall_mem_map]
    exact fun unit _ => ⟨_, rfl⟩
  obtain ⟨e, hcreate, hfirst, hlast, -, htried⟩ :=
    reported_of_refused Rehearsal.control config busy hrefused
  have hrange : e = ⟨40, 43⟩ := by
    cases e
    cases hfirst
    cases hlast
    rfl
  subst hrange
  refine ⟨hrefused, _, congrArg Prod.fst hcreate, by decide, fun unit => ?_⟩
  exact (htried unit).trans (and_iff_right (by decide))

/-- Where there are no candidates, a unit is reported that nothing was known of: it was not tried,
and is not in use. -/
theorem untried_unit_reported :
    let config : TunnelConfig := { firstUnit := 1, unitCount := 0 }
    let idle : Rehearsal := {}
    let attempts := Rehearsal.control.attempts config idle
    (∀ a ∈ attempts, a.Refused) ∧
      (Rehearsal.control.create config idle).1 = (.error ⟨1, 1⟩, [.unitsExhausted 1 1]) ∧
      ¬ ∀ unit, unit ∈ attempts.map (·.unit) ↔ 1 ≤ unit ∧ unit ≤ 1 := by
  intro config idle attempts
  have hattempts : attempts = [] := rfl
  rw [hattempts]
  refine ⟨List.forall_mem_nil _, rfl, fun h => ?_⟩
  exact List.not_mem_nil ((h 1).mpr (by decide))

end TunnelControl

end PingTun
