-- SUMMARY: The units that are tried for a handle, and what trying the next of them comes to.
import Mathlib.Data.List.Nodup
import PingTun.Proofs.Host.Calls
import PingTun.Tunnel.Provisioner

/-! # Candidates

The units that a configuration has tried are a run of units within its range, each of which comes
once. To claim one of them is to try the next one, and to go on behind it if that is refused.
-/

namespace PingTun

namespace TunnelConfig

/-- The units that are tried, in order: as many as are configured, as far as there are units. -/
def candidates (config : TunnelConfig) : List UInt32 :=
  (List.range (min config.unitCount.toNat (UInt32.size - config.firstUnit.toNat))).map fun k =>
    (config.firstUnit.toNat + k).toUInt32

variable {config : TunnelConfig} {unit : UInt32} {k : Nat}

theorem length_candidates (config : TunnelConfig) : config.candidates.length =
    min config.unitCount.toNat (UInt32.size - config.firstUnit.toNat) := by
  rw [candidates, List.length_map, List.length_range]

theorem candidate_eq (h : k < config.candidates.length) :
    config.candidates[k]? = some (config.firstUnit.toNat + k).toUInt32 := by
  rw [length_candidates] at h
  rw [candidates, List.getElem?_map, List.getElem?_range h]
  rfl

theorem toNat_candidate (h : config.candidates[k]? = some unit) :
    unit.toNat = config.firstUnit.toNat + k := by
  obtain ⟨hk, -⟩ := List.getElem?_eq_some_iff.mp h
  rw [candidate_eq hk] at h
  rw [length_candidates] at hk
  cases h
  exact UInt32.toNat_ofNat_of_lt' (by omega)

theorem candidate_of_drop {units : List UInt32} (h : config.candidates.drop k = unit :: units) :
    config.candidates[k]? = some unit ∧ config.candidates.drop (k + 1) = units := by
  constructor
  · rw [← List.head?_drop, h, List.head?_cons]
  · rw [← List.tail_drop, h, List.tail_cons]

/-- No unit is tried twice. -/
theorem nodup_candidates (config : TunnelConfig) : config.candidates.Nodup := by
  apply List.nodup_iff_getElem?_ne_getElem?.mpr
  intro j k hjk hk heq
  rw [candidate_eq hk] at heq
  have hj := toNat_candidate heq
  have hk := toNat_candidate (candidate_eq hk)
  omega

/-- The last unit is told as if there were at least one candidate. -/
theorem toNat_lastUnit (config : TunnelConfig) : config.lastUnit.toNat =
    min (UInt32.size - 1) (config.firstUnit.toNat + (config.unitCount.toNat - 1)) :=
  UInt32.toNat_ofNat_of_lt' (Nat.lt_of_le_of_lt (Nat.min_le_left ..) (by decide))

/-- The configured range is never empty. -/
theorem firstUnit_le_lastUnit (config : TunnelConfig) : config.firstUnit ≤ config.lastUnit := by
  have hlimit := config.firstUnit.toNat_lt
  rw [UInt32.le_iff_toNat_le, toNat_lastUnit, UInt32.size]
  omega

/-- The candidates are the units of the configured range, if there are any candidates. -/
theorem mem_candidates_iff : unit ∈ config.candidates ↔
    config.unitCount ≠ 0 ∧ config.firstUnit ≤ unit ∧ unit ≤ config.lastUnit := by
  have hcount : config.unitCount ≠ 0 ↔ config.unitCount.toNat ≠ 0 := UInt32.toNat_inj.not.symm
  have hall : UInt32.size = 2 ^ 32 := rfl
  have hlimit := unit.toNat_lt
  rw [hcount, UInt32.le_iff_toNat_le, UInt32.le_iff_toNat_le, toNat_lastUnit]
  constructor
  · intro h
    obtain ⟨k, hk⟩ := List.mem_iff_getElem?.mp h
    have hunit := toNat_candidate hk
    obtain ⟨hlt, -⟩ := List.getElem?_eq_some_iff.mp hk
    rw [length_candidates, hall] at hlt
    omega
  · rintro ⟨hsome, hfirst, hlast⟩
    have hlt : unit.toNat - config.firstUnit.toNat < config.candidates.length := by
      rw [length_candidates, hall]
      omega
    have hunit : (config.firstUnit.toNat + (unit.toNat - config.firstUnit.toNat)).toUInt32 =
        unit := by
      rw [Nat.add_sub_of_le hfirst]
      exact UInt32.ofNat_toNat
    exact List.mem_of_getElem? ((candidate_eq hlt).trans (congrArg some hunit))

/-- All candidates lie in the configured range. -/
theorem mem_candidates (h : unit ∈ config.candidates) :
    config.firstUnit ≤ unit ∧ unit ≤ config.lastUnit :=
  (mem_candidates_iff.mp h).2

end TunnelConfig

namespace TunnelControl

variable {σ : Type} {c : TunnelControl σ} {config : TunnelConfig} {unit : UInt32} {k count : Nat}
  {s after : σ}

/-- Claiming ends when there is no candidate left. -/
theorem claim_of_none (hcount : k + count = config.unitCount.toNat)
    (hnone : config.candidates[k]? = none) :
    c.claim config.firstUnit count k s = ((none, []), s) := by
  have hlength := List.getElem?_eq_none_iff.mp hnone
  rw [TunnelConfig.length_candidates] at hlength
  cases count with
  | zero => rfl
  | succ count =>
    have hfull : ¬ config.firstUnit.toNat + k < UInt32.size := by omega
    rw [claim, claimBehind, if_neg hfull]
    rfl

section

variable (hcount : k + (count + 1) = config.unitCount.toNat)
  (hunit : config.candidates[k]? = some unit)
include hcount hunit

theorem claim_succ (c : TunnelControl σ) :
    c.claim config.firstUnit (count + 1) k = c.connect unit >>= fun
      | .ok descriptor => pure (some ⟨some descriptor, unit, c.interfaceName unit, none⟩,
        [.tunnelOpened unit (c.interfaceName unit)])
      | .error _ => c.claimBehind config.firstUnit count (k + 1) [.unitUnavailable unit] := by
  obtain ⟨hlt, -⟩ := List.getElem?_eq_some_iff.mp hunit
  rw [TunnelConfig.candidate_eq hlt] at hunit
  rw [TunnelConfig.length_candidates] at hlt
  have hfits : config.firstUnit.toNat + k < UInt32.size := by omega
  cases hunit
  rw [claim, claimBehind, if_pos hfits]
  rfl

/-- A candidate that is not refused is claimed. -/
theorem claim_of_ok {descriptor : Descriptor}
    (hconnect : c.connect unit s = (.ok descriptor, after)) :
    c.claim config.firstUnit (count + 1) k s =
      ((some ⟨some descriptor, unit, c.interfaceName unit, none⟩,
        [.tunnelOpened unit (c.interfaceName unit)]), after) := by
  rw [claim_succ hcount hunit, Host.bind_of_eq hconnect]
  rfl

/-- Behind a candidate that is refused the next one is tried. -/
theorem claim_of_error {cause : IoError} (hconnect : c.connect unit s = (.error cause, after)) :
    c.claim config.firstUnit (count + 1) k s =
      (((c.claim config.firstUnit count (k + 1) after).1.1,
        .unitUnavailable unit :: (c.claim config.firstUnit count (k + 1) after).1.2),
        (c.claim config.firstUnit count (k + 1) after).2) := by
  rw [claim_succ hcount hunit, Host.bind_of_eq hconnect]
  exact claimBehind_eq ..

end

/-! ## Creations -/

/-- What a creation comes to, by the handle that was claimed, if any was. -/
def outcome (config : TunnelConfig) : Option TunnelHandle → Except Unavailable TunnelHandle
  | some handle => .ok handle
  | none => .error ⟨config.firstUnit, config.lastUnit⟩

/-- What is logged once it is known whether a candidate was claimed. -/
def report (config : TunnelConfig) : Option TunnelHandle → List Event
  | some _ => []
  | none => [.unitsExhausted config.firstUnit config.lastUnit]

theorem create_of_claim {claimed : Option TunnelHandle} {events : List Event}
    (h : c.claim config.firstUnit config.unitCount.toNat 0 s = ((claimed, events), after)) :
    c.create config s = ((outcome config claimed, events ++ report config claimed), after) := by
  unfold create
  rw [Host.bind_of_eq h]
  cases claimed with
  | none => rfl
  | some handle =>
    rw [report, List.append_nil]
    rfl

/-- To create a handle is to claim one of all candidates. -/
theorem create_eq (c : TunnelControl σ) (config : TunnelConfig) (s : σ) :
    let claimed := c.claim config.firstUnit config.unitCount.toNat 0 s
    (c.create config s).1.1 = outcome config claimed.1.1 ∧ (c.create config s).2 = claimed.2 := by
  have hcreate : c.create config s = _ := create_of_claim rfl
  rw [hcreate]
  exact ⟨rfl, rfl⟩

/-- What trying units in order comes to: none was left, or one was not refused and is claimed, or it
was, and the next one is tried on what the attempt has left. -/
inductive Tries (c : TunnelControl σ) : σ → List UInt32 → Option TunnelHandle → σ → Prop
  | exhausted {s : σ} : Tries c s [] none s
  | claimed {s after : σ} {unit : UInt32} {units : List UInt32} {descriptor : Descriptor} :
    c.connect unit s = (.ok descriptor, after) →
    Tries c s (unit :: units) (some ⟨some descriptor, unit, c.interfaceName unit, none⟩) after
  | refused {s between after : σ} {unit : UInt32} {units : List UInt32} {cause : IoError}
    {claimed : Option TunnelHandle} :
    c.connect unit s = (.error cause, between) → Tries c between units claimed after →
    Tries c s (unit :: units) claimed after

theorem tries_claim (hcount : k + count = config.unitCount.toNat) :
    let answer := c.claim config.firstUnit count k s
    Tries c s (config.candidates.drop k) answer.1.1 answer.2 := by
  intro answer
  induction count generalizing k s with
  | zero =>
    have hnone : config.candidates[k]? = none := by
      rw [List.getElem?_eq_none_iff, TunnelConfig.length_candidates]
      omega
    rw [List.drop_eq_nil_iff.mpr (List.getElem?_eq_none_iff.mp hnone)]
    exact .exhausted
  | succ count ih =>
    cases hunit : config.candidates[k]? with
    | none =>
      have hanswer : answer = ((none, []), s) := claim_of_none hcount hunit
      rw [hanswer, List.drop_eq_nil_iff.mpr (List.getElem?_eq_none_iff.mp hunit)]
      exact .exhausted
    | some unit =>
      obtain ⟨hlt, hget⟩ := List.getElem?_eq_some_iff.mp hunit
      rw [List.drop_eq_getElem_cons hlt, hget]
      cases hconnect : c.connect unit s with
      | mk result after =>
        cases result with
        | ok descriptor =>
          have hanswer : answer = _ := claim_of_ok hcount hunit hconnect
          rw [hanswer]
          exact .claimed hconnect
        | error cause =>
          have hanswer : answer = _ := claim_of_error hcount hunit hconnect
          rw [hanswer]
          exact .refused hconnect (ih (by omega))

/-- To create a handle is to try all candidates in order. -/
theorem tries_create (c : TunnelControl σ) (config : TunnelConfig) (s : σ) :
    ∃ claimed, (c.create config s).1.1 = outcome config claimed ∧
      Tries c s config.candidates claimed (c.create config s).2 := by
  obtain ⟨hresult, hafter⟩ := c.create_eq config s
  refine ⟨_, hresult, ?_⟩
  rw [hafter]
  exact tries_claim (Nat.zero_add _)

/-- What every attempt at a unit keeps is kept by trying one after the other. -/
theorem Tries.preserves {P : σ → Prop} (hconnect : ∀ unit s, P s → P (c.connect unit s).2)
    {units : List UInt32} {claimed : Option TunnelHandle} (h : Tries c s units claimed after)
    (hs : P s) : P after := by
  induction h with
  | exhausted => exact hs
  | @claimed s after unit units descriptor hanswer =>
    have hafter := hconnect unit s hs
    rwa [hanswer] at hafter
  | @refused s between after unit units cause claimed hanswer _ ih =>
    have hbetween := hconnect unit s hs
    rw [hanswer] at hbetween
    exact ih hbetween

/-- A handle that was claimed is of a unit that was not refused. -/
theorem Tries.connect {units : List UInt32} {handle : TunnelHandle}
    (h : Tries c s units (some handle) after) :
    ∃ before descriptor, c.connect handle.unit before = (.ok descriptor, after) ∧
      handle = ⟨some descriptor, handle.unit, c.interfaceName handle.unit, none⟩ := by
  generalize hclaimed : some handle = claimed at h
  induction h with
  | exhausted => cases hclaimed
  | @claimed s after unit units descriptor hconnect =>
    cases hclaimed
    exact ⟨s, descriptor, hconnect, rfl⟩
  | refused _ _ ih => exact ih hclaimed

theorem connect_of_create {handle : TunnelHandle} (h : (c.create config s).1.1 = .ok handle) :
    ∃ before descriptor after, c.connect handle.unit before = (.ok descriptor, after) ∧
      handle = ⟨some descriptor, handle.unit, c.interfaceName handle.unit, none⟩ := by
  obtain ⟨claimed, hresult, htries⟩ := c.tries_create config s
  rw [h] at hresult
  cases claimed with
  | none => cases hresult
  | some given =>
    cases hresult
    obtain ⟨before, descriptor, hconnect⟩ := htries.connect
    exact ⟨before, descriptor, _, hconnect⟩

end TunnelControl

end PingTun
