-- SUMMARY: What each call to the system comes to, once it is known whether the system refuses it.
import PingTun.Host.Basic

/-! # Calls

A call that may be refused has one equation for each verdict of the system. What is done to a host
in several calls is taken apart at the first of them.
-/

namespace PingTun.Host

section

variable {σ α β : Type} {s after : σ} {a : α}

/-- Once it is known what comes of the first call, the rest goes on from there. -/
theorem bind_of_eq {first : StateM σ α} (hfirst : first s = (a, after)) (rest : α → StateM σ β) :
    (first >>= rest) s = rest a after := by
  change rest (first s).1 (first s).2 = rest a after
  rw [hfirst]

/-- What succeeds only if its first call does goes on from that call. -/
theorem granted_of_bind {ε : Type} {first : StateM σ (Except ε α)}
    {rest : Except ε α → StateM σ (Except ε β)} {b : β} {last : σ}
    (h : (first >>= rest) s = (.ok b, last))
    (hends : ∀ cause after, rest (.error cause) after ≠ (.ok b, last)) :
    ∃ a after, first s = (.ok a, after) ∧ rest (.ok a) after = (.ok b, last) := by
  cases hfirst : first s with
  | mk result after =>
    rw [bind_of_eq hfirst] at h
    cases result with
    | error cause => exact absurd h (hends cause after)
    | ok a => exact ⟨a, after, rfl, h⟩

end

/-! ## Records -/

section

variable (call : Call) (h : Host)

@[simp] theorem live_record : (h.record call).live = h.live := rfl

theorem live_update (descriptor : Descriptor) (change : OpenDescriptor → OpenDescriptor) :
    (h.update descriptor change).live =
      h.live.map fun d => if d.descriptor = descriptor then change d else d := rfl

end

/-! ## Verdicts -/

variable {h : Host} {cause : Errno}

section

variable {request : Request}

theorem ask_refused (hrefusal : h.refusal? request = some cause) (call : Option Errno → Call) :
    ask request call h = (.error cause, h.record (call (some cause))) := by
  simp only [ask, hrefusal]

theorem ask_granted (hrefusal : h.refusal? request = none) (call : Option Errno → Call) :
    ask request call h = (.ok (), h.record (call none)) := by
  simp only [ask, hrefusal]

theorem granted_of_ask {call : Option Errno → Call} {after : Host}
    (hask : ask request call h = (.ok (), after)) :
    h.refusal? request = none ∧ after = h.record (call none) := by
  cases hrefusal : h.refusal? request with
  | some cause =>
    rw [ask_refused hrefusal] at hask
    cases hask
  | none =>
    rw [ask_granted hrefusal] at hask
    cases hask
    exact ⟨rfl, rfl⟩

/-- A call that was granted stands behind the calls before it. -/
theorem calls_of_ask {call : Option Errno → Call} {after : Host}
    (hask : ask request call h = (.ok (), after)) : after.calls = h.calls ++ [call none] := by
  obtain ⟨-, rfl⟩ := granted_of_ask hask
  exact calls_record ..

theorem openDescriptor_refused (hrefusal : h.refusal? request = some cause)
    (call : Except Errno Descriptor → Call) (endpoint : Endpoint) (closeOnExec : Bool) :
    openDescriptor request call endpoint closeOnExec h =
      (.error cause, h.record (call (.error cause))) := by
  simp only [openDescriptor, hrefusal]

theorem openDescriptor_granted (hrefusal : h.refusal? request = none)
    (call : Except Errno Descriptor → Call) (endpoint : Endpoint) (closeOnExec : Bool) :
    openDescriptor request call endpoint closeOnExec h =
      (.ok h.next, { h.record (call (.ok h.next)) with
        live := ⟨h.next, endpoint, closeOnExec⟩ :: h.live
        next := h.next + 1 }) := by
  simp only [openDescriptor, hrefusal]

theorem granted_of_openDescriptor {call : Except Errno Descriptor → Call} {endpoint : Endpoint}
    {closeOnExec : Bool} {descriptor : Descriptor} {after : Host}
    (hopen : openDescriptor request call endpoint closeOnExec h = (.ok descriptor, after)) :
    h.refusal? request = none ∧ descriptor = h.next ∧
      after = { h.record (call (.ok h.next)) with
        live := ⟨h.next, endpoint, closeOnExec⟩ :: h.live
        next := h.next + 1 } := by
  cases hrefusal : h.refusal? request with
  | some cause =>
    rw [openDescriptor_refused hrefusal] at hopen
    cases hopen
  | none =>
    rw [openDescriptor_granted hrefusal] at hopen
    cases hopen
    exact ⟨rfl, rfl, rfl⟩

theorem calls_of_openDescriptor {call : Except Errno Descriptor → Call} {endpoint : Endpoint}
    {closeOnExec : Bool} {descriptor : Descriptor} {after : Host}
    (hopen : openDescriptor request call endpoint closeOnExec h = (.ok descriptor, after)) :
    after.calls = h.calls ++ [call (.ok descriptor)] := by
  obtain ⟨-, rfl, rfl⟩ := granted_of_openDescriptor hopen
  exact calls_record ..

end

theorem setCloseOnExec_refused (hrefusal : h.refusal? .closeOnExec = some cause)
    (descriptor : Descriptor) :
    setCloseOnExec descriptor h =
      (.error cause, h.record (.closeOnExec descriptor (some cause))) := by
  simp only [setCloseOnExec, hrefusal]

theorem setCloseOnExec_granted (hrefusal : h.refusal? .closeOnExec = none)
    (descriptor : Descriptor) :
    setCloseOnExec descriptor h =
      (.ok (), (h.record (.closeOnExec descriptor none)).update descriptor fun d =>
        { d with closeOnExec := true }) := by
  simp only [setCloseOnExec, hrefusal]

theorem lookUpControl_refused (hrefusal : h.refusal? .lookUpControl = some cause)
    (socket : Descriptor) (name : String) :
    lookUpControl socket name h =
      (.error cause, h.record (.lookUpControl socket name (.error cause))) := by
  simp only [lookUpControl, hrefusal]

theorem lookUpControl_granted (hrefusal : h.refusal? .lookUpControl = none)
    (socket : Descriptor) (name : String) :
    lookUpControl socket name h =
      (.ok (h.script.controlId h.log),
        h.record (.lookUpControl socket name (.ok (h.script.controlId h.log)))) := by
  simp only [lookUpControl, hrefusal]

section

variable {unit : UInt32}

theorem bindUnit_refused (hrefusal : h.bindRefusal? unit = some cause) (descriptor : Descriptor)
    (call : Option Errno → Call) :
    bindUnit descriptor unit call h = (.error cause, h.record (call (some cause))) := by
  simp only [bindUnit, hrefusal]

theorem bindUnit_granted (hrefusal : h.bindRefusal? unit = none) (descriptor : Descriptor)
    (call : Option Errno → Call) :
    bindUnit descriptor unit call h =
      (.ok (), ((h.record (call none)).update descriptor fun d =>
        { d with endpoint := .tunnel (some unit) }).occupy unit) := by
  simp only [bindUnit, hrefusal]

/-- An occupied unit is never bound. -/
theorem occupied_of_bindRefusal? (hrefusal : h.bindRefusal? unit = none) :
    h.occupied unit = false := by
  unfold bindRefusal? at hrefusal
  split at hrefusal
  · cases hrefusal
  · split at hrefusal
    · cases hrefusal
    · rename_i hfree
      exact Bool.eq_false_iff.mpr hfree

end

end PingTun.Host
