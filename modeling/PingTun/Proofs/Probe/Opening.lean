-- SUMMARY: What opening a probe comes to, and the calls behind it.
import PingTun.Proofs.Host.Calls
import PingTun.Proofs.Probe.Listening

/-! # Opening

A raw socket is opened and made fit for a probe in four calls, none of which may be refused.
-/

namespace PingTun.Probe

/-- The calls by which a probe gets its socket. -/
def openingCalls (socket : Descriptor) : List Call :=
  [.openRawSocket (.ok socket), .includeHeader socket none, .makeNonblocking socket none,
    .registerReadiness socket none]

/-- A socket is fit for a probe only once the system has agreed three times. -/
theorem calls_of_prepare {socket : Descriptor} {host after : Host}
    (h : prepare socket host = (.ok (), after)) :
    after.calls = host.calls ++ (openingCalls socket).tail := by
  unfold prepare at h
  obtain ⟨⟨⟩, included, hincluded, h⟩ := Host.granted_of_bind h nofun
  obtain ⟨⟨⟩, nonblocking, hnonblocking, hregistered⟩ := Host.granted_of_bind h nofun
  rw [Host.calls_of_ask hregistered, Host.calls_of_ask hnonblocking, Host.calls_of_ask hincluded]
  simp [openingCalls]

theorem calls_of_openSocket {socket : Descriptor} {host after : Host}
    (h : openSocket host = (.ok socket, after)) :
    after.calls = host.calls ++ openingCalls socket := by
  unfold openSocket at h
  obtain ⟨opened, between, hopened, h⟩ := Host.granted_of_bind h nofun
  obtain ⟨⟨⟩, prepared, hprepared, h⟩ := Host.granted_of_bind h nofun
  cases h
  rw [calls_of_prepare hprepared, Host.calls_of_openDescriptor hopened, List.append_assoc]
  rfl

/-! ## Opening a probe -/

/-- A probe that is opened, with the time and the system it is opened at. -/
def Scene.openedUnder (eventLoop : EventLoop) (c : ProbeConfig) (identifier : UInt16)
    (host : Host) : Scene :=
  let ((probe, _), host) := Probe.open eventLoop c identifier host
  { time := eventLoop.now, host, probe }

variable {eventLoop : EventLoop} {c : ProbeConfig}

/-- Without an event loop there is nothing to work on. -/
theorem openedUnder_absent (habsent : eventLoop.running = false) (identifier : UInt16)
    (host : Host) :
    Scene.openedUnder eventLoop c identifier host =
      ⟨eventLoop.now, host, { identifier, backend := .failed }⟩ := by
  simp only [Scene.openedUnder, Probe.open, openBackend, habsent]
  rfl

/-- A simulation does without the system. -/
theorem openedUnder_simulated (hrunning : eventLoop.running = true) (hsimulate : c.simulate = true)
    (identifier : UInt16) (host : Host) :
    Scene.openedUnder eventLoop c identifier host =
      ⟨eventLoop.now, host, { identifier, backend := .simulated (.ofConfig c) }⟩ := by
  simp only [Scene.openedUnder, Probe.open, openBackend, hrunning, hsimulate]
  rfl

/-- Anything else is up to the system. -/
theorem openedUnder_socket {host after : Host} {result : Except Errno Descriptor}
    (hrunning : eventLoop.running = true) (hsimulate : c.simulate = false)
    (hopen : openSocket host = (result, after)) (identifier : UInt16) :
    Scene.openedUnder eventLoop c identifier host =
      ⟨eventLoop.now, after,
        { identifier
          backend := match result with
            | .ok socket => .socket socket {}
            | .error _ => .failed }⟩ := by
  have hbackend : ∃ events, openBackend eventLoop c host =
      ((match result with
        | .ok socket => .socket socket {}
        | .error _ => .failed, events), after) := by
    simp only [openBackend, hrunning, hsimulate, Bool.not_true, Bool.false_eq_true, if_false]
    rw [Host.bind_of_eq hopen]
    cases result with
    | ok socket => exact ⟨_, rfl⟩
    | error cause => exact ⟨_, rfl⟩
  obtain ⟨events, hbackend⟩ := hbackend
  simp only [Scene.openedUnder, Probe.open]
  rw [Host.bind_of_eq hbackend]
  rfl

/-- A probe in the state of an open socket listens at the socket that was opened for it. -/
theorem listens_opened {start : Nat} {c : ProbeConfig} {identifier : UInt16} {host : Host}
    (hopen : (Scene.opened start c identifier host).probe.state = .socketOpen) :
    ∃ socket, Listens identifier socket {} (Scene.opened start c identifier host).probe ∧
      openSocket host = (.ok socket, (Scene.opened start c identifier host).host) := by
  have hrunning : Scene.opened start c identifier host =
    Scene.openedUnder { running := true, now := start } c identifier host := rfl
  rw [hrunning] at hopen ⊢
  cases hsimulate : c.simulate with
  | true =>
    rw [openedUnder_simulated rfl hsimulate] at hopen
    cases hopen
  | false =>
    cases hsocket : openSocket host with
    | mk result after =>
      rw [openedUnder_socket rfl hsimulate hsocket] at hopen ⊢
      cases result with
      | error cause => cases hopen
      | ok socket => exact ⟨socket, ⟨rfl, rfl⟩, rfl⟩

end PingTun.Probe
