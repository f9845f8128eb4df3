-- SUMMARY: A tunnel control without a system below it, for rehearsing allocation.
import PingTun.Host.Basic
import PingTun.Tunnel.Control

/-! # Rehearsals

A control that only keeps books: units are claimed directly, and every interface name has an MTU
that can be set to anything. What it was asked to do is kept.
-/

namespace PingTun

namespace Rehearsal

/-- What a rehearsal was asked to do, with the error number it answered, if any. -/
inductive Act
  | connect (unit : UInt32) (refusal : Option Errno)
  | getMtu (name : String) (refusal : Option Errno)
  | setMtu (name : String) (mtu : UInt32) (refusal : Option Errno)
  | close (unit : UInt32)
deriving DecidableEq, Repr

end Rehearsal

structure Rehearsal where
  refusals : Refusals := {}
  occupied : UInt32 → Bool := fun _ => false
  mtus : String → UInt32 := fun _ => 1500
  /-- The units that descriptors are bound to. -/
  units : List (Descriptor × UInt32) := []
  next : Descriptor := 0
  /-- What it was asked to do, the last of which comes first. -/
  log : List Rehearsal.Act := []

namespace Rehearsal

/-- What it was asked to do, in order. -/
def acts (r : Rehearsal) : List Act := r.log.reverse

def record (act : Act) (r : Rehearsal) : Rehearsal := { r with log := act :: r.log }

def occupy (unit : UInt32) (r : Rehearsal) : Rehearsal :=
  { r with occupied := fun u => if u = unit then true else r.occupied u }

def vacate (unit : UInt32) (r : Rehearsal) : Rehearsal :=
  { r with occupied := fun u => if u = unit then false else r.occupied u }

def assignMtu (name : String) (mtu : UInt32) (r : Rehearsal) : Rehearsal :=
  { r with mtus := fun n => if n = name then mtu else r.mtus n }

def interfaceName (unit : UInt32) : String := "fake" ++ Numeral.text unit.toNat

def connect (unit : UInt32) : StateM Rehearsal (Except IoError Descriptor) := fun r =>
  let refusal := match r.refusals.bind unit with
    | some cause => some cause
    | none => if r.occupied unit then some .busy else none
  let r := r.record (.connect unit refusal)
  match refusal with
  | some cause => (.error (.os cause), r)
  | none =>
    (.ok r.next, { r.occupy unit with units := (r.next, unit) :: r.units, next := r.next + 1 })

def getMtu (name : String) : StateM Rehearsal (Except IoError UInt32) := fun r =>
  let answered := r.record (.getMtu name r.refusals.getMtu)
  match r.refusals.getMtu with
  | some cause => (.error (.os cause), answered)
  | none => (.ok (r.mtus name), answered)

def setMtu (name : String) (mtu : UInt32) : StateM Rehearsal (Except IoError Unit) := fun r =>
  let answered := r.record (.setMtu name mtu r.refusals.setMtu)
  match r.refusals.setMtu with
  | some cause => (.error (.os cause), answered)
  | none => (.ok (), answered.assignMtu name mtu)

def close (descriptor : Descriptor) : StateM Rehearsal Unit := fun r =>
  match r.units.find? (·.1 == descriptor) with
  | none => ((), r)
  | some (_, unit) =>
    ((), { (r.record (.close unit)).vacate unit with
      units := r.units.filter (·.1 != descriptor) })

def control : TunnelControl Rehearsal where
  connect := connect
  interfaceName := interfaceName
  getMtu _ name := getMtu name
  setMtu _ name mtu := setMtu name mtu
  close := close

end Rehearsal

end PingTun
