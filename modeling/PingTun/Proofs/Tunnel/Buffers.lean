-- SUMMARY: The buffers of interface names: which names fit, that they are read as they were, and that those of all units fit.
import PingTun.Proofs.Tunnel.Attempts
import PingTun.Proofs.Tunnel.Mtus
import PingTun.Proofs.Tunnel.Settings

/-! # Buffers

A name is copied byte by byte into a blank buffer of signed cells, and read up to the first NUL. If
there is room for a NUL behind it, and it holds none itself, it is read as it was, so that no two
names share a buffer. The names of all units fit. Whatever the system answers, a control does not
fail over the name of a unit that it tries, or of a handle that it gave.
-/

namespace PingTun

/-! ## Cells -/

namespace InterfaceName

/-- The cells of a buffer, which are signed. -/
def cells (n : InterfaceName) : List Int8 := n.bytes.map UInt8.toInt8

/-- The bytes of signed cells up to the first NUL. -/
def read (cells : List Int8) : List UInt8 := (cells.takeWhile (· != 0)).map Int8.toUInt8

/-- Copy bytes into the cells in front, as far as there are both. -/
def copy : List Int8 → List UInt8 → List Int8
  | [], _ => []
  | cells, [] => cells
  | _ :: cells, byte :: bytes => byte.toInt8 :: copy cells bytes

/-- A buffer that holds a name: the name was copied into it when it was blank, and is read from it
again. Behind the name there are only NULs, and at least one. -/
structure Holds (n : InterfaceName) (name : String) : Prop where
  copied : n.cells = copy (List.replicate 16 0) (Text.utf8 name)
  read_eq : read n.cells = Text.utf8 name
  text_eq : n.text = name
  terminated : (Text.utf8 name).length < 16
  blank : n.cells.drop (Text.utf8 name).length =
    List.replicate (16 - (Text.utf8 name).length) 0

theorem copy_eq (cells : List Int8) (bytes : List UInt8) :
    copy cells bytes =
      (bytes.take cells.length).map UInt8.toInt8 ++ cells.drop bytes.length := by
  induction cells generalizing bytes with
  | nil => simp [copy]
  | cons cell cells ih =>
    cases bytes with
    | nil => rfl
    | cons byte bytes =>
      rw [copy, ih]
      rfl

theorem toInt8_bne_zero (byte : UInt8) : (byte.toInt8 != 0) = (byte != 0) := by
  have hzero : byte.toInt8 = 0 ↔ byte = 0 := by
    refine ⟨fun h => ?_, fun h => by rw [h]; rfl⟩
    rw [← byte.toUInt8_toInt8, h]
    rfl
  rw [Bool.eq_iff_iff, bne_iff_ne, bne_iff_ne, ne_eq, hzero]

/-- The sign of the cells is lost in reading, and nothing else is. -/
theorem read_cells (n : InterfaceName) : read n.cells = n.content := by
  have hbytes : Int8.toUInt8 ∘ UInt8.toInt8 = id := funext UInt8.toUInt8_toInt8
  have hnul : (fun cell : Int8 => cell != 0) ∘ UInt8.toInt8 = (· != 0) := funext toInt8_bne_zero
  rw [read, cells, List.takeWhile_map, List.map_map, hbytes, List.map_id, hnul, content]

variable {name : String} {n : InterfaceName}

theorem exists_ofString?_iff (name : String) :
    (∃ n, ofString? name = some n) ↔
      (Text.utf8 name).length < capacity ∧ 0 ∉ Text.utf8 name := by
  refine ⟨fun ⟨n, h⟩ => ?_, fun h => ⟨_, dif_pos h⟩⟩
  by_contra hunfit
  rw [ofString?, dif_neg hunfit] at h
  cases h

theorem bytes_of_ofString? (h : ofString? name = some n) :
    n.bytes = Text.utf8 name ++ List.replicate (capacity - (Text.utf8 name).length) 0 := by
  have hfits := (exists_ofString?_iff name).mp ⟨n, h⟩
  rw [ofString?, dif_pos hfits] at h
  cases h
  rfl

theorem cells_of_ofString? (h : ofString? name = some n) :
    n.cells = (Text.utf8 name).map UInt8.toInt8 ++
      List.replicate (16 - (Text.utf8 name).length) 0 := by
  rw [cells, bytes_of_ofString? h, List.map_append, List.map_replicate]
  rfl

theorem holds_of_ofString? (h : ofString? name = some n) : n.Holds name := by
  have hlength : (Text.utf8 name).length < 16 := ((exists_ofString?_iff name).mp ⟨n, h⟩).1
  have hcells := cells_of_ofString? h
  refine ⟨?_, ?_, text_of_ofString? h, hlength, ?_⟩
  · rw [hcells, copy_eq, List.length_replicate, List.drop_replicate,
      List.take_of_length_le (Nat.le_of_lt hlength)]
  · rw [read_cells, content_of_ofString? h]
  · rw [hcells, List.drop_left' (List.length_map _)]

end InterfaceName

/-! ## Names that fit -/

namespace TunnelControl

variable {name : String} {n : InterfaceName}

/-- A name is taken exactly if it fits into the buffer. -/
theorem kernelName?_eq_ok_iff : kernelName? name = .ok n ↔ InterfaceName.ofString? name = some n :=
  ⟨ofString?_of_kernelName?, fun h => by rw [kernelName?, h]⟩

theorem exists_kernelName?_iff (name : String) :
    (∃ n, kernelName? name = .ok n) ↔ (Text.utf8 name).length ≤ 15 ∧ 0 ∉ Text.utf8 name := by
  simp only [kernelName?_eq_ok_iff]
  exact (InterfaceName.exists_ofString?_iff name).trans (and_congr_left' Nat.lt_succ_iff)

/-- A name that does not fit is told with the error. -/
theorem kernelName?_eq_error (h : ¬ ∃ n, kernelName? name = .ok n) :
    kernelName? name = .error (.invalidInterfaceName name) := by
  cases hname : InterfaceName.ofString? name with
  | none => rw [kernelName?, hname]
  | some n => exact absurd ⟨n, kernelName?_eq_ok_iff.mpr hname⟩ h

theorem holds_of_kernelName? (h : kernelName? name = .ok n) : n.Holds name :=
  InterfaceName.holds_of_ofString? (kernelName?_eq_ok_iff.mp h)

end TunnelControl

/-! ## Failures over names -/

/-- An answer that is a failure over the name of an interface. -/
def Misnamed {α : Type} (answer : Except IoError α) : Prop :=
  ∃ name, answer = .error (.invalidInterfaceName name)

/-- An action that does not fail over the name of an interface, whatever the system answers. -/
def Named {α : Type} (action : StateM Host (Except IoError α)) : Prop :=
  ∀ h, ¬ Misnamed (action h).1

namespace Named

variable {α β : Type}

theorem ok (a : α) : Named (pure (.ok a)) := fun _ => nofun

theorem os (cause : Errno) : Named (α := α) (pure (.error (.os cause))) := fun _ => nofun

theorem bind {action : StateM Host β} {next : β → StateM Host (Except IoError α)}
    (hnext : ∀ b, Named (next b)) : Named (action >>= next) :=
  fun h => hnext (action h).1 (action h).2

/-- What is done behind an action does not change its answer. -/
theorem before {action : StateM Host (Except IoError α)} (haction : Named action)
    (last : StateM Host Unit) :
    Named (do
      let result ← action
      last
      return result) :=
  haction

/-- A descriptor is opened and bound, and closed again if that is refused. -/
theorem bound (opening : StateM Host (Except Errno Descriptor))
    (binding : Descriptor → StateM Host (Except Errno Unit)) :
    Named (do
      match ← opening with
      | .error cause => return .error (.os cause)
      | .ok descriptor =>
        match ← binding descriptor with
        | .ok () => return .ok descriptor
        | .error cause =>
          Host.close descriptor
          return .error (.os cause)) := by
  refine .bind fun opened => ?_
  cases opened with
  | error cause => exact .os cause
  | ok descriptor =>
    refine .bind fun answer => ?_
    cases answer with
    | ok _ => exact .ok descriptor
    | error cause => exact .bind fun _ => .os cause

/-- Behind a name that is taken it depends on what is done with its buffer. -/
theorem ofName {name : String} (hname : ∃ n, TunnelControl.kernelName? name = .ok n)
    {next : InterfaceName → StateM Host (Except IoError α)} (hnext : ∀ n, Named (next n)) :
    Named (match TunnelControl.kernelName? name with
      | .error e => pure (.error e)
      | .ok n => next n) := by
  obtain ⟨n, hn⟩ := hname
  rw [hn]
  exact hnext n

/-- An MTU that the kernel's word does not hold is no matter of names. -/
theorem ofSigned (mtu : UInt32) {next : Int32 → StateM Host (Except IoError α)}
    (hnext : ∀ word, Named (next word)) :
    Named (match TunnelControl.signedMtu? mtu with
      | .error e => pure (.error e)
      | .ok word => next word) := by
  rcases Nat.lt_or_ge TunnelControl.greatestMtu mtu.toNat with hlarge | hfits
  · rw [TunnelControl.signedMtu?_of_lt hlarge]
    exact fun _ => nofun
  · rw [TunnelControl.signedMtu?_of_le hfits]
    exact hnext _

theorem unsigned (word : Int32) : Named (pure (TunnelControl.unsignedMtu? word)) := by
  unfold TunnelControl.unsignedMtu?
  split
  · exact .ok _
  · exact fun _ => nofun

theorem getMtu (socket : Descriptor) (n : InterfaceName) :
    Named (do
      match ← Host.getMtu socket n with
      | .error cause => return .error (.os cause)
      | .ok word => return TunnelControl.unsignedMtu? word) := by
  refine .bind fun answer => ?_
  cases answer with
  | error cause => exact .os cause
  | ok word => exact .unsigned word

theorem setMtu (socket : Descriptor) (n : InterfaceName) (word : Int32) :
    Named (do
      match ← Host.setMtu socket n word with
      | .error cause => return .error (.os cause)
      | .ok () => return .ok ()) := by
  refine .bind fun answer => ?_
  cases answer with
  | error cause => exact .os cause
  | ok _ => exact .ok ()

end Named

/-- What is asked of a control so that it does not fail over a name of its own. -/
structure TunnelControl.Names (c : TunnelControl Host) : Prop where
  fits : ∀ unit, ∃ n, kernelName? (c.interfaceName unit) = .ok n
  connect : ∀ unit, Named (c.connect unit)
  getMtu : ∀ descriptor unit, Named (c.getMtu descriptor (c.interfaceName unit))
  setMtu : ∀ descriptor unit mtu, Named (c.setMtu descriptor (c.interfaceName unit) mtu)

namespace Linux

theorem fits (unit : UInt32) : ∃ n, TunnelControl.kernelName? (interfaceName unit) = .ok n :=
  (kernelName?_interfaceName unit).imp fun _ h => h.1

theorem named_connect (unit : UInt32) : Named (connect unit) :=
  .ofName (fits unit) fun _ => .bound _ _

theorem named_withSocket {α : Type} (unit : UInt32)
    {ask : Descriptor → InterfaceName → StateM Host (Except IoError α)}
    (hask : ∀ socket n, Named (ask socket n)) : Named (withSocket (interfaceName unit) ask) := by
  obtain ⟨n, hname⟩ := fits unit
  refine .bind fun opening => ?_
  cases opening with
  | error cause => exact .os cause
  | ok socket =>
    -- The socket is closed also behind a name that does not fit, so `ofName` says nothing of this.
    simp only [hname]
    exact (hask socket n).before (Host.close socket)

theorem names : control.Names where
  fits := fits
  connect := named_connect
  getMtu _ unit := named_withSocket unit .getMtu
  setMtu _ unit mtu :=
    .ofSigned mtu fun word => named_withSocket unit fun socket n => .setMtu socket n word

end Linux

namespace MacOS

theorem fits (unit : UInt32) : ∃ n, TunnelControl.kernelName? (interfaceName unit) = .ok n :=
  (kernelName?_interfaceName unit).imp fun _ h => h.1

theorem named_connect (unit : UInt32) : Named (connect unit) := by
  unfold connect
  by_cases hzero : unit = 0
  · rw [if_pos hzero]
    exact fun _ => nofun
  · rw [if_neg hzero]
    exact .bound _ _

theorem names : control.Names where
  fits := fits
  connect := named_connect
  getMtu socket unit := .ofName (fits unit) (.getMtu socket)
  setMtu socket unit mtu :=
    .ofSigned mtu fun word => .ofName (fits unit) fun n => .setMtu socket n word

end MacOS

/-! ## Units and handles -/

/-- A query that failed over the name of an interface. -/
def Query.Misnamed : Query → Prop
  | .connect _ answer => PingTun.Misnamed answer
  | .getMtu _ _ answer => PingTun.Misnamed answer
  | .setMtu _ _ _ answer => PingTun.Misnamed answer
  | .close _ => False

namespace TunnelControl

variable {c : TunnelControl Host} {config : TunnelConfig} {handle : TunnelHandle} {h : Host}

/-- No unit that is tried is refused over its name. -/
theorem Names.attempts (hc : c.Names) : ∀ a ∈ c.attempts config h, ¬ Misnamed a.answer := by
  intro a ha
  obtain ⟨before, hanswer⟩ := answer_of_mem_attempts ha
  rw [hanswer]
  exact hc.connect a.unit before

/-- No access to a handle fails over its name. -/
theorem Names.queries (hc : c.Names) (hgave : c.Gave handle) (access : Access) (h : Host) :
    ∀ query ∈ c.queries handle access h, ¬ query.Misnamed := by
  obtain ⟨-, hname, -⟩ := hgave.served
  cases hdescriptor : handle.descriptor with
  | none =>
    rw [(c.accessed handle access h).queries_of_none hdescriptor]
    exact List.forall_mem_nil _
  | some descriptor =>
    cases access with
    | ask =>
      have hanswer := hc.getMtu descriptor handle.unit h
      rw [queries_ask hdescriptor, List.forall_mem_singleton, hname]
      exact hanswer
    | set mtu =>
      have hanswer := hc.setMtu descriptor handle.unit mtu h
      rw [queries_set hdescriptor, List.forall_mem_singleton, hname]
      exact hanswer

/-- However often a handle is accessed, nothing fails over its name. -/
theorem Names.exchanges (hc : c.Names) (hgave : c.Gave handle) (accesses : List Access)
    (h : Host) : ∀ e ∈ c.exchanges handle accesses h, ∀ query ∈ e.queries, ¬ query.Misnamed := by
  induction accesses generalizing handle h with
  | nil => exact List.forall_mem_nil _
  | cons access accesses ih =>
    have hafter := (c.accessed handle access h).after_eq
    rw [exchanges_cons]
    refine List.forall_mem_cons.mpr ⟨hc.queries hgave access h, ih ?_ _⟩
    rw [hafter]
    exact hgave.configure _

end TunnelControl

/-- A name is taken exactly if it has at most fifteen bytes, none of which is NUL; any other is
refused, and told with the error. The buffer of a name holds it, and no other name. The names of all
units are taken, so that neither the units that are tried nor the handles that they give, whatever
was set through these since, are ever refused over a name, on any system, whatever it answers. Units
have different names, but for unit 0 where interfaces are numbered one below their units. -/
theorem buffers_of_names :
    (∀ name, (∃ n, TunnelControl.kernelName? name = .ok n) ↔
      (Text.utf8 name).length ≤ 15 ∧ 0 ∉ Text.utf8 name) ∧
    (∀ name, (¬ ∃ n, TunnelControl.kernelName? name = .ok n) →
      TunnelControl.kernelName? name = .error (.invalidInterfaceName name)) ∧
    (∀ name n, TunnelControl.kernelName? name = .ok n → n.Holds name ∧
      ∀ other, TunnelControl.kernelName? other = .ok n → other = name) ∧
    (∀ c ∈ [Linux.control, MacOS.control],
      (∀ unit, ∃ n, TunnelControl.kernelName? (c.interfaceName unit) = .ok n) ∧
      (∀ config host, ∀ a ∈ c.attempts config host, ¬ Misnamed a.answer) ∧
      ∀ handle, c.Gave handle → ∀ accesses host, ∀ e ∈ c.exchanges handle accesses host,
        ∀ query ∈ e.queries, ¬ query.Misnamed) ∧
    (∀ u v, Linux.interfaceName u = Linux.interfaceName v → u = v) ∧
    ∀ u v, 1 ≤ u → 1 ≤ v → MacOS.interfaceName u = MacOS.interfaceName v → u = v := by
  have hnames : ∀ c ∈ [Linux.control, MacOS.control], c.Names :=
    List.forall_mem_cons.mpr ⟨Linux.names, List.forall_mem_singleton.mpr MacOS.names⟩
  have hne (u : UInt32) (hu : 1 ≤ u) : u ≠ 0 := by
    rintro rfl
    contradiction
  refine ⟨TunnelControl.exists_kernelName?_iff, fun name => TunnelControl.kernelName?_eq_error,
    fun name n h => ⟨TunnelControl.holds_of_kernelName? h, fun other hother => ?_⟩,
    fun c hc => ?_, fun u v => Linux.interfaceName_injective,
    fun u v hu hv => MacOS.interfaceName_injOn (hne u hu) (hne v hv)⟩
  · rw [← (TunnelControl.holds_of_kernelName? hother).text_eq,
      (TunnelControl.holds_of_kernelName? h).text_eq]
  · exact ⟨(hnames c hc).fits, fun config host => (hnames c hc).attempts,
      fun handle hgave accesses host => (hnames c hc).exchanges hgave accesses host⟩

/-- A name that leaves room for just one NUL, with bytes above 127, is read from its cells as it was;
one byte more, and it is refused. The last unit has a name as any other. -/
theorem buffers_of_names_longest :
    let name := "tunnel-über-ö"
    let host : Host := { script := ({} : Refusals).script 5 }
    let handle : TunnelHandle := ⟨some 0, 4294967295, "tun4294967295", none⟩
    (∃ n, TunnelControl.kernelName? name = .ok n ∧ n.text = name ∧
      n.cells = [116, 117, 110, 110, 101, 108, 45, -61, -68, 98, 101, 114, 45, -61, -74, 0]) ∧
    TunnelControl.kernelName? "tunnel-über-öl" =
      .error (.invalidInterfaceName "tunnel-über-öl") ∧
    Linux.control.Gave handle ∧
    (∀ e ∈ Linux.control.exchanges handle [.set 1400, .ask] host,
      ∀ query ∈ e.queries, ¬ query.Misnamed) ∧
    MacOS.interfaceName 1 ≠ MacOS.interfaceName 4294967295 := by
  intro name host handle
  obtain ⟨hdomain, hrefused, hheld, hcontrols, -, hmacOS⟩ := buffers_of_names
  obtain ⟨n, hname⟩ := (hdomain name).mpr (by decide +kernel)
  obtain ⟨hholds, -⟩ := hheld name n hname
  have hgave : Linux.control.Gave handle :=
    ⟨⟨4294967295, 1⟩, host, handle, by decide +kernel, rfl⟩
  obtain ⟨-, -, hexchanges⟩ := hcontrols Linux.control List.mem_cons_self
  refine ⟨⟨n, hname, hholds.text_eq, hholds.copied.trans (by decide +kernel)⟩,
    hrefused _ fun htaken => ?_, hgave, hexchanges handle hgave _ host, fun hsame => ?_⟩
  · exact absurd ((hdomain _).mp htaken) (by decide +kernel)
  · exact absurd (hmacOS _ _ (by decide) (by decide) hsame) (by decide)

end PingTun
