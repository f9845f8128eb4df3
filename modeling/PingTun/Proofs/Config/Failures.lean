-- SUMMARY: What is reported of a file that is refused, that ends, or that cannot be read to its end.
import PingTun.Proofs.Config.Documents
import PingTun.Proofs.Json.Foresight

/-! # Files that fail

Only a file that does not exist stands for the defaults. Of any other one, either all that is in it
is a configuration, or an error is reported: that the file was refused, that reading it failed, or
that what was read of it is no front of any configuration. A read that was only interrupted is
taken up again, and so is no failure.
-/

namespace PingTun

open Json.Reader (Foresees)

/-! ## Readers -/

namespace Json.Reader.Foresees

theorem word32 : Foresees word32 := (nat (UInt32.size - 1) "u32").map Nat.toUInt32

theorem word64 : Foresees word64 := (nat (UInt64.size - 1) "u64").map Nat.toUInt64

theorem network : Foresees network := text "a string" _

end Json.Reader.Foresees

theorem TunnelConfig.foresees : reader.Foresees := by
  apply Foresees.record
  refine List.forall_mem_cons.mpr ⟨?_, List.forall_mem_singleton.mpr ?_⟩
  · exact Json.Field.foresees_put Foresees.word32 _ _
  · exact Json.Field.foresees_put Foresees.word32 _ _

theorem ProbeConfig.foresees : reader.Foresees := by
  apply Foresees.record
  refine List.forall_mem_cons.mpr ⟨?_, List.forall_mem_cons.mpr ⟨?_,
    List.forall_mem_singleton.mpr ?_⟩⟩
  · exact Json.Field.foresees_put (Foresees.bool "a boolean") _ _
  · exact Json.Field.foresees_put Foresees.word64 _ _
  · exact Json.Field.foresees_put Foresees.network _ _

theorem Errno.kind_eq_notFound {e : Errno} : e.kind = .notFound ↔ e = .noSuchFile := by
  obtain ⟨code⟩ := e
  rw [kind, noSuchFile]
  split <;> simp_all

namespace Config

theorem foresees : reader.Foresees := by
  apply Foresees.record
  refine List.forall_mem_cons.mpr ⟨?_, List.forall_mem_singleton.mpr ?_⟩
  · exact Json.Field.foresees_put TunnelConfig.foresees _ _
  · exact Json.Field.foresees_put ProbeConfig.foresees _ _

/-! ## Files -/

theorem load_opened (bytes : List UInt8) (failure : Option Errno) :
    (load (.opened bytes failure)).1 = ofBytes bytes failure := by
  rw [load]
  cases ofBytes bytes failure with
  | ok config => rfl
  | error e => rfl

/-- Only a file that does not exist is replaced by the defaults, whatever the system refuses. -/
theorem load_refused {cause : Errno} {config : Config} :
    (load (.refused (.os cause))).1 = .ok config ↔ cause = .noSuchFile ∧ config = {} := by
  by_cases hcause : cause = .noSuchFile
  · rw [load, IoError.kind, if_pos (Errno.kind_eq_notFound.mpr hcause), Except.ok.injEq]
    exact ⟨fun hconfig => ⟨hcause, hconfig.symm⟩, fun h => h.2.symm⟩
  · rw [load, IoError.kind, if_neg (mt Errno.kind_eq_notFound.mp hcause)]
    simp [hcause]

/-- A link that leads to itself does exist. -/
example : (load (.refused (.os .linkLoop))).1 = .error (.refused (.os .linkLoop)) := rfl

/-- A text that has an end is loaded, or rejected; a document never as anything else than what it
describes. -/
theorem load_ended (bytes : List UInt8) :
    (∃ config, load (.opened bytes) = (.ok config, []) ∧
        ∀ d : Json.Document, d.bytes = bytes → of? d.value = some config) ∨
      ∃ flaw position,
        load (.opened bytes) = (.error (.rejected flaw position), [.configRejected]) ∧
          ∀ d : Json.Document, d.bytes = bytes → of? d.value = none := by
  cases hjson : ofJson bytes with
  | ok config =>
    have hload : load (.opened bytes) = (.ok config, []) := by simp only [load, ofBytes, hjson]
    refine .inl ⟨config, hload, ?_⟩
    rintro d rfl
    cases hvalue : of? d.value with
    | some config' =>
      cases (load_of_described hvalue).symm.trans hload
      rfl
    | none =>
      obtain ⟨flaw, position, hrejected⟩ := load_of_undescribed hvalue
      cases hrejected.symm.trans hload
  | error fault =>
    have hload : load (.opened bytes) =
        (.error (.rejected fault.flaw (fault.position bytes)), [.configRejected]) := by
      simp only [load, ofBytes, hjson]
    refine .inr ⟨fault.flaw, fault.position bytes, hload, ?_⟩
    rintro d rfl
    cases hvalue : of? d.value with
    | some config => cases (load_of_described hvalue).symm.trans hload
    | none => rfl

/-- A failure is reported, or a flaw in front of it that is there whatever comes behind. -/
theorem load_unended (bytes : List UInt8) (cause : Errno) :
    load (.opened bytes (some cause)) = (.error (.unreadable cause), [.configRejected]) ∨
      ∃ flaw position,
        load (.opened bytes (some cause)) = (.error (.rejected flaw position), [.configRejected]) ∧
          ∀ more, ∃ flaw' position', load (.opened (bytes ++ more)) =
            (.error (.rejected flaw' position'), [.configRejected]) := by
  cases hjson : ofJson bytes with
  | ok config => exact .inl (by simp only [load, ofBytes, hjson])
  | error fault =>
    cases hend : fault.sawEnd with
    | true => exact .inl (by simp only [load, ofBytes, hjson, hend, if_true])
    | false =>
      refine .inr ⟨fault.flaw, fault.position bytes, ?_, fun more => ?_⟩
      · simp only [load, ofBytes, hjson, hend, Bool.false_eq_true, if_false]
      · obtain ⟨fault', hmore⟩ := foresees.document_error hjson hend more
        refine ⟨fault'.flaw, fault'.position (bytes ++ more), ?_⟩
        simp only [load, ofBytes, ofJson, hmore]

/-- What is reported of any file. The defaults stand for one that does not exist, and for no other
one: what is loaded of a file is what all of it says, and what fails is told apart by where it
failed. -/
theorem load_file (file : File) :
    match file with
    | .refused cause =>
      load file =
        if cause.kind = .notFound then (.ok {}, [.noConfigFile]) else (.error (.refused cause), [])
    | .opened bytes none =>
      (∃ config, load file = (.ok config, []) ∧
          ∀ d : Json.Document, d.bytes = bytes → of? d.value = some config) ∨
        ∃ flaw position, load file = (.error (.rejected flaw position), [.configRejected]) ∧
          ∀ d : Json.Document, d.bytes = bytes → of? d.value = none
    | .opened bytes (some cause) =>
      load file = (.error (.unreadable cause), [.configRejected]) ∨
        ∃ flaw position, load file = (.error (.rejected flaw position), [.configRejected]) ∧
          ∀ more, ∃ flaw' position', load (.opened (bytes ++ more)) =
            (.error (.rejected flaw' position'), [.configRejected]) := by
  match file with
  | .refused cause => rfl
  | .opened bytes none => exact load_ended bytes
  | .opened bytes (some cause) => exact load_unended bytes cause

/-- Reading fails inside of a number, which nothing has been wrong with. -/
theorem load_file_cut :
    load (.opened (Text.utf8 "\x7b\"tunnel\":[3") (some .inputOutput)) =
      (.error (.unreadable .inputOutput), [.configRejected]) := by
  have hfile := load_file (.opened (Text.utf8 "\x7b\"tunnel\":[3") (some .inputOutput))
  rcases hfile with hcause | ⟨flaw, position, -, hmore⟩
  · exact hcause
  · obtain ⟨flaw', position', hload⟩ := hmore (Text.utf8 "2]\x7d")
    have hwhole : (load (.opened (Text.utf8 "\x7b\"tunnel\":[3" ++ Text.utf8 "2]\x7d"))).1 =
        .ok { tunnel := { firstUnit := 32 } } := by
      decide +kernel
    rw [hload] at hwhole
    cases hwhole

/-- A directory can be opened, and fails to be read before anything is wrong with it. This is said
of its text all the same. -/
theorem load_directory :
    let refusal : LoadError := .refused (.os .isADirectory)
    refusal.message = "could not read config: Is a directory (os error 21)" ∧
      ∃ e, load (.opened [] (some .isADirectory)) = (.error e, [.configRejected]) ∧
        e ≠ refusal ∧ e.message = "could not deserialize config: Is a directory (os error 21)" := by
  refine ⟨by decide +kernel, .unreadable .isADirectory, rfl, LoadError.noConfusion, ?_⟩
  decide +kernel

end Config

end PingTun
