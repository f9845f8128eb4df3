-- SUMMARY: Which configuration a run has, by what the path to it leads to in a directory.
import PingTun.CommandLine.Directory
import PingTun.CommandLine.Run
import PingTun.Proofs.Config.Failures

/-! # Paths to configurations

A path is gone along name by name, to a file, to a directory, or to a dead end. A run takes its
configuration from the file that the path leads to, and has the defaults if there is nothing there.
In any other case it ends before the system is asked for anything.
-/

namespace PingTun.CommandLine

namespace Directory

variable {d : Directory}

/-! ## Steps -/

/-- Why a path can not be gone along any further. -/
def deadEnds : List Errno := [.noSuchFile, .notADirectory, .nameTooLong]

/-- Whether a way leads to a directory, to a file of this one, or to a dead end. -/
def Leads (d : Directory) : Except Errno Place → Prop
  | .ok .here | .ok .elsewhere => True
  | .ok (.file bytes) => ∃ name, (name, bytes) ∈ d.files
  | .error cause => cause ∈ deadEnds

theorem leads_step {place : Place} (h : d.Leads (.ok place)) (name : String) :
    d.Leads (d.step place name) := by
  have hdead {cause : Errno} (hcause : cause ∈ deadEnds) : d.Leads (.error cause) := hcause
  cases place with
  | file bytes => exact hdead (by simp [deadEnds])
  | elsewhere =>
    simp only [step]
    split_ifs
    · exact h
    · trivial
    · exact hdead (by simp [deadEnds])
    · exact hdead (by simp [deadEnds])
  | here =>
    simp only [step]
    split_ifs
    · exact h
    · trivial
    · exact hdead (by simp [deadEnds])
    · cases hfind : d.files.find? (·.1 == name) with
      | none => exact hdead (by simp [deadEnds])
      | some entry => exact ⟨entry.1, List.mem_of_find?_eq_some hfind⟩

theorem leads_foldlM {place : Place} (h : d.Leads (.ok place)) (names : List String) :
    d.Leads (names.foldlM d.step place) := by
  induction names generalizing place with
  | nil => exact h
  | cons name names ih =>
    have hstep := leads_step h name
    rw [List.foldlM_cons]
    cases hnext : d.step place name with
    | error cause => rwa [hnext] at hstep
    | ok next => exact ih (hnext ▸ hstep)

/-! ## Paths -/

/-- A path leads to a file of the directory, which is read to its end, to a directory, or to a dead
end. -/
theorem lookUp_cases (d : Directory) (path : String) :
    (∃ name bytes, (name, bytes) ∈ d.files ∧ d.lookUp path = .opened bytes) ∨
      d.lookUp path = .opened [] (some .isADirectory) ∨
      ∃ cause ∈ deadEnds, d.lookUp path = .refused (.os cause) := by
  by_cases hempty : path = ""
  · exact .inr (.inr ⟨.noSuchFile, by simp [deadEnds], if_pos hempty⟩)
  by_cases hlong : greatestPathLength < path.utf8ByteSize
  · refine .inr (.inr ⟨.nameTooLong, by simp [deadEnds], ?_⟩)
    rw [lookUp, if_neg hempty, if_pos hlong]
  have hstart : d.Leads (.ok (if path.toList.head? = some '/' then .elsewhere else .here)) := by
    split
    · trivial
    · trivial
  have hway := leads_foldlM hstart ((path.toList.splitOn '/').map String.ofList)
  rw [lookUp, if_neg hempty, if_neg hlong]
  dsimp only
  generalize ((path.toList.splitOn '/').map String.ofList).foldlM d.step _ = way at hway
  match way, hway with
  | .error cause, hcause => exact .inr (.inr ⟨cause, hcause, rfl⟩)
  | .ok (.file bytes), ⟨name, hfile⟩ => exact .inl ⟨name, bytes, hfile, rfl⟩
  | .ok .here, _ => exact .inr (.inl rfl)
  | .ok .elsewhere, _ => exact .inr (.inl rfl)

/-- A name alone leads to its file. -/
theorem lookUp_name {name : String} {bytes : List UInt8}
    (hfile : d.files.find? (·.1 == name) = some (name, bytes)) (hslash : '/' ∉ name.toList)
    (hdots : name ∉ ["", ".", ".."]) (hlength : name.utf8ByteSize ≤ greatestNameLength) :
    d.lookUp name = .opened bytes := by
  simp only [List.mem_cons, List.not_mem_nil, or_false, not_or] at hdots
  obtain ⟨hempty, hdot, hdotdot⟩ := hdots
  have hshort : ¬ greatestPathLength < name.utf8ByteSize := by
    simp only [greatestNameLength, greatestPathLength] at hlength ⊢
    omega
  have hhead : name.toList.head? ≠ some '/' := fun hhead => hslash (List.mem_of_head? hhead)
  have hstep : d.step .here name = .ok (.file bytes) := by
    simp only [step, hempty, hdot, hdotdot, or_self, if_false, Nat.not_lt.mpr hlength, hfile]
  have hsplit : name.toList.splitOn '/' = [name.toList] := List.splitOn_eq_singleton hslash
  simp only [lookUp, if_neg hempty, if_neg hshort, if_neg hhead, hsplit, List.map_cons,
    List.map_nil, String.ofList_toList, List.foldlM_cons, List.foldlM_nil, hstep]
  rfl

end Directory

/-! ## Runs -/

/-- What becomes of a run whose configuration is at a path in a directory. Only one that is loaded
from a file of the directory, and the defaults where the path leads to nothing, let the command be
carried out. In all other cases the failure is told, and nothing has been asked of the system. -/
theorem run_of_path (s : Surroundings) (d : Directory) (identifier : UInt16) {words : List String}
    (host : Host) {path : String} {command : Command}
    (hwords : Invocation.ofWords words = .ok ⟨some path, command⟩) :
    (∃ config, (config = {} ∧ d.lookUp path = .refused (.os .noSuchFile) ∨
          ∃ name bytes, (name, bytes) ∈ d.files ∧ d.lookUp path = .opened bytes ∧
            Config.ofBytes bytes none = .ok config) ∧
        run s d.lookUp identifier words host =
          match command with
          | .ping a => ping s config.probe identifier a host
          | .tun mtu => tun Linux.control config.tunnel mtu host) ∨
      ∃ e, run s d.lookUp identifier words host =
        (.failureBecause ("failed to load config " ++ path) (Config.LoadError.message e), host) := by
  cases hload : (Config.load (d.lookUp path)).1 with
  | error e =>
    refine .inr ⟨e, ?_⟩
    simp only [run, hwords, configuration, hload]
    rfl
  | ok config =>
    refine .inl ⟨config, ?_, ?_⟩
    · rcases d.lookUp_cases path with
        ⟨name, bytes, hfile, hpath⟩ | hpath | ⟨cause, hcause, hpath⟩
      · rw [hpath, Config.load_opened] at hload
        exact .inr ⟨name, bytes, hfile, hpath, hload⟩
      · rw [hpath, Config.load_opened] at hload
        cases hload
      · rw [hpath] at hload
        obtain ⟨rfl, rfl⟩ := Config.load_refused.mp hload
        exact .inl ⟨rfl, hpath⟩
    · simp only [run, hwords, configuration, hload]
      cases command with
      | ping a => rfl
      | tun mtu => rfl

end PingTun.CommandLine
