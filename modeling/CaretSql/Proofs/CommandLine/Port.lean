import CaretSql.CommandLine.Arguments
import CaretSql.Proofs.CommandLine.Anchor
import CaretSql.Proofs.Connection.Given

/-! Whether arguments give a port. A switch that was taken in is kept in mind, so that the usual
port can be told from one that was asked for as long as the arguments are being read. -/

namespace CaretSql.CommandLine

open Connection

variable {switch : Switch} {v : List Char} {c c' : CommandLine}

theorem Switch.port_assign (h : switch.assign v c = .ok c') (hne : switch ≠ .port) :
    c'.port = c.port := by
  cases switch with
  | port => exact absurd rfl hne
  | config | maxHeight | logFile =>
    obtain ⟨_, -, h⟩ := bind_eq_ok.mp h
    obtain rfl := Except.ok.inj h
    rfl
  | mockEngine | help | version => cases h
  | host | database | user | connection | file | cursor | select | output =>
    obtain rfl := Except.ok.inj h
    rfl

theorem Switch.port_assignAlone (h : switch.assignAlone c = .ok c') : c'.port = c.port := by
  cases switch with
  | mockEngine | logFile =>
    obtain rfl := Except.ok.inj h
    rfl
  | _ => cases h

namespace Scan

variable {s t : Scan} {value attached : Option (List Char)} {text : List Char}

/-- A port that was not given is the usual one. -/
def Told (s : Scan) : Prop := .port ∉ s.seen → s.line.port = defaultPort

theorem take_eq_ok (h : take switch value s = .ok t) :
    ∃ line, t = { s with line, seen := switch :: s.seen } ∧
      (switch ≠ .port → line.port = s.line.port) := by
  unfold Scan.take at h
  dsimp only at h
  obtain ⟨-, h⟩ := check_eq_ok.mp h
  obtain ⟨-, h⟩ := check_eq_ok.mp h
  cases value with
  | none =>
    obtain ⟨line, hline, h⟩ := bind_eq_ok.mp h
    obtain rfl := Except.ok.inj h
    exact ⟨line, rfl, fun _ => Switch.port_assignAlone hline⟩
  | some v =>
    obtain ⟨line, hline, h⟩ := bind_eq_ok.mp h
    obtain rfl := Except.ok.inj h
    exact ⟨line, rfl, Switch.port_assign hline⟩

theorem Told.take (hs : s.Told) (h : take switch value s = .ok t) : t.Told := by
  obtain ⟨line, rfl, hline⟩ := take_eq_ok h
  intro hport
  obtain ⟨hne, hseen⟩ := not_or.mp (mt List.mem_cons.mpr hport)
  exact (hline (Ne.symm hne)).trans (hs hseen)

theorem Told.resolve (hs : s.Told) (h : s.resolve = .ok t) : t.Told := by
  unfold Scan.resolve at h
  split at h
  · obtain rfl := Except.ok.inj h
    exact hs
  · exact Told.take (s := { s with pending := none }) hs h

theorem Told.switched (hs : s.Told) (h : s.switched switch attached = .ok t) : t.Told := by
  unfold Scan.switched at h
  split at h
  · cases h
  · obtain ⟨u, hu, h⟩ := bind_eq_ok.mp h
    exact (hs.resolve hu).take h
  · obtain ⟨u, hu, h⟩ := bind_eq_ok.mp h
    exact (hs.resolve hu).take h
  · obtain ⟨u, hu, h⟩ := bind_eq_ok.mp h
    obtain rfl := Except.ok.inj h
    have htold : u.Told := hs.resolve hu
    exact htold

theorem Told.letters (hs : s.Told) (h : s.letters text = .ok t) : t.Told := by
  induction text generalizing s with
  | nil =>
    obtain rfl := Except.ok.inj h
    exact hs
  | cons c rest ih =>
    rw [Scan.letters] at h
    split at h
    · cases h
    · split at h
      · obtain ⟨u, hu, h⟩ := bind_eq_ok.mp h
        exact ih (hs.switched hu) h
      · split at h
        · exact hs.switched h
        · exact hs.switched h

theorem Told.long (hs : s.Told) (h : s.long text = .ok t) : t.Told := by
  unfold Scan.long at h
  dsimp only at h
  split at h
  · cases h
  · exact hs.switched h

theorem Told.free (hs : s.Told) (h : s.free text = .ok t) : t.Told := by
  unfold Scan.free at h
  obtain ⟨-, h⟩ := check_eq_ok.mp h
  obtain ⟨u, hu, h⟩ := bind_eq_ok.mp h
  obtain rfl := Except.ok.inj h
  have htold : u.Told := hs.resolve hu
  exact htold

theorem Told.step (hs : s.Told) (h : s.step text = .ok t) : t.Told := by
  unfold Scan.step at h
  split at h
  · exact hs.free h
  · split at h
    · obtain rfl := Except.ok.inj h
      exact hs
    · exact hs.long h
    · exact hs.letters h
    · split at h
      · obtain rfl := Except.ok.inj h
        exact hs
      · exact hs.free h

theorem Told.run {arguments : List (List Char)} (hs : s.Told)
    (h : arguments.foldlM Scan.step s = .ok t) : t.Told := by
  induction arguments generalizing s with
  | nil =>
    obtain rfl := Except.ok.inj h
    exact hs
  | cons text arguments ih =>
    rw [List.foldlM_cons] at h
    obtain ⟨u, hu, h⟩ := bind_eq_ok.mp h
    exact ih (hs.step hu) h

end Scan

def scanned (arguments : List (List Char)) : Except UsageError Scan := do
  (← arguments.foldlM Scan.step {}).resolve

theorem told_of_scanned {arguments : List (List Char)} {s : Scan} (h : scanned arguments = .ok s) :
    s.Told := by
  obtain ⟨t, ht, h⟩ := bind_eq_ok.mp h
  exact (Scan.Told.run (s := {}) (fun _ => rfl) ht).resolve h

theorem exists_scanned {arguments : List (List Char)} (h : parse arguments = .ok c) :
    ∃ s, scanned arguments = .ok s ∧ s.line = c := by
  obtain ⟨t, ht, h⟩ := bind_eq_ok.mp h
  obtain ⟨s, hs, h⟩ := bind_eq_ok.mp h
  refine ⟨s, bind_eq_ok.mpr ⟨t, ht, hs⟩, ?_⟩
  dsimp only at h
  obtain ⟨-, h⟩ := check_eq_ok.mp h
  obtain ⟨-, h⟩ := check_eq_ok.mp h
  exact Except.ok.inj h

end CaretSql.CommandLine
