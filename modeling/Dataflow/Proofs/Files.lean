import Dataflow.Files
import Dataflow.Proofs.Table

/-!
# Writing to trees of files

A path leads to a place for a file through directories only (`FileTree.Leads`), so writing a file
changes nothing about where paths lead (`Leads.files`). What was written is what is read under
the path afterwards (`read_of_write`), and the path can be written to again (`exists_write`).
-/

namespace Dataflow

/-- Two steps that may fail give something where both do. -/
theorem bind_eq_ok_iff {ε α β : Type} {x : Except ε α} {f : α → Except ε β} {b : β} :
    x >>= f = .ok b ↔ ∃ a, x = .ok a ∧ f a = .ok b := by
  cases x with
  | error e =>
      constructor
      · nofun
      · rintro ⟨a, same, -⟩
        cases same
  | ok a =>
      constructor
      · exact fun same => ⟨a, rfl, same⟩
      · rintro ⟨a, same, rest⟩
        cases same
        exact rest

namespace FileTree

variable {t t' : FileTree} {path content : String} {location : Location}

/-- The path leads to a place for a file. -/
def Leads (t : FileTree) (path : String) (location : Location) : Prop :=
  ∃ p place, Path.parse path = .ok p ∧ t.place p = .ok place ∧ p.isPlace = false ∧
    p.slashed = false ∧ t.entry place p.last = .ok location

/-- A write succeeds where the path leads to a place for a file, and puts the content there. -/
theorem write_eq_ok_iff : t.write path content = .ok t' ↔
    ∃ location, t.Leads path location ∧
      t' = { t with files := (location, content) :: t.files } := by
  unfold write Leads
  constructor
  · intro written
    obtain ⟨p, parsed, written⟩ := bind_eq_ok_iff.mp written
    obtain ⟨place, reached, written⟩ := bind_eq_ok_iff.mp written
    dsimp only at written
    split at written
    · cases written
    · rename_i file
      obtain ⟨location, entry, same⟩ := bind_eq_ok_iff.mp written
      cases same
      rw [Bool.or_eq_true, not_or, Bool.not_eq_true, Bool.not_eq_true] at file
      exact ⟨location, ⟨p, place, parsed, reached, file.1, file.2, entry⟩, rfl⟩
  · rintro ⟨location, ⟨p, place, parsed, reached, file, plain, entry⟩, rfl⟩
    simp [parsed, reached, file, plain, entry, bind, Except.bind, pure, Except.pure]

theorem read_of_leads (leads : t.Leads path location)
    (held : t.files.lookup location = some content) : t.read path = .ok content := by
  obtain ⟨p, place, parsed, reached, file, plain, entry⟩ := leads
  simp [read, parsed, reached, file, plain, entry, held, bind, Except.bind, pure, Except.pure]

/-- What files there are makes no difference to a way through directories. -/
theorem enter_files {files : List (Location × String)} {place next : Location} {name : String}
    (entered : t.enter place name = .ok next) :
    { t with files }.enter place name = .ok next := by
  unfold enter at *
  split at entered
  · rename_i here
    rwa [if_pos here]
  · rename_i notHere
    rw [if_neg notHere]
    split at entered
    · rename_i above
      rwa [if_pos above]
    · rename_i notAbove
      rw [if_neg notAbove]
      split at entered
      · cases entered
      · rename_i short
        rw [if_neg short]
        split at entered
        · rename_i directory
          rwa [if_pos directory]
        · -- only how this fails depends on the files
          split at entered <;> cases entered

/-- Whether a path can be walked depends on the directories alone, not on what files hold. -/
theorem place_files {files : List (Location × String)} {p : Path} {place : Location}
    (reached : t.place p = .ok place) : { t with files }.place p = .ok place := by
  unfold FileTree.place at *
  dsimp only
  generalize (if p.fromRoot = true then [] else t.current) = start at *
  generalize p.through = names at *
  induction names generalizing start with
  | nil => exact reached
  | cons name names ih =>
      obtain ⟨next, entered, rest⟩ := bind_eq_ok_iff.mp reached
      exact bind_eq_ok_iff.mpr ⟨next, enter_files entered, ih next rest⟩

theorem Leads.files (leads : t.Leads path location) (files : List (Location × String)) :
    { t with files }.Leads path location := by
  obtain ⟨p, place, parsed, reached, file, plain, entry⟩ := leads
  exact ⟨p, place, parsed, place_files reached, file, plain, entry⟩

/-- What was written under a path is read under it. -/
theorem read_of_write (written : t.write path content = .ok t') : t'.read path = .ok content := by
  obtain ⟨location, leads, rfl⟩ := write_eq_ok_iff.mp written
  exact read_of_leads (leads.files _) (by rw [List.lookup_cons_self])

/-- A path that was written to can be written to again. -/
theorem exists_write (written : t.write path content = .ok t') (more : String) :
    ∃ t'', t'.write path more = .ok t'' := by
  obtain ⟨location, leads, rfl⟩ := write_eq_ok_iff.mp written
  exact ⟨_, write_eq_ok_iff.mpr ⟨location, leads.files _, rfl⟩⟩

end FileTree

end Dataflow
