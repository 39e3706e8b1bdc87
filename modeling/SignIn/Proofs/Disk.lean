import SignIn.Disk
import SignIn.Proofs.Text.Utf8

/-!
# Files that have been written

A file that has been written is found again, and it can be written once more: neither the way down
to it nor the directories made for it have changed.

## Main definitions

* `Disk.IsWritable` — a path at which a file can be written.

## Main results

* `Disk.read_write` — **what has been written is read.**
* `Disk.createDirectories_write`, `Disk.write_write` — the same path can be written again.
-/

namespace SignIn.Disk

open SignIn.Text

/-! ### Ways down -/

theorem descend_cons_ok {disk : Disk} {start : Place} {name : String} {names : List String} :
    disk.descend start (name :: names) = .ok () ↔
      disk.node? (start ++ [name]) = some .directory ∧
        disk.descend (start ++ [name]) names = .ok () := by
  rw [descend]
  cases h : disk.node? (start ++ [name]) with
  | none => simp
  | some node =>
    cases node with
    | directory => simp
    | file content => simp

/-- A way down stays one if no directory on it is lost. -/
theorem descend_of_directories {disk disk' : Disk}
    (h : ∀ place, disk.node? place = some .directory → disk'.node? place = some .directory)
    {start : Place} {names : List String} (hdown : disk.descend start names = .ok ()) :
    disk'.descend start names = .ok () := by
  induction names generalizing start with
  | nil => rfl
  | cons name names ih =>
    obtain ⟨hdirectory, hdown⟩ := descend_cons_ok.1 hdown
    exact descend_cons_ok.2 ⟨h _ hdirectory, ih hdown⟩

/-- Where no directory is, none is lost. -/
theorem directory_put {disk : Disk} {place other : Place} {node : Node}
    (hplace : disk.node? place ≠ some .directory) (h : disk.node? other = some .directory) :
    (disk.put place node).node? other = some .directory := by
  have hne : other ≠ place := by
    rintro rfl
    exact hplace h
  rw [node?_put_of_ne disk hne, h]

/-! ### Created directories -/

theorem directory_createFrom {disk made : Disk} {start : Place} {names : List String}
    (h : disk.createFrom start names = .ok made) {place : Place}
    (hplace : disk.node? place = some .directory) : made.node? place = some .directory := by
  induction names generalizing disk start with
  | nil =>
    obtain rfl : disk = made := Except.ok.inj h
    exact hplace
  | cons name names ih =>
    rw [createFrom] at h
    split at h
    · rename_i hnone
      exact ih h (directory_put (by rw [hnone]; exact nofun) hplace)
    · exact ih h hplace
    · exact nomatch h

/-- The directories that have been created lead down. -/
theorem descend_createFrom {disk made : Disk} {start : Place} {names : List String}
    (h : disk.createFrom start names = .ok made) : made.descend start names = .ok () := by
  induction names generalizing disk start with
  | nil => rfl
  | cons name names ih =>
    rw [createFrom] at h
    split at h
    · have hplace : start ++ [name] ≠ [] := List.concat_ne_nil name start
      exact descend_cons_ok.2 ⟨directory_createFrom h (node?_put_self disk hplace _), ih h⟩
    · rename_i hdirectory
      exact descend_cons_ok.2 ⟨directory_createFrom h hdirectory, ih h⟩
    · exact nomatch h

/-- Nothing is created where directories lead down. -/
theorem createFrom_of_descend {disk : Disk} {start : Place} {names : List String}
    (h : disk.descend start names = .ok ()) : disk.createFrom start names = .ok disk := by
  induction names generalizing start with
  | nil => rfl
  | cons name names ih =>
    obtain ⟨hdirectory, hdown⟩ := descend_cons_ok.1 h
    rw [createFrom]
    rw [hdirectory]
    exact ih hdown

/-! ### Written files -/

/-- What it takes to write a file, and what it leads to. -/
theorem write_ok {disk saved : Disk} {path : String} {content : Bytes} :
    disk.write path content = .ok saved ↔
      disk.descend [] (placeOf path).dropLast = .ok () ∧
        disk.node? (placeOf path) ≠ some .directory ∧
          saved = disk.put (placeOf path) (.file content) := by
  rw [write]
  cases hdown : disk.descend [] (placeOf path).dropLast with
  | error fault => exact ⟨nofun, nofun⟩
  | ok _ =>
    simp only [bind, Except.bind, true_and]
    split
    · rename_i hdirectory
      exact ⟨nofun, fun h => (h.1 hdirectory).elim⟩
    · rename_i hother
      refine ⟨fun h => ⟨hother, (Except.ok.inj h).symm⟩, fun h => ?_⟩
      rw [h.2]
      rfl

variable {disk saved : Disk} {path : String} {content : Bytes}

/-- The root is a directory. -/
theorem placeOf_ne_nil (h : disk.node? (placeOf path) ≠ some .directory) : placeOf path ≠ [] := by
  intro hroot
  rw [hroot] at h
  exact h rfl

theorem node?_write (h : disk.write path content = .ok saved) :
    saved.node? (placeOf path) = some (.file content) := by
  obtain ⟨-, hplace, rfl⟩ := write_ok.1 h
  exact node?_put_self disk (placeOf_ne_nil hplace) _

/-- A written file is on no way down. -/
theorem descend_write (h : disk.write path content = .ok saved) {start : Place}
    {names : List String} (hdown : disk.descend start names = .ok ()) :
    saved.descend start names = .ok () := by
  obtain ⟨-, hplace, rfl⟩ := write_ok.1 h
  exact descend_of_directories (fun place => directory_put hplace) hdown

/-- **What has been written is read.** -/
theorem read_write (h : disk.write path content = .ok saved) : saved.read path = .ok content := by
  have hdown := descend_write h (write_ok.1 h).1
  rw [read, hdown]
  simp only [bind, Except.bind, node?_write h]
  rfl

theorem readText_of_read {text : String} (h : disk.read path = .ok (Utf8.encode text)) :
    disk.readText path = .ok text := by
  rw [readText, h]
  simp only [bind, Except.bind, Utf8.decode?_encode]
  rfl

/-- The directories for a written file are there. -/
theorem createDirectories_write {before : Disk} {directory : String}
    (hmade : before.createDirectories directory = .ok disk)
    (h : disk.write path content = .ok saved) :
    saved.createDirectories directory = .ok saved :=
  createFrom_of_descend (descend_write h (descend_createFrom hmade))

/-- A file can be written with any content where it can be written with some. -/
theorem write_of_write (h : disk.write path content = .ok saved) (content' : Bytes) :
    ∃ saved', disk.write path content' = .ok saved' := by
  obtain ⟨hdown, hplace, -⟩ := write_ok.1 h
  exact ⟨_, write_ok.2 ⟨hdown, hplace, rfl⟩⟩

/-- **A written file can be written again.** -/
theorem write_write (h : disk.write path content = .ok saved) (content' : Bytes) :
    ∃ again, saved.write path content' = .ok again := by
  refine ⟨_, write_ok.2 ⟨descend_write h (write_ok.1 h).1, ?_, rfl⟩⟩
  rw [node?_write h]
  exact nofun

/-- A file can be written at the path, once the directory for it has been created. -/
def IsWritable (disk : Disk) (path : String) : Prop :=
  ∃ made saved, disk.createDirectories (parentOf path) = .ok made ∧ made.write path [] = .ok saved

end SignIn.Disk
