import Mathlib.Logic.Function.Basic

namespace Lib

universe u v

/-!
# Names and files

A directory maps names to files.  A file that is open stays what it is when its
name is removed, so files are kept apart from names, by number.  No file has two
names, and a file made under a free name is a new one; the structure carries
both.

`create` opens a name for writing, which empties the file behind it or makes
one; `overwrite` puts bytes at the start of a file; `unlink` removes a name.
`Cleaned` is what a list of these leaves that removes some names, empties the
files of others and leaves the rest alone.
-/

/-- What a map holds after an update was put there, or held before. -/
theorem update_cases {Key : Type u} {Value : Type v} [DecidableEq Key] {map : Key -> Value}
    {key other : Key} {value found : Value}
    (holds : Function.update map key value other = found) :
    (other = key ∧ value = found) ∨ (other ≠ key ∧ map other = found) := by
  by_cases same : other = key
  · rw [same, Function.update_self] at holds
    exact Or.inl ⟨same, holds⟩
  · rw [Function.update_of_ne same] at holds
    exact Or.inr ⟨same, holds⟩

structure Disk (Name : Type u) (Byte : Type v) where
  names : Name -> Option Nat
  content : Nat -> List Byte
  used : Nat
  named : forall name file, names name = some file -> file < used
  single : forall first second file, names first = some file -> names second = some file ->
    first = second

namespace Disk

variable {Name : Type u} {Byte : Type v}

/-- No name and no file. -/
def empty : Disk Name Byte where
  names := fun _ => none
  content := fun _ => []
  used := 0
  named := fun _ _ impossible => nomatch impossible
  single := fun _ _ _ impossible => nomatch impossible

/-- Put bytes at the start of a file, over those that are there. -/
def overwrite (disk : Disk Name Byte) (file : Nat) (bytes : List Byte) : Disk Name Byte :=
  { disk with
    content := Function.update disk.content file
      (bytes ++ (disk.content file).drop bytes.length) }

/-- Empty a file. -/
def truncate (disk : Disk Name Byte) (file : Nat) : Disk Name Byte :=
  { disk with content := Function.update disk.content file [] }

theorem overwrite_self (disk : Disk Name Byte) {file : Nat} (bytes : List Byte)
    (vacant : disk.content file = []) : (disk.overwrite file bytes).content file = bytes := by
  have placed : (disk.overwrite file bytes).content file =
      bytes ++ (disk.content file).drop bytes.length := Function.update_self ..
  rw [placed, vacant, List.drop_nil, List.append_nil]

theorem overwrite_of_ne (disk : Disk Name Byte) {file other : Nat} (bytes : List Byte)
    (apart : other ≠ file) : (disk.overwrite file bytes).content other = disk.content other :=
  Function.update_of_ne apart ..

variable [DecidableEq Name]

/-- Remove a name. -/
def unlink (disk : Disk Name Byte) (name : Name) : Disk Name Byte where
  names := Function.update disk.names name none
  content := disk.content
  used := disk.used
  named := by
    intro other file found
    rcases update_cases found with ⟨_, impossible⟩ | ⟨_, before⟩
    · cases impossible
    · exact disk.named other file before
  single := by
    intro first second file here there
    rcases update_cases here with ⟨_, impossible⟩ | ⟨_, before⟩
    · cases impossible
    rcases update_cases there with ⟨_, impossible⟩ | ⟨_, before'⟩
    · cases impossible
    · exact disk.single first second file before before'

theorem unlink_self (disk : Disk Name Byte) (name : Name) : (disk.unlink name).names name = none :=
  Function.update_self ..

theorem unlink_of_ne (disk : Disk Name Byte) {name other : Name} (apart : other ≠ name) :
    (disk.unlink name).names other = disk.names other :=
  Function.update_of_ne apart ..

/-- Make a file under a name. -/
def link (disk : Disk Name Byte) (name : Name) : Disk Name Byte where
  names := Function.update disk.names name (some disk.used)
  content := Function.update disk.content disk.used []
  used := disk.used + 1
  named := by
    intro other file found
    rcases update_cases found with ⟨_, made⟩ | ⟨_, before⟩
    · cases made
      exact Nat.lt_succ_self disk.used
    · exact Nat.lt_succ_of_lt (disk.named other file before)
  single := by
    intro first second file here there
    rcases update_cases here with ⟨same, made⟩ | ⟨_, before⟩
    · rcases update_cases there with ⟨same', _⟩ | ⟨_, before'⟩
      · exact same.trans same'.symm
      · cases made
        exact absurd (disk.named second disk.used before') (Nat.lt_irrefl _)
    · rcases update_cases there with ⟨_, made⟩ | ⟨_, before'⟩
      · cases made
        exact absurd (disk.named first disk.used before) (Nat.lt_irrefl _)
      · exact disk.single first second file before before'

/-- Open a name for writing: the disk behind, and the file. -/
def create (disk : Disk Name Byte) (name : Name) : Disk Name Byte × Nat :=
  match disk.names name with
  | some file => (disk.truncate file, file)
  | none => (disk.link name, disk.used)

theorem create_named {disk : Disk Name Byte} {name : Name} {file : Nat}
    (found : disk.names name = some file) : disk.create name = (disk.truncate file, file) := by
  rw [create, found]

theorem create_free {disk : Disk Name Byte} {name : Name} (free : disk.names name = none) :
    disk.create name = (disk.link name, disk.used) := by
  rw [create, free]

/-- The name has the file that was opened. -/
theorem create_names (disk : Disk Name Byte) (name : Name) :
    (disk.create name).1.names name = some (disk.create name).2 := by
  cases found : disk.names name with
  | some file =>
      rw [create_named found]
      exact found
  | none =>
      rw [create_free found]
      exact Function.update_self ..

theorem create_names_of_ne (disk : Disk Name Byte) {name other : Name} (apart : other ≠ name) :
    (disk.create name).1.names other = disk.names other := by
  cases found : disk.names name with
  | some file => rw [create_named found, truncate]
  | none =>
      rw [create_free found]
      exact Function.update_of_ne apart ..

/-- A name that had a file has it still. -/
theorem create_names_kept {disk : Disk Name Byte} (name : Name) {other : Name} {file : Nat}
    (found : disk.names other = some file) : (disk.create name).1.names other = some file := by
  by_cases same : other = name
  · rw [same] at found
    rw [same, create_named found]
    exact found
  · rw [create_names_of_ne disk same]
    exact found

/-- The file that was opened is empty. -/
theorem create_content (disk : Disk Name Byte) (name : Name) :
    (disk.create name).1.content (disk.create name).2 = [] := by
  cases found : disk.names name with
  | some file =>
      rw [create_named found]
      exact Function.update_self ..
  | none =>
      rw [create_free found]
      exact Function.update_self ..

/-- The others are as they were. -/
theorem create_content_of_ne (disk : Disk Name Byte) (name : Name) {file : Nat}
    (apart : file ≠ (disk.create name).2) :
    (disk.create name).1.content file = disk.content file := by
  cases found : disk.names name with
  | some opened =>
      rw [create_named found] at apart ⊢
      exact Function.update_of_ne apart ..
  | none =>
      rw [create_free found] at apart ⊢
      exact Function.update_of_ne apart ..

theorem create_used (disk : Disk Name Byte) (name : Name) :
    disk.used ≤ (disk.create name).1.used := by
  cases found : disk.names name with
  | some file =>
      rw [create_named found]
      exact Nat.le_refl _
  | none =>
      rw [create_free found]
      exact Nat.le_succ _

/-! ## Cleaning -/

/-- Some names are gone, some files are empty, and all else is as it was. -/
structure Cleaned (removed cleared : Name -> Prop) (before after : Disk Name Byte) : Prop where
  gone : forall name, removed name -> after.names name = none
  empty : forall name, cleared name -> Exists fun file =>
    after.names name = some file ∧ after.content file = []
  kept : forall name, ¬ removed name -> ¬ cleared name -> after.names name = before.names name
  same : forall name file, ¬ cleared name -> after.names name = some file ->
    after.content file = before.content file

namespace Cleaned

variable {removed cleared removed' cleared' : Name -> Prop}
variable {before middle after : Disk Name Byte}

omit [DecidableEq Name] in
theorem refl (disk : Disk Name Byte) : Cleaned (fun _ => False) (fun _ => False) disk disk where
  gone := fun _ impossible => impossible.elim
  empty := fun _ impossible => impossible.elim
  kept := fun _ _ _ => rfl
  same := fun _ _ _ _ => rfl

theorem unlink (disk : Disk Name Byte) (name : Name) :
    Cleaned (· = name) (fun _ => False) disk (disk.unlink name) where
  gone := by
    rintro _ rfl
    exact disk.unlink_self _
  empty := fun _ impossible => impossible.elim
  kept := fun _ apart _ => disk.unlink_of_ne apart
  same := fun _ _ _ _ => rfl

theorem create (disk : Disk Name Byte) (name : Name) :
    Cleaned (fun _ => False) (· = name) disk (disk.create name).1 where
  gone := fun _ impossible => impossible.elim
  empty := by
    rintro _ rfl
    exact ⟨_, disk.create_names _, disk.create_content _⟩
  kept := fun _ _ apart => disk.create_names_of_ne apart
  same := by
    intro other file apart found
    refine disk.create_content_of_ne name fun same => apart ?_
    rw [same] at found
    exact (disk.create name).1.single _ _ _ found (disk.create_names name)

omit [DecidableEq Name] in
/-- One cleaning behind another, where none undoes what the other has done. -/
theorem trans (first : Cleaned removed cleared before middle)
    (second : Cleaned removed' cleared' middle after)
    (removedApart : forall name, removed name -> ¬ cleared' name)
    (clearedApart : forall name, cleared name -> ¬ removed' name) :
    Cleaned (fun name => removed name ∨ removed' name) (fun name => cleared name ∨ cleared' name)
      before after where
  gone := by
    rintro name (early | late)
    · by_cases again : removed' name
      · exact second.gone name again
      · rw [second.kept name again (removedApart name early)]
        exact first.gone name early
    · exact second.gone name late
  empty := by
    rintro name (early | late)
    · by_cases again : cleared' name
      · exact second.empty name again
      · rcases first.empty name early with ⟨file, named, emptied⟩
        have kept := second.kept name (clearedApart name early) again
        refine ⟨file, kept.trans named, ?_⟩
        rw [second.same name file again (kept.trans named)]
        exact emptied
    · exact second.empty name late
  kept := by
    intro name noRemoved noCleared
    rcases not_or.mp noRemoved with ⟨early, late⟩
    rcases not_or.mp noCleared with ⟨early', late'⟩
    rw [second.kept name late late', first.kept name early early']
  same := by
    intro name file noCleared found
    rcases not_or.mp noCleared with ⟨early, late⟩
    have there : ¬ removed' name := by
      intro gone
      rw [second.gone name gone] at found
      cases found
    rw [second.same name file late found]
    rw [second.kept name there late] at found
    exact first.same name file early found

omit [DecidableEq Name] in
theorem congr (cleaned : Cleaned removed cleared before after)
    (removes : forall name, removed' name ↔ removed name)
    (clears : forall name, cleared' name ↔ cleared name) :
    Cleaned removed' cleared' before after := by
  have same : removed' = removed := funext fun name => propext (removes name)
  have same' : cleared' = cleared := funext fun name => propext (clears name)
  rw [same, same']
  exact cleaned

end Cleaned

end Disk
end Lib
