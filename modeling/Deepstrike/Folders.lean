import Mathlib.Data.List.Basic
import Std.Data.ExtTreeMap

/-!
A folder of numbered files. A name is claimed by an atomic link that fails when it is taken, and freed by
an unlink. A listing is not atomic: it gives every name that is there all the while, and of the others
those that were there at some time.
-/
namespace Deepstrike.Folders
open Std

/-- A file that was linked, and the call that linked it. -/
structure Made (α : Type) where
  author : Nat
  name : Nat
  content : α
  deriving DecidableEq,Repr

/-- The files by name, with all that were ever linked. -/
structure Folder (α : Type) where
  files : ExtTreeMap Nat α
  made : List (Made α)

/-- What a listing begins with: the names at its opening, and how many links were made before. -/
structure Listing where
  names : List Nat
  since : Nat
  deriving DecidableEq,Repr

namespace Folder
variable {α : Type}

def empty : Folder α := ⟨∅,[]⟩

def read (folder : Folder α) (name : Nat) : Option α := folder.files[name]?

/-- Claim a name; whether it was free. -/
def link (folder : Folder α) (author name : Nat) (content : α) : Bool × Folder α :=
  if name ∈ folder.files then (false,folder)
  else (true,⟨folder.files.insert name content,folder.made ++ [⟨author,name,content⟩]⟩)

def unlink (folder : Folder α) (name : Nat) : Folder α := { folder with files := folder.files.erase name }

def opening (folder : Folder α) : Listing := ⟨folder.files.keys,folder.made.length⟩

/-- The names linked since a listing began. -/
def linkedSince (folder : Folder α) (listing : Listing) : List Nat := (folder.made.drop listing.since).map Made.name

/-- A listing may end with names when it misses none that was there all the while, and all were there at
    some time. -/
def ends (folder : Folder α) (listing : Listing) (names : List Nat) : Bool :=
  (listing.names.all fun name => !folder.files.contains name || (folder.linkedSince listing).contains name || names.contains name) &&
    names.all fun name => listing.names.contains name || (folder.linkedSince listing).contains name

@[simp] theorem made_unlink (folder : Folder α) (name : Nat) : (folder.unlink name).made = folder.made := rfl

theorem read_unlink (folder : Folder α) (name other : Nat) :
    (folder.unlink name).read other = if name = other then none else folder.read other := by
  unfold read unlink
  rw [ExtTreeMap.getElem?_erase]
  simp only [LawfulEqCmp.compare_eq_iff_eq]

variable {folder : Folder α} {name : Nat} {content : α}

theorem read_of_read_unlink {other : Nat} (held : (folder.unlink name).read other = some content) :
    folder.read other = some content := by
  rw [read_unlink] at held
  split at held
  · cases held
  · exact held

theorem read_eq_none : folder.read name = none ↔ name ∉ folder.files := by
  simp [read]

/-- A link that succeeds found the name free and fills it. -/
theorem link_free {after : Folder α} {author : Nat} (done : folder.link author name content = (true,after)) :
    folder.read name = none ∧ after.made = folder.made ++ [⟨author,name,content⟩] ∧
      ∀ other, after.read other = if name = other then some content else folder.read other := by
  unfold link at done
  split at done
  · cases done
  next free =>
  cases done
  refine ⟨read_eq_none.mpr free,rfl,fun other => ?_⟩
  unfold read
  rw [ExtTreeMap.getElem?_insert]
  simp only [LawfulEqCmp.compare_eq_iff_eq]

theorem link_taken {after : Folder α} {author : Nat} (done : folder.link author name content = (false,after)) :
    after = folder := by
  unfold link at done
  split at done
  · cases done
    rfl
  · cases done

end Folder

end Deepstrike.Folders
