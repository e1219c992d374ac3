/-
This file is a tree of files and directories, each a list of names from the root,
with the operations that make a directory with all its parents, write a file, and
remove what lies below a path. Names are of any type; paths with steps to the same
or the parent directory are resolved against a base.
-/

import Mathlib.Data.List.Dedup
import Mathlib.Data.List.Infix

namespace PairDriver

structure FileTree (Name : Type) where
  files : List (List Name) := []
  directories : List (List Name) := []
deriving DecidableEq

section FileTree

variable {Name : Type} [DecidableEq Name]

/-! ### Operations -/

/-- There is a file or a directory at the path. -/
def FileTree.has (tree : FileTree Name) (path : List Name) : Bool :=
  path ∈ tree.files ∨ path ∈ tree.directories

/-- Makes a directory and its parents, unless a file is in the way. -/
def FileTree.makeDirectory (tree : FileTree Name) (path : List Name) : Option (FileTree Name) :=
  if path.inits.any fun parent => parent ∈ tree.files then none
  else some { tree with directories := path.inits ++ tree.directories }

/-- Writes a file into a directory that exists, unless a directory is in the way. -/
def FileTree.writeFile (tree : FileTree Name) (path : List Name) : Option (FileTree Name) :=
  if path.dropLast ∈ tree.directories ∧ path ∉ tree.directories then
    some { tree with files := path :: tree.files }
  else none

/-- Removes what is `gone` of a path and what lies below it. -/
def FileTree.remove (tree : FileTree Name) (path : List Name) (gone : List Name → Bool) :
    FileTree Name where
  files := tree.files.filter fun file => ¬(path <+: file ∧ gone file)
  directories := tree.directories.filter fun directory => ¬(path <+: directory ∧ gone directory)

/-- The files that a removal removes. -/
def FileTree.removed (tree : FileTree Name) (path : List Name) (gone : List Name → Bool) :
    List (List Name) :=
  tree.files.filter fun file => path <+: file ∧ gone file

/-- The directories directly in a directory. -/
def FileTree.children (tree : FileTree Name) (path : List Name) : List (List Name) :=
  (tree.directories.filter fun directory => directory ≠ [] ∧ directory.dropLast = path).dedup

/-- Removes one file. -/
def FileTree.removeFile (tree : FileTree Name) (path : List Name) : FileTree Name :=
  { tree with files := tree.files.filter fun file => file ≠ path }

/-- Removes one directory, which is to be empty. -/
def FileTree.removeDirectory (tree : FileTree Name) (path : List Name) : FileTree Name :=
  { tree with directories := tree.directories.filter fun directory => directory ≠ path }

/-- A directory with nothing in it. -/
def FileTree.isEmptyDirectory (tree : FileTree Name) (path : List Name) : Bool :=
  path ∈ tree.directories ∧ ∀ other ∈ tree.files ++ tree.directories, path <+: other → other = path

/-- Makes the parent of a path, if nothing is there. -/
def FileTree.ensureParent (tree : FileTree Name) (path : List Name) : Option (FileTree Name) :=
  if tree.has path.dropLast then some tree else tree.makeDirectory path.dropLast

/-- Removes a directory below the root and its parents, up to the first that is not empty; it
looks at no more than so many. -/
def FileTree.pruneParents (root : List Name) : Nat → FileTree Name → List Name → FileTree Name
  | 0, tree, _ => tree
  | count + 1, tree, path =>
    if root <+: path ∧ tree.isEmptyDirectory path then
      pruneParents root count (tree.removeDirectory path) path.dropLast
    else tree

/-! ### What the operations do to files -/

variable {tree after : FileTree Name} {path file : List Name} {gone : List Name → Bool}

theorem files_makeDirectory (made : tree.makeDirectory path = some after) :
    after.files = tree.files := by
  unfold FileTree.makeDirectory at made
  split at made
  · cases made
  · cases made
    rfl

theorem files_writeFile (written : tree.writeFile path = some after) :
    after.files = path :: tree.files := by
  unfold FileTree.writeFile at written
  split at written
  · cases written
    rfl
  · cases written

theorem mem_files_remove : file ∈ (tree.remove path gone).files ↔
    file ∈ tree.files ∧ ¬(path <+: file ∧ gone file = true) := by
  rw [FileTree.remove, List.mem_filter, decide_eq_true_eq]

theorem mem_files_removeFile : file ∈ (tree.removeFile path).files ↔
    file ∈ tree.files ∧ file ≠ path := by
  rw [FileTree.removeFile, List.mem_filter, decide_eq_true_eq]

theorem files_ensureParent (made : tree.ensureParent path = some after) :
    after.files = tree.files := by
  unfold FileTree.ensureParent at made
  split at made
  · cases made
    rfl
  · exact files_makeDirectory made

theorem files_pruneParents (root : List Name) (count : Nat) :
    (tree.pruneParents root count path).files = tree.files := by
  induction count generalizing tree path with
  | zero => rfl
  | succ count inductionHypothesis =>
    unfold FileTree.pruneParents
    split
    · exact inductionHypothesis
    · rfl

theorem mem_removed : file ∈ tree.removed path gone ↔
    file ∈ tree.files ∧ path <+: file ∧ gone file = true := by
  rw [FileTree.removed, List.mem_filter, decide_eq_true_eq]

/-- A child adds one name to the path. -/
theorem exists_of_mem_children {child : List Name} (member : child ∈ tree.children path) :
    ∃ name, child = path ++ [name] := by
  obtain ⟨-, nonempty, rfl⟩ :
      child ∈ tree.directories ∧ child ≠ [] ∧ child.dropLast = path := by
    simpa [FileTree.children] using member
  exact ⟨child.getLast nonempty, (List.dropLast_append_getLast nonempty).symm⟩

/-! ### Resolution -/

/-- Follows names from a base: one for the same directory, one for the parent, and others, of
which the file system knows the canonical form. -/
def resolve (same parent : Name) (canonical : Name → Name) (base names : List Name) : List Name :=
  names.foldl (fun path name =>
    if name = same then path else if name = parent then path.dropLast
    else path ++ [canonical name]) base

end FileTree

end PairDriver
