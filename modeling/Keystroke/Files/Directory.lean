import Keystroke.Files.Tree

/-! A tree that is written down by the paths of its files. -/
namespace Keystroke.Files

/-- The files around a directory in which a program works. Their paths may lead out of it, and one that ends in a slash
is that of a directory. -/
structure Directory where
  files : List (String × String)

namespace Directory

def home : List String :=
  ["home"]

def wayOf (path : String) : List String :=
  (parts path).foldl Tree.step (if isAbsolute path then [] else home)

/-- The way to the directory of a file, and that to a directory itself. -/
def wayToDirectory (path : String) : List String :=
  if Tree.endsInSlash path then wayOf path else (wayOf path).dropLast

def hasDirectory (d : Directory) (way : List String) : Bool :=
  (home :: d.files.map fun file => wayToDirectory file.1).any way.isPrefixOf

def lookup? (d : Directory) (way : List String) : Option Entry :=
  if d.hasDirectory way then some .directory
  else (d.files.find? fun file => wayOf file.1 == way).map fun file => .file file.2

theorem hasDirectory_iff {d : Directory} {way : List String} :
    d.hasDirectory way ↔ ∃ other ∈ home :: d.files.map fun file => wayToDirectory file.1, way <+: other := by
  simp only [hasDirectory, List.any_eq_true, List.isPrefixOf_iff_prefix]

theorem lookup_closed (d : Directory) (way : List String) (name : String) (h : (d.lookup? (way ++ [name])).isSome) :
    d.lookup? way = some .directory := by
  apply if_pos
  rw [hasDirectory_iff]
  unfold lookup? at h
  split at h
  · rename_i hdirectory
    obtain ⟨other, hother, hle⟩ := hasDirectory_iff.mp hdirectory
    exact ⟨other, hother, (List.prefix_append _ _).trans hle⟩
  · obtain ⟨file, hfile⟩ := Option.isSome_iff_exists.mp (Option.isSome_map.symm.trans h)
    have hway : wayOf file.1 = way ++ [name] := by simpa using List.find?_some hfile
    refine ⟨wayToDirectory file.1, ?_, ?_⟩
    · exact List.mem_cons_of_mem _ (List.mem_map_of_mem (List.mem_of_find?_eq_some hfile))
    · rw [wayToDirectory, hway, List.dropLast_concat]
      split
      · exact List.prefix_append _ _
      · exact List.prefix_rfl

theorem lookup_home (d : Directory) : d.lookup? home = some .directory :=
  if_pos (hasDirectory_iff.mpr ⟨home, List.mem_cons_self, List.prefix_rfl⟩)

def tree (d : Directory) : Tree where
  lookup? := d.lookup?
  working := home
  closed := d.lookup_closed
  working_directory := d.lookup_home

def access (d : Directory) : Access :=
  d.tree.access

end Directory

end Keystroke.Files
