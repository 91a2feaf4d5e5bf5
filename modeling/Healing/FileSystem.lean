/-
  Files and folders.

  What a path leads to depends on the folders on the way, which may not let through, and what is
  there may be impossible to list or to read; why that is so is part of a node.

  A link is what it leads to.  Left out are names that are no texts, limits on the lengths of names
  and paths, and whatever changes while files are read.

  1. **Nodes** - `FileNode`: a file with its octets, or a folder with its entries.
  2. **Paths** - `components` cuts a path at its slashes, and `walk` follows it.
  3. **Reading** - `FileSystem.find`, `FileSystem.isFile` and `FileSystem.readText`.
  4. **Folders** - `FileNode.changeAt` writes or removes an entry; `FileSystem.yamlFiles` are the
     files of a folder that are configuration files, by name.
-/
import Healing.Text.Search

namespace Healing

/-! ## Nodes -/

/-- Why a path does not lead to what is wanted, or why that cannot be read. -/
inductive FileFault where
  | notFound
  /-- The octets of the file are no text. -/
  | notText
  | isFolder
  /-- A path goes on behind a file. -/
  | notFolder
  /-- The rights to it are lacking. -/
  | denied
  /-- Anything else, in the words of the system. -/
  | other (detail : String)
deriving DecidableEq, Repr, Inhabited

/-- What cannot be done with a folder, and why. -/
structure FolderFaults where
  /-- It cannot be opened to be listed; a listing that breaks off counts as none. -/
  listing : Option FileFault := none
  /-- Nothing behind it can be reached, whether it is there or not. -/
  searching : Option FileFault := none
deriving DecidableEq, Repr, Inhabited

/-- What may be at the end of a path.  What can be opened has octets, or there is a reason why they
    cannot be read. -/
inductive FileNode where
  | file (content : Except FileFault ByteArray)
  /-- A pipe, a device or the like, which can be read but is no file. -/
  | special (content : Except FileFault ByteArray)
  /-- A folder, with its entries in the order in which they are listed. -/
  | folder (faults : FolderFaults) (entries : List (String × FileNode))
  /-- A link that cannot be followed. -/
  | broken (fault : FileFault)
deriving Inhabited

namespace FileNode

/-- Whether a node is a file. -/
def isFile : FileNode → Bool
  | .file _ => true
  | _ => false

/-- A node at the end of a path. -/
def reached : FileNode → Except FileFault FileNode
  | .broken fault => .error fault
  | node => .ok node

/-- The octets of a node.  A folder that can be opened has none. -/
def octets : FileNode → Except FileFault ByteArray
  | .file content => content
  | .special content => content
  | .folder faults _ => .error (faults.listing.getD .isFolder)
  | .broken fault => .error fault

/-- The text of a node. -/
def text (node : FileNode) : Except FileFault String := do
  let octets ← node.octets
  match String.fromUTF8? octets with
  | some text => .ok text
  | none => .error .notText

end FileNode

/-- All files, as seen from the folder in which relative paths start. -/
structure FileSystem where
  here : FileNode := .folder {} []
  /-- The folders around it, the innermost first; paths that start with a slash start at the
      last. -/
  around : List FileNode := []
deriving Inhabited

/-! ## Paths -/

/-- Cut a text at its slashes; `word` is what has been read since the last one, reversed. -/
def cutAtSlashes : List Char → List Char → List String
  | word, [] => [String.ofList word.reverse]
  | word, c :: r =>
    if c = '/' then String.ofList word.reverse :: cutAtSlashes [] r else cutAtSlashes (c :: word) r

/-- The components of a path.  Slashes in a row count as one; a slash at the end gives an empty
    component, which says that the path leads to a folder. -/
def components (path : String) : List String :=
  let names := cutAtSlashes [] path.toList
  names.filter (· ≠ "") ++ (if path.endsWith "/" then [""] else [])

/-- Follow components from a node; `around` are the folders around it, the innermost first. -/
def walk (around : List FileNode) (node : FileNode) : List String → Except FileFault FileNode
  | [] => node.reached
  | name :: r =>
    match node with
    | .file _ | .special _ => .error .notFolder
    | .broken fault => .error fault
    | .folder faults entries =>
      if name = "" then walk around node r
      else
        match faults.searching with
        | some fault => .error fault
        | none =>
          if name = "." then walk around node r
          else if name = ".." then
            match around with
            | outer :: around => walk around outer r
            | [] => walk [] node r
          else
            match entries.lookup name with
            | some inner => walk (node :: around) inner r
            | none => .error .notFound

namespace FileSystem

/-! ## Reading -/

/-- What a path leads to.  The empty path leads nowhere. -/
def find (fs : FileSystem) (path : String) : Except FileFault FileNode :=
  if path.isEmpty then .error .notFound
  else if path.startsWith "/" then walk [] (fs.around.getLast?.getD fs.here) (components path)
  else walk fs.around fs.here (components path)

/-- Whether a path leads to a file. -/
def isFile (fs : FileSystem) (path : String) : Bool :=
  match fs.find path with
  | .ok node => node.isFile
  | .error _ => false

/-- The text of a file. -/
def readText (fs : FileSystem) (path : String) : Except FileFault String := do
  let node ← fs.find path
  node.text

end FileSystem

/-! ## Folders -/

/-- Change the entry of a name in a list of entries; `change` gets the entry, if there is one, and
    gives the new one, or nothing to remove it. -/
def changeEntry (name : String) (change : Option FileNode → Option FileNode)
    (entries : List (String × FileNode)) : List (String × FileNode) :=
  let others := entries.filter fun e => e.1 ≠ name
  match change (entries.lookup name) with
  | some node => others ++ [(name, node)]
  | none => others

/-- Change what is at the end of some components, seen from a folder; folders on the way are
    made. -/
def FileNode.changeAt (change : Option FileNode → Option FileNode) :
    List String → Option FileNode → Option FileNode
  | [], node => change node
  | name :: r, node =>
    let (faults, entries) := match node with
      | some (.folder faults entries) => (faults, entries)
      | _ => ({}, [])
    some (.folder faults (changeEntry name (changeAt change r) entries))

/-- The path of an entry of a folder. -/
def joinPath (folder name : String) : String :=
  if folder.endsWith "/" then folder ++ name else folder ++ "/" ++ name

/-- The endings of the names of configuration files. -/
def yamlEndings : List String := [".yml", ".yaml"]

/-- Whether a name has such an ending, and something in front of it. -/
def hasYamlName (name : String) : Bool := yamlEndings.any fun e => name.endsWith e && name ≠ e

/-- The configuration files among the entries of a folder, in the order of their names. -/
def FileSystem.yamlFiles (fs : FileSystem) (folder : String)
    (entries : List (String × FileNode)) : List String :=
  let names := entries.map (·.1)
  let found := names.filter fun name => hasYamlName name && fs.isFile (joinPath folder name)
  (found.mergeSort fun a b => a ≤ b).map (joinPath folder)

end Healing
