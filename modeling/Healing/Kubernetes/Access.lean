/-
  Access to a cluster.

  Files tell which clusters there are, and which of them is in use at present.  What several files
  say is taken together; the first one to name something decides.

  1. **Files** - `accessFiles?` reads the files that the environment names.
  2. **Names** - `named?` finds something by its name.
  3. **Servers** - `serverIn?`, the address of the cluster in use; `server?` for the environment.
-/
import Healing.FileSystem
import Healing.Yaml.Repetition

namespace Healing.Kubernetes

/-! ## Files -/

/-- The variable that names the files, with colons between them. -/
def accessVariable : String := "KUBECONFIG"

/-- What the given files say, if all of them can be read. -/
def accessFiles? (fs : FileSystem) (paths : List String) : Option (List Json) :=
  paths.mapM fun path => do
    let text ← (fs.readText path).toOption
    (Yaml.decode Document.value text).toOption

/-! ## Names -/

/-- The content of the first item of that name in the lists of that field; null is no content. -/
def named? (files : List Json) (listField contentField name : String) : Option Json := do
  let items := files.flatMap fun file =>
    match file.field? listField with
    | some (.arr items) => items
    | _ => []
  let item ← items.find? fun item => item.field? "name" |>.any fun n => n.text? = some name
  match ← item.field? contentField with
  | .null => none
  | content => some content

/-! ## Servers -/

/-- The address of the cluster in use.  The user of it has to be known, if there is one. -/
def serverIn? (files : List Json) : Option String := do
  let contextName ← files.findSome? fun file => (file.field? "current-context").bind Json.text?
  let context ← named? files "contexts" "context" contextName
  let clusterName ← (context.field? "cluster").bind Json.text?
  let cluster ← named? files "clusters" "cluster" clusterName
  match (context.field? "user").bind Json.text? with
  | none => pure ()
  | some user =>
    let _ ← named? files "users" "user" user
  let server ← (cluster.field? "server").bind Json.text?
  if server.isEmpty then none else some server

/-- The address of the cluster that the environment leads to. -/
def server? (fs : FileSystem) (environment : String → Option String) : Option String := do
  let paths := ((← environment accessVariable).splitOn ":").filter fun path => !path.isEmpty
  if paths.isEmpty then none else (accessFiles? fs paths).bind serverIn?

end Healing.Kubernetes
