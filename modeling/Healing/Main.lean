/-
  The program.

  Everything that is decided is decided elsewhere; here files are read, requests are received, and
  time passes.

  1. **Files** - `Known`, what is known of the files; `fetch` takes over what is at a path, a folder
     with its configuration files.  The paths that are given are fetched first, and what turns out
     to be needed beside them one by one: `withFiles`, `startUp` and `readFiles`.
  2. **Running** - `Running`, the state of the server, which `answer` and `keepUp` change.
  3. **Time** - `every` repeats an activity until the server stops.
  4. **Serving** - `serve` listens until a signal comes.
  5. **Program** - `main`.
-/
import Healing.Startup
import Std.Async
import Std.Http

namespace Healing.Program

/-! ## Files -/

/-- What is known of the files: those below the root, and the names that lead from there to the
    folder in which relative paths start. -/
structure Known where
  root : FileNode
  start : List String

namespace Known

/-- Nothing is known but the folder in which relative paths start. -/
def nothing : IO Known := do
  let start := (components (← IO.currentDir).toString).filter (· ≠ "")
  let root := FileNode.changeAt (fun _ => some (.folder {} [])) start (some (.folder {} []))
  return { root := root.getD (.folder {} []), start }

/-- The names that lead from the root to where a path leads. -/
def namesOf (k : Known) (path : String) : List String :=
  let before := if path.startsWith "/" then [] else k.start
  (components path).foldl (fun names name =>
    if name = "" || name = "." then names
    else if name = ".." then names.dropLast
    else names ++ [name]) before

/-- Change what is at a path. -/
def change (k : Known) (path : String) (change : Option FileNode → FileNode) : Known :=
  let root := FileNode.changeAt (fun node => some (change node)) (k.namesOf path) (some k.root)
  { k with root := root.getD k.root }

/-- The files, as seen from the folder in which relative paths start. -/
def files (k : Known) : FileSystem := go [] k.root k.start
where
  /-- Go down to an inner folder; `around` are the folders on the way. -/
  go (around : List FileNode) (node : FileNode) : List String → FileSystem
    | [] => { here := node, around }
    | name :: r =>
      match node with
      | .folder _ entries => go (node :: around) ((entries.lookup name).getD (.folder {} [])) r
      | _ => { here := node, around }

end Known

/-- What the system says about a failure. -/
def faultOf : IO.Error → FileFault
  | .noFileOrDirectory .. => .notFound
  | .inappropriateType .. => .notFolder
  | .permissionDenied .. => .denied
  | e => .other (toString e)

/-- What is at a path, but for the entries of a folder. -/
def look (path : String) : IO FileNode := do
  try
    let type := (← (← IO.FS.realPath path).metadata).type
    if type == .dir then return .folder {} []
    let content ← try pure (.ok (← IO.FS.readBinFile path)) catch e => pure (.error (faultOf e))
    return if type == .file then .file content else .special content
  catch e => return .broken (faultOf e)

/-- The names of the configuration files in a folder, or why it cannot be listed. -/
def list (path : String) : IO (Except FileFault (List String)) := do
  try
    let entries ← (← IO.FS.realPath path).readDir
    let files ← entries.toList.filterM fun entry => do
      try return hasYamlName entry.fileName && (← entry.path.metadata).type == .file
      catch _ => return false
    return .ok (files.map (·.fileName))
  catch e => return .error (faultOf e)

/-- Take over what is at a path. -/
def fetch (k : Known) (path : String) : IO Known := do
  match ← look path with
  | .broken .notFound => return k
  | .folder .. =>
    match ← list path with
    | .error fault => return k.change path fun _ => .folder { listing := some fault } []
    | .ok names =>
      let k := k.change path fun node => node.getD (.folder {} [])
      names.foldlM (fun k name => do
        let node ← look (joinPath path name)
        return k.change (joinPath path name) fun _ => node) k
  | node => return k.change path fun _ => node

/-- The file that is missing, if that is what is wrong. -/
def missingFile? : SettingsError → Option String
  | .unreadable path .notFound => some path
  | _ => none

/-- Try something with the files that are known; as long as one is missing that has not been looked
    for, look for it and try again. -/
partial def withFiles {α : Type} (attempt : FileSystem → α) (missing? : α → Option String)
    (k : Known) (tried : List String) : IO α := do
  let a := attempt k.files
  match missing? a with
  | some path =>
    if tried.contains path then return a
    else withFiles attempt missing? (← fetch k path) (path :: tried)
  | none => return a

/-- Start, with the files that it takes; `accessPaths` lead to what is known of the cluster. -/
def startUp (environment : String → Option String) (options : ServerOptions)
    (accessPaths : List String) : IO (Except StartError (Settings × Runners)) := do
  let k ← (accessPaths ++ options.settingsPaths).foldlM fetch (← Known.nothing)
  withFiles (fun fs => start fs environment .none options) (fun
    | .error (.settings e) => missingFile? e
    | _ => none) k options.settingsPaths

/-- Read the settings from their files alone. -/
def readFiles (options : ServerOptions) : IO (Except SettingsError Settings) := do
  let k ← options.settingsPaths.foldlM fetch (← Known.nothing)
  withFiles (fun fs => Settings.ofFiles fs options.settingsPaths) (fun
    | .error e => missingFile? e
    | _ => none) k options.settingsPaths

/-- The variables of the environment that matter. -/
def readEnvironment : IO (String → Option String) := do
  let values ← [usernameVariable, passwordVariable, Kubernetes.accessVariable].mapM fun name =>
    return (name, ← IO.getEnv name)
  return fun name => (values.lookup name).join

/-! ## Running -/

/-- A server that runs. -/
structure Running where
  service : Std.Mutex Service
  around : Surroundings
  source : StatusSource

/-- Change the service, and let the workers keep up. -/
def Running.keepUp {α : Type} (r : Running) (change : Service → α × Service) : IO α := do
  let now ← IO.monoNanosNow
  r.service.atomically (m := IO) do
    let (a, s) := change (← get)
    set (s.work r.around now)
    return a

/-- Answer a request. -/
def Running.answer (r : Running) (request : Web.Request) : IO Web.Response :=
  r.keepUp fun s => s.answer request

/-- Ask for the running jobs. -/
def Running.pollJobs (r : Running) : IO Unit :=
  r.keepUp fun s => ((), { s with engine := (s.engine.pollJobs r.source).2 })

/-- Read the files again, and queue what has changed. -/
def Running.reload (r : Running) (options : ServerOptions) (watcher : IO.Ref Watcher) :
    IO Unit := do
  let w ← watcher.get
  let loaded ← readFiles options
  watcher.set (← r.keepUp fun s => s.reload w loaded)

/-! ## Time -/

/-- How long the program sleeps before it looks at the clock again, in milliseconds. -/
def tick : UInt32 := 100

/-- Repeat an activity in intervals, given in nanoseconds, until the server stops. -/
partial def every (stopped : IO.Ref Bool) (interval next : Nat) (activity : IO Unit) : IO Unit := do
  if ← stopped.get then return
  let now ← IO.monoNanosNow
  if next ≤ now then
    activity
    every stopped interval (next + interval) activity
  else
    IO.sleep tick
    every stopped interval next activity

/-! ## Serving -/

/-- The address to listen on. -/
def socketAddress? (listen : String) : Option Std.Net.SocketAddress := do
  let back := listen.toList.reverse
  let port := (← Web.decimal? (back.takeWhile (· ≠ ':')).reverse).toUInt16
  match ((back.dropWhile (· ≠ ':')).drop 1).reverse with
  | '[' :: cs =>
    let digits := cs.takeWhile fun c => c ≠ ']' && c ≠ '%'
    let address ← Std.Net.IPv6Addr.ofString (String.ofList digits)
    some (.v6 ⟨address, port⟩)
  | cs => some (.v4 ⟨← Std.Net.IPv4Addr.ofString (String.ofList cs), port⟩)

/-- What a body says; bytes that are no text are not JSON either. -/
def bodyText (bytes : ByteArray) : String := (String.fromUTF8? bytes).getD "?"

instance : Std.Http.Server.Handler Running where
  onRequest r request := do
    let bytes : ByteArray ← request.body.readAll
    let response ← r.answer {
      method := toString request.line.method
      target := toString request.line.uri
      contentType := (request.line.headers.get? .contentType).map (·.value)
      body := bodyText bytes }
    let status := (Std.Http.Status.ofCode none response.status.toUInt16).getD .ok
    let builder := Std.Http.Response.withStatus status
    match response.contentType with
    | some type => (builder.header! "content-type" type).fromBytes response.body.toUTF8
    | none => builder.fromBytes response.body.toUTF8

/-- Wait for the signal to stop. -/
def waitForSignal : IO Unit := do
  let signals ← [Std.Async.Signal.sigterm, .sigint].mapM fun s => do
    (← Std.Async.Signal.Waiter.mk s false).wait
  match signals with
  | a :: b :: _ =>
    let _ ← IO.waitAny [a, b]
  | _ => return

/-- Run the server until a signal comes, and finish what is in the queues. -/
def serve (options : ServerOptions) (settings : Settings) (runners : Runners) : IO Ending := do
  let r : Running := {
    service := ← Std.Mutex.new (Service.start settings.throttling settings.rules)
    around := runners.surroundings .none
    source := runners.statusSource .none }
  r.keepUp fun s => ((), s)
  let stopped ← IO.mkRef false
  let watcher ← IO.mkRef (Watcher.start settings.rules)
  let now ← IO.monoNanosNow
  let interval := max settings.awx.jobStatusInterval minPollInterval
  let poller ← IO.asTask (every stopped interval now r.pollJobs) .dedicated
  let reloader ←
    if options.reloadInterval = 0 then pure none
    else
      some <$> IO.asTask (every stopped options.reloadInterval (now + options.reloadInterval)
        (r.reload options watcher)) .dedicated
  let ending ← try
      match socketAddress? options.listen with
      | none => throw (IO.userError "the address cannot be listened on")
      | some address =>
        let server ← (Std.Http.Server.serve address r).block
        waitForSignal
        server.shutdown.block
        pure Ending.success
    catch e =>
      IO.eprintln ("Error: " ++ (ServiceError.occupied options.listen).message)
      IO.eprintln ("\nCaused by:\n    " ++ toString e)
      pure .failure
  stopped.set true
  r.keepUp fun s => ((), s.shutDown)
  let _ ← IO.wait poller
  if let some reloader := reloader then
    let _ ← IO.wait reloader
  return ending

/-! ## Program -/

/-- How to use the program. -/
def usage : String :=
  "Usage: " ++ programName ++ " [OPTIONS] server [OPTIONS]\n\n"
    ++ "Options:\n"
    ++ "      --config-file <PATH>               Configuration file, can be repeated\n"
    ++ "      --listen <ADDRESS>                 Address to listen on\n"
    ++ "      --throttle-interval <DURATION>     How long executed actions are remembered\n"
    ++ "      --job-status-interval <DURATION>   Interval between AWX job status checks\n"
    ++ "      --config-reload-interval <DURATION>\n"
    ++ "                                         Interval between reloads, 0 disables them\n"
    ++ "      --log-format <text|json>           Log output format\n"
    ++ "  -v, --verbose                          Enable debug logging\n"
    ++ "  -h, --help                             Print help\n"
    ++ "  -V, --version                          Print version\n"

/-- Do what the arguments ask for. -/
def run (arguments : List String) : IO Ending := do
  match Command.ofArguments? arguments with
  | none =>
    IO.eprint usage
    return .usage
  | some .showHelp =>
    IO.print usage
    return .success
  | some .showVersion =>
    IO.print versionText
    return .success
  | some (.serve options) =>
    let environment ← readEnvironment
    let accessPaths := ((environment Kubernetes.accessVariable).getD "").splitOn ":"
    match ← startUp environment options accessPaths with
    | .ok (settings, runners) => serve options settings runners
    | .error e =>
      IO.eprintln (e.headline ++ "\n\nCaused by:\n    " ++ e.cause)
      return .failure

end Healing.Program

/-- The entry of the program. -/
def main (arguments : List String) : IO UInt32 := do
  return (← Healing.Program.run arguments).code.toUInt32
