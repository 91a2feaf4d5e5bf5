/-
  Starting the server.

  The settings are read, what runs the actions is set up, and then the service begins.

  1. **Surroundings** - `Network`, and `SecretSource.ofCluster`.
  2. **Errors** - `StartError`, with what it is about and its cause.
  3. **Runners** - `Runners`; what has not been set up refuses every action.
  4. **Starting** - `ServerOptions.apply` and `start`.
-/
import Healing.Awx.Client
import Healing.CommandLine
import Healing.Kubernetes.Access
import Healing.Kubernetes.Client
import Healing.Pattern
import Healing.Settings.Credential

namespace Healing

/-! ## Surroundings -/

/-- How requests are delivered, to AWX and to the server of a cluster. -/
structure Network where
  awx : Awx.Transport
  cluster : String → Kubernetes.Transport

/-- A network in which nothing can be reached. -/
def Network.none : Network := ⟨fun _ _ => .unsent, fun _ _ => .none⟩

/-- The secrets of a cluster. -/
def SecretSource.ofCluster (t : Kubernetes.Transport) : SecretSource := fun space name =>
  match Kubernetes.findSecret t space name with
  | .ok (some secret) => .found secret.values
  | .ok none => .missing
  | .error _ => .failed

/-! ## Errors -/

/-- Why the server does not start. -/
inductive StartError where
  | settings (cause : SettingsError)
  | awx (cause : RunnerError)
deriving DecidableEq, Repr, Inhabited

/-- What has failed. -/
def StartError.context : StartError → String
  | .settings _ => "Failed to load configuration"
  | .awx _ => "Failed to create AWX client"

/-- The line that a failure is reported with. -/
def StartError.headline (e : StartError) : String := "Error: " ++ e.context

/-- Why it has failed. -/
def StartError.cause : StartError → String
  | .settings cause => cause.message
  | .awx cause => cause.message

/-! ## Runners -/

/-- What runs actions, as far as it has been set up. -/
structure Runners where
  awx : Option Awx.Client := none
  /-- The server of a cluster. -/
  cluster : Option String := none
deriving Inhabited

namespace Runners

/-- The name of the runner of AWX jobs. -/
def awxName : String := "AWX"

/-- The name of the runner of batch jobs. -/
def clusterName : String := "Kubernetes"

/-- What a runner answers that has not been set up. -/
def refuse {α : Type} (name : String) : Except RunnerError α := .error (.notConfigured name)

/-- The surroundings of an engine whose runners use a network. -/
def surroundings (runners : Runners) (network : Network) : Surroundings where
  language := Pattern.language
  launch := fun _ job alert =>
    match runners.awx with
    | some c => ((c.launch network.awx job alert).run.run []).1
    | none => refuse awxName
  create := fun _ job =>
    match runners.cluster with
    | some server => Kubernetes.createJob (network.cluster server) job
    | none => refuse clusterName

/-- How the runners find out the status of a job. -/
def statusSource (runners : Runners) (network : Network) : StatusSource := fun id =>
  match runners.awx with
  | some c => ((c.status network.awx id).run.run []).1
  | none => refuse awxName

end Runners

/-! ## Starting -/

/-- Settings in which the options of the command line replace what the files say. -/
def ServerOptions.apply (o : ServerOptions) (s : Settings) : Settings :=
  { s with
    throttling := o.throttle.getD s.throttling
    awx := { s.awx with
      jobStatusInterval := o.jobStatusInterval.getD s.awx.jobStatusInterval } }

/-- Set up AWX, if there is an address. -/
def setUpAwx (s : AwxSettings) : Except StartError (Option Awx.Client) :=
  if s.isConfigured then
    match Awx.Client.ofSettings s with
    | .ok client => .ok (some client)
    | .error cause => .error (.awx cause)
  else .ok none

/-- Read the settings and set up the runners. -/
def start (fs : FileSystem) (environment : String → Option String) (network : Network)
    (o : ServerOptions) : Except StartError (Settings × Runners) := do
  let cluster := Kubernetes.server? fs environment
  let source := cluster.map fun server => SecretSource.ofCluster (network.cluster server)
  let (loaded, _) := (Settings.load fs o.settingsPaths source environment).run.run []
  let settings ← loaded.mapError .settings
  let awx ← setUpAwx settings.awx
  .ok (o.apply settings, { awx, cluster })

end Healing
