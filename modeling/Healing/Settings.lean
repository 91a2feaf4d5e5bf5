/-
  The settings of the service.

  1. **Secrets** - `SecretRef`: a reference to values that are kept elsewhere.
  2. **Settings** - `AwxSettings`, `Settings` and their defaults.
  3. **Errors** - `SettingsError` and its messages.
-/
import Healing.Duration
import Healing.FileSystem
import Healing.Rule

namespace Healing

/-! ## Secrets -/

/-- A reference to a secret by its name and its namespace. -/
structure SecretRef where
  name : Option String := none
  space : Option String := none
deriving DecidableEq, Repr, Inhabited

/-! ## Settings -/

/-- How to reach AWX. -/
structure AwxSettings where
  address : String := ""
  proxy : Option String := none
  username : String := ""
  password : String := ""
  /-- Whether certificates are not checked. -/
  insecure : Bool := false
  /-- The certificates of authorities to trust. -/
  caCerts : Option String := none
  /-- The project that the job templates belong to. -/
  project : String := ""
  /-- How often the status of jobs is asked for. -/
  jobStatusInterval : Duration := 300_000_000_000
  /-- The secret that holds the credentials. -/
  credentialsRef : Option SecretRef := none
  /-- The secrets that hold certificates. -/
  tlsRefs : List SecretRef := []
deriving DecidableEq, Repr, Inhabited

/-- AWX is used if there is an address. -/
def AwxSettings.isConfigured (s : AwxSettings) : Bool := !s.address.isEmpty

/-- The settings of the service. -/
structure Settings where
  awx : AwxSettings := {}
  /-- How long an action is remembered. -/
  throttling : Duration := 3_600_000_000_000
  /-- The rules in the order of the files. -/
  rules : List Rule := []
deriving Inhabited

/-! ## Errors -/

/-- A part of the reference to a secret. -/
inductive SecretPart where
  | name
  | space
deriving DecidableEq, Repr, Inhabited

/-- The word for a part. -/
def SecretPart.word : SecretPart → String
  | .name => "name"
  | .space => "namespace"

/-- Why there are no settings. -/
inductive SettingsError where
  /-- No path is given. -/
  | noFiles
  | unreadable (path : String) (fault : FileFault)
  /-- A file is not as it should be; a rule without exactly one action says so. -/
  | malformed (path : String) (detail : Option String)
  | duration (fault : Duration.Fault)
  /-- A reference to a secret lacks a part. -/
  | incompleteSecret (part : SecretPart)
  /-- There is nowhere to look up a secret. -/
  | noSecretSource (space name : String)
  | secretNotFound (space name : String)
  /-- The secret could not be looked up. -/
  | secretFailed (space name : String)
  /-- A value of a secret is no text. -/
  | secretNotText (space name key : String)
deriving DecidableEq, Repr, Inhabited

/-- What is said about the secret of an error. -/
def SettingsError.cannotLoad (space name : String) : String :=
  "can't load secret '" ++ name ++ "' from namespace '" ++ space ++ "'"

/-- The message of an error, but for the words of the system about it. -/
def SettingsError.message : SettingsError → String
  | .noFiles => "no configuration file has been provided"
  | .unreadable path _ => "can't read '" ++ path ++ "'"
  | .malformed path _ => "can't parse '" ++ path ++ "'"
  | .duration fault => fault.message
  | .incompleteSecret part =>
    "the " ++ part.word ++ " of the secret is mandatory, but it hasn't been specified"
  | .noSecretSource space name =>
    cannotLoad space name ++ " because there is no connection to the Kubernetes API"
  | .secretNotFound space name =>
    "secret '" ++ name ++ "' doesn't exist in namespace '" ++ space ++ "'"
  | .secretFailed space name => cannotLoad space name
  | .secretNotText space name key =>
    "key '" ++ key ++ "' of secret '" ++ name ++ "' in namespace '" ++ space ++ "' isn't valid text"

end Healing
