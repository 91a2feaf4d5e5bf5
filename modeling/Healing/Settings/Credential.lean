/-
  Credentials and certificates from outside of the files.

  Files may refer to secrets.  The user name and the password in a secret replace those in the
  files; the ones in the environment replace both.

  1. **Secrets** - `SecretSource`, and `Lookup`, a step that may look up secrets.
  2. **References** - `SecretRef.resolve` looks a secret up.
  3. **Settings** - `AwxSettings.resolve` takes over what the references lead to.
  4. **Environment** - `AwxSettings.override`.
  5. **Whole settings** - `Settings.load`.
-/
import Healing.Settings.Merging

namespace Healing

/-! ## Secrets -/

/-- What is known about a secret. -/
inductive SecretAnswer where
  /-- The secret is there, with the values of some keys. -/
  | found (data : KeyMap String ByteArray)
  | missing
  /-- It could not be looked up. -/
  | failed

/-- Where secrets are looked up, by namespace and name. -/
abbrev SecretSource := String → String → SecretAnswer

/-- A step that may fail and may look up secrets: the namespaces and names that were looked up so
    far are kept, the last one first. -/
abbrev Lookup (α : Type) := ExceptT SettingsError (StateM (List (String × String))) α

/-! ## References -/

/-- A secret that has been looked up. -/
structure Secret where
  space : String
  name : String
  data : KeyMap String ByteArray

/-- The value of a key, if there is one; it has to be text. -/
def Secret.value (s : Secret) (key : String) : Except SettingsError (Option String) :=
  match s.data.get? key with
  | none => .ok none
  | some bytes =>
    match String.fromUTF8? bytes with
    | some text => .ok (some text)
    | none => .error (.secretNotText s.space s.name key)

/-- The name and the namespace of a reference; both have to be there. -/
def SecretRef.complete (r : SecretRef) : Except SettingsError (String × String) := do
  let name ← (given r.name).elim (.error (.incompleteSecret .name)) .ok
  let space ← (given r.space).elim (.error (.incompleteSecret .space)) .ok
  .ok (name, space)

/-- Look up the secret of a reference. -/
def SecretRef.resolve (source : Option SecretSource) (r : SecretRef) : Lookup Secret := do
  let (name, space) ← r.complete
  match source with
  | none => throw (.noSecretSource space name)
  | some lookup =>
    modify ((space, name) :: ·)
    match lookup space name with
    | .found data => pure { space, name, data }
    | .missing => throw (.secretNotFound space name)
    | .failed => throw (.secretFailed space name)

/-! ## Settings -/

/-- Take over the user name and the password of a secret. -/
def AwxSettings.useCredentials (s : AwxSettings) (secret : Secret) :
    Except SettingsError AwxSettings := do
  let username := (← secret.value "username").getD s.username
  let password := (← secret.value "password").getD s.password
  .ok { s with username, password, credentialsRef := none }

/-- Add the certificates of a secret. -/
def AwxSettings.useCerts (s : AwxSettings) (secret : Secret) :
    Except SettingsError AwxSettings := do
  match ← secret.value "ca.crt" with
  | some text => .ok { s with caCerts := appendCerts s.caCerts text }
  | none => .ok s

/-- Take over what the references of the settings lead to: the credentials first, then the
    certificates in order. -/
def AwxSettings.resolve (source : Option SecretSource) (s : AwxSettings) : Lookup AwxSettings := do
  let s ← match s.credentialsRef with
    | some r => do
      let secret ← r.resolve source
      s.useCredentials secret
    | none => pure s
  s.tlsRefs.foldlM (fun (s : AwxSettings) r => do
    let secret ← r.resolve source
    s.useCerts secret) { s with tlsRefs := [] }

/-! ## Environment -/

/-- The variable that holds the user name. -/
def usernameVariable : String := "AWX_USERNAME"

/-- The variable that holds the password. -/
def passwordVariable : String := "AWX_PASSWORD"

/-- Replace the user name and the password by those of the environment, where they are not empty. -/
def AwxSettings.override (environment : String → Option String) (s : AwxSettings) : AwxSettings :=
  { s with
    username := (given (environment usernameVariable)).getD s.username
    password := (given (environment passwordVariable)).getD s.password }

/-! ## Whole settings -/

/-- The settings from files, secrets and the environment. -/
def Settings.load (fs : FileSystem) (paths : List String) (source : Option SecretSource)
    (environment : String → Option String) : Lookup Settings := do
  let s ← Settings.ofFiles fs paths
  let awx ← s.awx.resolve source
  pure { s with awx := awx.override environment }

end Healing
