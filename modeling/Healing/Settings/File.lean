/-
  What a single configuration file says.

  1. **Sections** - `AwxSection` and `SettingsFile`; anything may be left out.
  2. **Reading** - `SettingsFile.read`.
-/
import Healing.Settings

namespace Healing

/-! ## Sections -/

/-- What a file says about AWX. -/
structure AwxSection where
  address : Option String := none
  proxy : Option String := none
  username : Option String := none
  password : Option String := none
  credentialsRef : Option SecretRef := none
  /-- Certificates. -/
  caCerts : Option String := none
  /-- The path of a file with certificates. -/
  caFile : Option String := none
  tlsRef : Option SecretRef := none
  insecure : Option Bool := none
  project : Option String := none
  jobStatusInterval : Option String := none
deriving DecidableEq, Repr, Inhabited

/-- What a file says. -/
structure SettingsFile where
  awx : Option AwxSection := none
  /-- How long an action is to be remembered. -/
  throttling : Option String := none
  rules : List Rule := []
deriving Inhabited

/-! ## Reading -/

/-- Read a reference to a secret. -/
def SecretRef.read (d : Document) : Except ReadError SecretRef := do
  let shape : Kubernetes.Shape :=
    .record [Kubernetes.Shape.may "name" .text, Kubernetes.Shape.may "namespace" .text]
  let j ← shape.read d
  .ok { name := (j.field? "name").bind Json.text?, space := (j.field? "namespace").bind Json.text? }

/-- Read two texts that may be left out. -/
def readTexts (first second : String) (d : Document) :
    Except ReadError (Option String × Option String) := do
  let (texts, _) ← d.record [first, second] ((none, none) : Option String × Option String)
    fun (a, b) name d =>
      if name = first then do .ok (← d.optional Document.text, b)
      else do .ok (a, ← d.optional Document.text)
  .ok texts

/-- Read a field of the section about AWX. -/
def AwxSection.readField (s : AwxSection) (name : String) (d : Document) :
    Except ReadError AwxSection :=
  match name with
  | "address" => do .ok { s with address := ← d.optional Document.text }
  | "proxy" => do .ok { s with proxy := ← d.optional Document.text }
  | "credentials" => do
    let (username, password) := (← d.optional (readTexts "username" "password")).getD (none, none)
    .ok { s with username, password }
  | "credentialsRef" => do .ok { s with credentialsRef := ← d.optional SecretRef.read }
  | "tls" => do
    let (caCerts, caFile) := (← d.optional (readTexts "caCerts" "caFile")).getD (none, none)
    .ok { s with caCerts, caFile }
  | "tlsRef" => do .ok { s with tlsRef := ← d.optional SecretRef.read }
  | "insecure" => do .ok { s with insecure := ← d.optional Document.flag }
  | "project" => do .ok { s with project := ← d.optional Document.text }
  | _ => do .ok { s with jobStatusInterval := ← d.optional Document.text }

/-- Read the section about AWX. -/
def AwxSection.read (d : Document) : Except ReadError AwxSection := do
  let (s, _) ← d.record
    ["address", "proxy", "credentials", "credentialsRef", "tls", "tlsRef", "insecure", "project",
      "jobStatusCheckInterval"] ({} : AwxSection) readField
  .ok s

/-- Read the section about throttling. -/
def readThrottling (d : Document) : Except ReadError (Option String) := do
  let (interval, _) ← d.record ["interval"] (none : Option String) fun _ _ d =>
    d.optional Document.text
  .ok interval

/-- Read what a file says. -/
def SettingsFile.read (d : Document) : Except ReadError SettingsFile := do
  let (f, _) ← d.record ["awx", "throttling", "rules"] ({} : SettingsFile) fun f name d =>
    match name with
    | "awx" => do .ok { f with awx := ← d.optional AwxSection.read }
    | "throttling" => do .ok { f with throttling := (← d.optional readThrottling).bind id }
    | _ => do .ok { f with rules := ← d.listOf Rule.read }
  .ok f

end Healing
