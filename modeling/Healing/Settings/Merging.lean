/-
  Settings from several files.

  The files are taken in order.  A text that is given and not empty replaces an earlier one; rules
  and certificates are added to the earlier ones.

  1. **Texts** - `given`: a text counts only if it is not empty.
  2. **Certificates** - `appendCerts`: texts that each start on a line of their own.
  3. **Merging** - `AwxSettings.merge` and `Settings.merge`.
  4. **Files** - `mergeFile` for a file, `mergePath` for a file or a folder, `Settings.ofFiles`.
-/
import Healing.Settings.File
import Healing.Yaml.Repetition

namespace Healing

/-! ## Texts -/

/-- A text, if it is given and not empty. -/
def given (text : Option String) : Option String := text.filter fun s => !s.isEmpty

/-! ## Certificates -/

/-- Add a text to others, on a line of its own. -/
def appendText (texts text : String) : String :=
  if texts.isEmpty || texts.endsWith "\n" then texts ++ text else texts ++ "\n" ++ text

/-- Add certificates to those that there are. -/
def appendCerts (certs : Option String) (text : String) : Option String :=
  some (appendText (certs.getD "") text)

/-! ## Merging -/

/-- A duration, or the error that it is none. -/
def settle {α : Type} (d : Except Duration.Fault α) : Except SettingsError α :=
  d.mapError .duration

/-- Read a file that the settings need. -/
def FileSystem.need (fs : FileSystem) (path : String) : Except SettingsError String :=
  (fs.readText path).mapError (.unreadable path)

/-- The certificates with those that a section gives: in place first, then in a file. -/
def AwxSection.addCerts (fs : FileSystem) (f : AwxSection) (certs : Option String) :
    Except SettingsError (Option String) := do
  let certs := match given f.caCerts with
    | some text => appendCerts certs text
    | none => certs
  match given f.caFile with
  | some path => do
    let text ← fs.need path
    .ok (appendCerts certs text)
  | none => .ok certs

/-- How to reach AWX after one more section about it. -/
def AwxSettings.merge (fs : FileSystem) (s : AwxSettings) (f : AwxSection) :
    Except SettingsError AwxSettings := do
  let caCerts ← f.addCerts fs s.caCerts
  let jobStatusInterval ← match given f.jobStatusInterval with
    | some text => settle (Duration.readInterval text)
    | none => .ok s.jobStatusInterval
  .ok {
    address := (given f.address).getD s.address
    proxy := (given f.proxy).or s.proxy
    username := (given f.username).getD s.username
    password := (given f.password).getD s.password
    insecure := f.insecure.getD s.insecure
    caCerts
    project := (given f.project).getD s.project
    jobStatusInterval
    credentialsRef := f.credentialsRef.or s.credentialsRef
    tlsRefs := s.tlsRefs ++ f.tlsRef.toList }

/-- The settings after one more file. -/
def Settings.merge (fs : FileSystem) (s : Settings) (f : SettingsFile) :
    Except SettingsError Settings := do
  let awx ← match f.awx with
    | some section_ => s.awx.merge fs section_
    | none => .ok s.awx
  let throttling ← match given f.throttling with
    | some text => settle (Duration.read text)
    | none => .ok s.throttling
  .ok { awx, throttling, rules := s.rules ++ f.rules }

/-! ## Files -/

/-- What the text of a file says; nothing if it is blank. -/
def SettingsFile.ofText (path text : String) : Except SettingsError SettingsFile :=
  if text.toList.all Text.isBlank then .ok {}
  else
    (Yaml.decode SettingsFile.read text).mapError fun
      | .wrongData detail => .malformed path detail
      | _ => .malformed path none

/-- The settings after the file at a path. -/
def mergeFile (fs : FileSystem) (s : Settings) (path : String) : Except SettingsError Settings := do
  let text ← fs.need path
  let f ← SettingsFile.ofText path text
  s.merge fs f

/-- The settings after the file at a path, or the configuration files of the folder there. -/
def mergePath (fs : FileSystem) (s : Settings) (path : String) : Except SettingsError Settings :=
  match fs.find path with
  | .error fault => .error (.unreadable path fault)
  | .ok (.folder faults entries) =>
    match faults.listing with
    | some fault => .error (.unreadable path fault)
    | none => (fs.yamlFiles path entries).foldlM (mergeFile fs) s
  | .ok _ => mergeFile fs s path

/-- The settings from the files and folders at some paths; there has to be at least one path. -/
def Settings.ofFiles (fs : FileSystem) (paths : List String) : Except SettingsError Settings :=
  if paths.isEmpty then .error .noFiles else paths.foldlM (mergePath fs) {}

end Healing
