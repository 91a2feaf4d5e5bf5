/-
  Alerts.

  An alert has a status, labels, annotations and two optional times.  It arrives as JSON with every
  field optional, and is shown to templates and to launched jobs in a JSON form with all fields.

  1. **Alerts** - `Alert` and `AlertStatus`; `Alert.named` with `withLabel` and `withAnnotation`.
  2. **JSON form** - `Alert.toJson`.
  3. **Reading** - `Alert.read`: a status that is neither firing nor resolved reads as unknown.
-/
import Healing.Document
import Healing.Timestamp

namespace Healing

/-! ## Alerts -/

/-- The state of an alert as its sender reports it. -/
inductive AlertStatus where
  | firing
  | resolved
  /-- Anything else that the sender reports. -/
  | unknown
deriving DecidableEq, Repr, Inhabited

/-- The word for a status. -/
def AlertStatus.word : AlertStatus → String
  | .firing => "firing"
  | .resolved => "resolved"
  | .unknown => "unknown"

/-- The status that a word stands for. -/
def AlertStatus.ofWord (word : String) : AlertStatus :=
  if word = "firing" then .firing else if word = "resolved" then .resolved else .unknown

/-- An alert. -/
structure Alert where
  status : AlertStatus := .firing
  labels : KeyMap String String := ∅
  annotations : KeyMap String String := ∅
  /-- When the alert started to fire. -/
  startsAt : Option Timestamp := none
  /-- When the alert was resolved. -/
  endsAt : Option Timestamp := none
  /-- Where the alert comes from. -/
  generatorUrl : String := ""
  fingerprint : String := ""
deriving DecidableEq, Inhabited

namespace Alert

/-- The label that names the alert. -/
def nameLabel : String := "alertname"

/-- A firing alert with a name and nothing else. -/
def named (name : String) : Alert := { labels := (∅ : KeyMap String String).insert nameLabel name }

/-- Set a label. -/
def withLabel (a : Alert) (key value : String) : Alert :=
  { a with labels := a.labels.insert key value }

/-- Set an annotation. -/
def withAnnotation (a : Alert) (key value : String) : Alert :=
  { a with annotations := a.annotations.insert key value }

/-- The name of the alert, empty if it has none. -/
def name (a : Alert) : String := (a.labels.get? nameLabel).getD ""

/-! ## JSON form -/

/-- A time as a text, absence as null. -/
def timeJson : Option Timestamp → Json
  | some t => .str t.write
  | none => .null

/-- The alert with all its fields, sorted by name. -/
def toJson (a : Alert) : Json :=
  .obj [
    ("annotations", .ofTexts a.annotations),
    ("endsAt", timeJson a.endsAt),
    ("fingerprint", .str a.fingerprint),
    ("generatorURL", .str a.generatorUrl),
    ("labels", .ofTexts a.labels),
    ("startsAt", timeJson a.startsAt),
    ("status", .str a.status.word)]

/-! ## Reading -/

/-- The fields of an alert, in the order in which a list gives them. -/
def fieldNames : List String :=
  ["status", "labels", "annotations", "startsAt", "endsAt", "generatorURL", "fingerprint"]

/-- Read a status. -/
def readStatus (d : Document) : Except ReadError AlertStatus := AlertStatus.ofWord <$> d.variant

/-- Read a point in time. -/
def readTime (d : Document) : Except ReadError Timestamp := do
  match Timestamp.read? (← d.text) with
  | some t => .ok t
  | none => .error .mismatch

/-- Read one field into an alert. -/
def readField (a : Alert) (name : String) (d : Document) : Except ReadError Alert :=
  match name with
  | "status" => return { a with status := ← readStatus d }
  | "labels" => return { a with labels := ← d.mapOf Document.text }
  | "annotations" => return { a with annotations := ← d.mapOf Document.text }
  | "startsAt" => return { a with startsAt := ← d.optional readTime }
  | "endsAt" => return { a with endsAt := ← d.optional readTime }
  | "generatorURL" => return { a with generatorUrl := ← d.text }
  | "fingerprint" => return { a with fingerprint := ← d.text }
  | _ => .ok a

/-- Read an alert; a field that is not there has its default. -/
def read (d : Document) : Except ReadError Alert :=
  Prod.fst <$> d.record fieldNames {} readField

end Alert

end Healing
