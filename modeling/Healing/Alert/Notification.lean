/-
  Notifications: groups of alerts as they are delivered.

  1. **Notifications** - `Notification` and its JSON form.
  2. **Reading** - `Notification.read`; every field is optional.
-/
import Healing.Alert

namespace Healing

/-! ## Notifications -/

/-- A delivered group of alerts. -/
structure Notification where
  /-- The version of the format. -/
  version : String := ""
  /-- What identifies the group. -/
  groupKey : String := ""
  /-- How many alerts were left out. -/
  truncatedAlerts : Nat := 0
  status : AlertStatus := .firing
  receiver : String := ""
  groupLabels : KeyMap String String := ∅
  commonLabels : KeyMap String String := ∅
  commonAnnotations : KeyMap String String := ∅
  /-- Where the sender can be reached. -/
  externalUrl : String := ""
  alerts : List Alert := []
deriving Inhabited

namespace Notification

/-- The notification with all its fields, sorted by name. -/
def toJson (n : Notification) : Json :=
  .obj [
    ("alerts", .arr (n.alerts.map Alert.toJson)),
    ("commonAnnotations", .ofTexts n.commonAnnotations),
    ("commonLabels", .ofTexts n.commonLabels),
    ("externalURL", .str n.externalUrl),
    ("groupKey", .str n.groupKey),
    ("groupLabels", .ofTexts n.groupLabels),
    ("receiver", .str n.receiver),
    ("status", .str n.status.word),
    ("truncatedAlerts", .int n.truncatedAlerts),
    ("version", .str n.version)]

/-! ## Reading -/

/-- The fields of a notification, in the order in which a list gives them. -/
def fieldNames : List String :=
  ["version", "groupKey", "truncatedAlerts", "status", "receiver", "groupLabels", "commonLabels",
    "commonAnnotations", "externalURL", "alerts"]

/-- Read one field into a notification. -/
def readField (n : Notification) (name : String) (d : Document) :
    Except ReadError Notification :=
  match name with
  | "version" => return { n with version := ← d.text }
  | "groupKey" => return { n with groupKey := ← d.text }
  | "truncatedAlerts" => return { n with truncatedAlerts := (← d.whole 0 4_294_967_295).toNat }
  | "status" => return { n with status := ← Alert.readStatus d }
  | "receiver" => return { n with receiver := ← d.text }
  | "groupLabels" => return { n with groupLabels := ← d.mapOf Document.text }
  | "commonLabels" => return { n with commonLabels := ← d.mapOf Document.text }
  | "commonAnnotations" => return { n with commonAnnotations := ← d.mapOf Document.text }
  | "externalURL" => return { n with externalUrl := ← d.text }
  | "alerts" => return { n with alerts := ← d.listOf Alert.read }
  | _ => .ok n

/-- Read a notification; a field that is not there has its default. -/
def read (d : Document) : Except ReadError Notification :=
  Prod.fst <$> d.record fieldNames {} readField

end Notification

end Healing
