/-
  Metrics of healing.

  Two tables count what happens: how often actions were requested, and how many actions are in which
  state.  They are shown in a text format, one line for every series.

  1. **Series** - the labels of a series, as lists of texts; `Metrics`.
  2. **Events** - `requested`, `started`, `completed`, `failed`.
  3. **Text** - `escapeLabel` and `Metrics.render`.
-/
import Healing.KeyMap

namespace Healing

/-! ## Series -/

/-- The values of the labels of a series, in the order of the labels. -/
abbrev SeriesKey := List String

/-- The counts of healing.  They have no bound; words of 64 bits would hold all of them for the first
    2 ^ 63 calls. -/
structure Metrics where
  /-- How often an action was requested, by kind, rule and alert. -/
  requestedTable : KeyMap SeriesKey Nat := ∅
  /-- How many actions there are, by kind, target, rule and state. -/
  launchedTable : KeyMap SeriesKey Int := ∅
deriving Inhabited

/-- The states of an action that has been launched. -/
inductive LaunchState where
  | running
  | completed
  | failed
deriving DecidableEq, Repr

/-- The word for a state. -/
def LaunchState.word : LaunchState → String
  | .running => "running"
  | .completed => "completed"
  | .failed => "failed"

namespace Metrics

/-- How often an action was requested. -/
def requestedCount (m : Metrics) (kind rule alert : String) : Nat :=
  (m.requestedTable.get? [kind, rule, alert]).getD 0

/-- How many actions there are with a word for their state. -/
def launchedCount (m : Metrics) (kind target rule state : String) : Int :=
  (m.launchedTable.get? [kind, target, rule, state]).getD 0

/-! ## Events -/

/-- Add to a number of launched actions. -/
def addLaunched (m : Metrics) (kind target rule : String) (state : LaunchState) (delta : Int) :
    Metrics :=
  let key := [kind, target, rule, state.word]
  { m with launchedTable :=
      m.launchedTable.insert key (m.launchedCount kind target rule state.word + delta) }

/-- An activated rule has asked for an action. -/
def requested (m : Metrics) (kind rule alert : String) : Metrics :=
  { m with requestedTable :=
      m.requestedTable.insert [kind, rule, alert] (m.requestedCount kind rule alert + 1) }

/-- An action has been launched and is running. -/
def started (m : Metrics) (kind target rule : String) : Metrics :=
  m.addLaunched kind target rule .running 1

/-- A running action has come to its end. -/
def completed (m : Metrics) (kind target rule : String) : Metrics :=
  (m.addLaunched kind target rule .running (-1)).addLaunched kind target rule .completed 1

/-- An action could not be launched. -/
def failed (m : Metrics) (kind target rule : String) : Metrics :=
  m.addLaunched kind target rule .failed 1

/-! ## Text -/

/-- How a character stands in the value of a label. -/
def escapeChar (c : Char) : List Char :=
  if c = '\\' then ['\\', '\\']
  else if c = '"' then ['\\', '"']
  else if c = '\n' then ['\\', 'n']
  else [c]

/-- The value of a label between its quotes. -/
def escapeLabel (value : String) : String := String.ofList (value.toList.flatMap escapeChar)

/-- One label with its value. -/
def labelText (label : String × String) : String := label.1 ++ "=\"" ++ escapeLabel label.2 ++ "\""

/-- The line of a series. -/
def line (name : String) (labels : List (String × String)) (value : String) : String :=
  name ++ "\x7b" ++ String.intercalate "," (labels.map labelText) ++ "\x7d " ++ value ++ "\n"

/-- The two lines in front of a table. -/
def heading (name help type : String) : String :=
  "# HELP " ++ name ++ " " ++ help ++ "\n# TYPE " ++ name ++ " " ++ type ++ "\n"

/-- The name of the table of requested actions. -/
def requestedName : String := "autoheal_actions_requested_total"

/-- The labels of the table of requested actions. -/
def requestedLabels : List String := ["type", "rule", "alert"]

/-- The name of the table of launched actions. -/
def launchedName : String := "autoheal_actions_launched"

/-- The labels of the table of launched actions. -/
def launchedLabels : List String := ["type", "template", "rule", "status"]

/-- The text of all series. -/
def render (m : Metrics) : String :=
  heading requestedName "Number of healing actions requested by activated rules" "counter"
    ++ String.join (m.requestedTable.entries.map fun e =>
      line requestedName (requestedLabels.zip e.1) (toString e.2))
    ++ heading launchedName "Number of healing actions by status" "gauge"
    ++ String.join (m.launchedTable.entries.map fun e =>
      line launchedName (launchedLabels.zip e.1) (toString e.2))

end Metrics

end Healing
