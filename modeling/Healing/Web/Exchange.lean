/-
  Requests and responses.

  1. **Requests** - `Web.Request`, as the service receives it; a route is found by the path alone.
  2. **Responses** - `Web.Response`.
-/
import Healing.Json.Writer

namespace Healing.Web

/-! ## Requests -/

/-- A request. -/
structure Request where
  method : String
  /-- The path, with what may follow it: a query or a fragment. -/
  target : String
  contentType : Option String := none
  body : String := ""
deriving Inhabited

/-- The path of a target: what stands before a query or a fragment. -/
def pathOf (target : String) : String :=
  String.ofList (target.toList.takeWhile fun c => c ≠ '?' && c ≠ '#')

/-! ## Responses -/

/-- A response. -/
structure Response where
  status : Nat
  contentType : Option String := none
  body : String := ""
deriving DecidableEq, Repr, Inhabited

namespace Response

/-- Whether the request has been granted. -/
def succeeded (r : Response) : Bool := 200 ≤ r.status && r.status < 300

/-- Whether the request has been refused. -/
def isRefusal (r : Response) : Bool := 400 ≤ r.status && r.status < 600

/-- A response that only tells its status. -/
def bare (status : Nat) : Response := { status }

/-- A response with a JSON value. -/
def json (status : Nat) (j : Json) : Response :=
  { status, contentType := some "application/json", body := j.compress }

/-- The response to a request for the head alone. -/
def head (r : Response) : Response := { r with body := "" }

end Response

end Healing.Web
