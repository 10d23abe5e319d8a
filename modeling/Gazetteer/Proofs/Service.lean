import Gazetteer.Proofs.Request.Attempt
import Gazetteer.Service

/-! # Calls in turn

A service remembers which languages it has tried to load, and nothing else. What it remembers makes
no difference to what it hands out, so every call has the outcome that it has on its own.
-/

namespace Gazetteer

variable {s : Storage} {c d : Cabinet}

namespace Survey

variable {scope : Scope}

end Survey

namespace Request

end Request

namespace Call

end Call

end Gazetteer
