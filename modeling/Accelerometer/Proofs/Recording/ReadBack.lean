import Accelerometer.Proofs.Recording.Ledger
import Accelerometer.Proofs.Session.ReadBack

/-!
# Recording, and then loading

What loading the file of a recording gives.
-/

namespace Accelerometer.Proofs.Recording
open Proofs.Serial Proofs.Session Proofs.Storage Proofs.Text

variable {σ : Type}

end Accelerometer.Proofs.Recording
