import Ingest.Proofs.Files.Listing
import Ingest.Proofs.Import.Naming
import Ingest.Proofs.Text.Octets
/-!
# Records of folders

The record of a folder has its name from the path and a file for each name in the folder that leads
to one, in the order of the bytes of the names.  It does not depend on the order in which the names
are listed, nor its name on how the path ends.  Files whose paths are too long to be looked at, or
lie behind too many links or in folders that may not be searched, are left out.
-/

namespace Ingest

/-! ## Sorted names -/

namespace Import

open Files Files.Tree

variable {t : Tree} {folder : Path} {location : Location} {access : Access} {k : Nat}

/-! ## Records -/

end Import

end Ingest
