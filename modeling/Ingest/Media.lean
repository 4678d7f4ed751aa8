import Ingest.Path
/-!
# Media types

The media type of a file is guessed from its path.  How it is guessed is left open.
-/

namespace Ingest.Media

class Guess where
  typeOf? : Path → Option String

end Ingest.Media
