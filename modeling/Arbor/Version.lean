/-!
# Version

The version of the library, which grows when its behaviour does.
-/

namespace Arbor

/-- The version of the library. -/
def version : String := "0.1.0"

end Arbor
