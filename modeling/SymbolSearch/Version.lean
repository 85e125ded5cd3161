/-!
# Versions

The version of the library and those of the two binary forms that it reads. A reader compares the
version that it finds with the one here and refuses any other.
-/

set_option autoImplicit false

namespace SymbolSearch

/-- The version of this library. -/
def version : String := "0.1.0"

/-- The marker of images that can be read. -/
def Image.formatMarker : UInt32 := 0x4D440001

/-- The version of indexes that can be read. -/
def Index.currentVersion : Nat := 2

end SymbolSearch
