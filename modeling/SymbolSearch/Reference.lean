import SymbolSearch.Bytes.Digest
import SymbolSearch.Files
import SymbolSearch.Image

/-!
# References

A reference is the path of a compiled assembly together with the bytes of its image,
which are not checked before they are read. The checksum of the bytes stands for them
where references are compared.
-/

set_option autoImplicit false

namespace SymbolSearch

/-- A reference to a compiled assembly. -/
structure Reference where
  path : Path
  bytes : List UInt8
  checksum : String
  checksum_eq : checksum = Bytes.checksum bytes

namespace Reference

/-- The reference at a path with the given bytes. -/
def ofBytes (path : Path) (bytes : List UInt8) : Reference :=
  ⟨path, bytes, Bytes.checksum bytes, rfl⟩

/-- A reference whose image has the given contents. -/
def ofDeclarations (path : Path) (assemblyName : String) (declarations : List Declaration) :
    Reference :=
  ofBytes path (Image.new assemblyName declarations).encode

/-- The reference to a file. -/
def load (files : Files) (path : Path) : Except Error Reference :=
  inContext ("reading metadata reference " ++ path.text)
    (((files.read path).mapError Error.file).map (ofBytes path))

/-- The image of a reference. -/
def image (r : Reference) : Except Error Image :=
  inContext ("decoding metadata reference " ++ r.path.text) (Image.decode r.bytes)

/-- Both references have the same path, component by component, and the same checksum. -/
def sameAs (r s : Reference) : Bool := r.path.sameAs s.path && r.checksum = s.checksum

/-- Both references have the same checksum and their paths the same text. -/
def sameText (r s : Reference) : Bool := r.path.text = s.path.text && r.checksum = s.checksum

/-- A description for diagnostics. -/
def describe (r : Reference) : String :=
  "MetadataReference \x7b path: " ++ Text.quoted r.path.text ++ ", checksum: "
    ++ Text.quoted r.checksum ++ ", len: " ++ toString r.bytes.length ++ " \x7d"

end Reference

end SymbolSearch
