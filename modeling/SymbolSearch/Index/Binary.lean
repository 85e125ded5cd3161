import SymbolSearch.Files
import SymbolSearch.Index.Basic

/-!
# Stored indexes

The binary form of an index, and its file. A file is first written beside its place and
then moved there. A file is read only if its version and its tables are in order.
-/

set_option autoImplicit false

namespace SymbolSearch

open SymbolSearch.Bytes

/-- The binary form of a node. -/
def IndexedDeclaration.encode (node : IndexedDeclaration) : List UInt8 :=
  encodeText node.name ++ node.kind.encode ++ encode32 node.arity.toNat ++ encode32 node.ordinal
    ++ encodeOption encode32 node.parent

/-- Read a node. -/
def IndexedDeclaration.decoder : Decoder IndexedDeclaration := do
  let name ← Decoder.text
  let kind ← Kind.decoder
  let arity ← Decoder.word32
  let ordinal ← Decoder.word32
  let parent ← Decoder.option Decoder.word32
  pure ⟨name, kind, UInt32.ofNat arity, ordinal, parent⟩

namespace Index

/-- The binary form of an index. -/
def encode (index : Index) : List UInt8 :=
  encode32 index.version ++ encodeText index.checksum ++ encodeText index.assemblyName
    ++ encodeText index.builtAt.timestamp ++ encodeList IndexedDeclaration.encode index.nodes.toList
    ++ encodeList encode32 index.sorted.toList ++ encodeList encodeText index.foldedNames.toList

/-- Read a timestamp. -/
def timestampDecoder : Decoder Time.Instant := do
  let text ← Decoder.text
  match Time.readTimestamp text with
  | .ok t => pure t
  | .error reason => Decoder.fail (.badTimestamp reason)

/-- Read the fields of an index. -/
def decoder : Decoder Index := do
  let version ← Decoder.word32
  let checksum ← Decoder.text
  let assemblyName ← Decoder.text
  let builtAt ← timestampDecoder
  let nodes ← Decoder.list IndexedDeclaration.decoder
  let sorted ← Decoder.list Decoder.word32
  let foldedNames ← Decoder.list Decoder.text
  pure ⟨version, checksum, assemblyName, builtAt, nodes.toArray, sorted.toArray,
    foldedNames.toArray⟩

/-- The index that the bytes of the file at `path` hold. -/
def decode (path : Path) (bytes : List UInt8) : Except Error Index :=
  match decoder bytes with
  | .error fault => .error (.encoding fault)
  | .ok (index, _) =>
      if index.version ≠ currentVersion then
        .error (.index path (Fault.wrongVersion index.version).message)
      else
        match index.fault? with
        | some fault => .error (.index path fault.message)
        | none => .ok index

/-- The index in a file. -/
def load (files : Files) (path : Path) : Except Error Index :=
  match files.read path with
  | .error fault => .error (.file fault)
  | .ok bytes => decode path bytes

/-- Store an index in a file, making the directories around it. It is written to a file
beside, which then takes the place of the old one. -/
def save (index : Index) (path : Path) : FileAction Unit := do
  let beside := path.withExtension "tmp"
  FileAction.makeRoom path
  FileAction.write beside index.encode
  FileAction.rename beside path

end Index

end SymbolSearch
