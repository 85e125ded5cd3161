import SymbolSearch.Files
import SymbolSearch.Json.Writer

/-!
# Configuration

Where indexes are kept, whether they are written at all, and how old they may get. The
configuration is stored as JSON; a missing or faulty file stands for the default.
-/

set_option autoImplicit false

namespace SymbolSearch

/-- The configuration of a search. -/
structure Config where
  /-- The directory for stored indexes. -/
  indexDirectory : Option Path
  /-- Newly built indexes are stored. -/
  storesIndexes : Bool
  /-- Stored indexes older than this are built anew. -/
  maxAgeHours : UInt64
  deriving DecidableEq, Repr

namespace Config

/-- No directory, storing switched on, one week. -/
def default : Config := ⟨none, true, 168⟩

/-- The same configuration with a directory for stored indexes. -/
def withDirectory (c : Config) (directory : Path) : Config :=
  { c with indexDirectory := some directory }

/-- Both configurations say the same; paths are compared by their components. -/
def sameAs (c d : Config) : Bool :=
  c.indexDirectory.map Path.components = d.indexDirectory.map Path.components
    && c.storesIndexes = d.storesIndexes && c.maxAgeHours = d.maxAgeHours

/-- A description for diagnostics. -/
def describe (c : Config) : String :=
  "FinderConfig \x7b index_cache_dir: "
    ++ (match c.indexDirectory with
      | none => "None"
      | some path => "Some(" ++ Text.quoted path.text ++ ")")
    ++ ", persist_indexes: " ++ toString c.storesIndexes ++ ", max_index_age_hours: "
    ++ toString c.maxAgeHours.toNat ++ " \x7d"

/-! ## JSON -/

open SymbolSearch.Json

/-- The fields of a configuration as far as they have been read. -/
structure Fields where
  directory : Option (Option String)
  stores : Option Bool
  maxAge : Option Nat

/-- A configuration with the given fields. Missing fields have their defaults. -/
def ofFields (seen : Fields) : Config :=
  ⟨(seen.directory.getD none).map Path.mk, seen.stores.getD default.storesIndexes,
    (seen.maxAge.map UInt64.ofNat).getD default.maxAgeHours⟩

/-- The record of a configuration. -/
def fieldRecord : Reader.Record Fields Config where
  empty := ⟨none, none, none⟩
  member name seen :=
    match name with
    | "index_cache_dir" => do
        let directory ← Reader.once seen.directory (Reader.option Reader.text)
        pure { seen with directory }
    | "persist_indexes" => do
        let stores ← Reader.once seen.stores Reader.bool
        pure { seen with stores }
    | "max_index_age_hours" => do
        let maxAge ← Reader.once seen.maxAge (Reader.natural UInt64.size)
        pure { seen with maxAge }
    | _ => do
        Reader.unknown
        pure seen
  build seen := pure (ofFields seen)
  fields := do
    let directory ← Reader.item? true (Reader.option Reader.text)
    let stores ← Reader.item? false Reader.bool
    let maxAge ← Reader.item? false (Reader.natural UInt64.size)
    pure (ofFields ⟨directory, stores, maxAge⟩)

/-- Read a configuration. An age of zero is refused. -/
def ofJson (text : String) : Except Error Config :=
  match Json.read (Reader.record maxDepth fieldRecord) text with
  | .error fault => .error (.json fault)
  | .ok c =>
      if c.maxAgeHours = 0 then .error (.invalidConfig "max_index_age_hours must be positive")
      else .ok c

/-- The JSON text of a configuration. -/
def toJson (c : Config) : String :=
  writeObject
    [("index_cache_dir", writeOption (fun path => writeText path.text) c.indexDirectory),
      ("persist_indexes", writeBool c.storesIndexes),
      ("max_index_age_hours", toString c.maxAgeHours.toNat)]

/-! ## Files -/

/-- The configuration file of a workspace. -/
def filePath (workspace : Path) : Path :=
  (workspace.join ⟨".declaration_finder"⟩).join ⟨"config.json"⟩

/-- The directory for stored indexes of a user, inside the one for caches. A cache directory
that is no absolute path is passed over. -/
def userDirectory (cacheDirectory : Option Path) (home : Path) : Path :=
  let caches :=
    match cacheDirectory with
    | some directory => if directory.isAbsolute then directory else home.join ⟨".cache"⟩
    | none => home.join ⟨".cache"⟩
  (caches.join ⟨"declaration_finder"⟩).join ⟨"indexes"⟩

/-- The configuration in a file, or the default one. -/
def load (files : Files) (path : Path) : Config :=
  match files.read path with
  | .error _ => default
  | .ok bytes =>
      match String.fromUTF8? ⟨bytes.toArray⟩ with
      | none => default
      | some text =>
          match ofJson text with
          | .error _ => default
          | .ok c => c

/-- Store the configuration in a file, making the directories around it. -/
def save (c : Config) (path : Path) : FileAction Unit :=
  FileAction.writeAnew path (Bytes.utf8 c.toJson)

end Config

end SymbolSearch
