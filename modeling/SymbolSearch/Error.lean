import SymbolSearch.Bytes.Codec
import SymbolSearch.Json.Reader
import SymbolSearch.Path

/-!
# Errors

The causes for which an operation fails. An error may be wrapped in the description of
what was being done; a cancellation stays a cancellation under any such wrapping.
-/

set_option autoImplicit false

namespace SymbolSearch

/-- Why a file operation fails. -/
inductive FileFault where
  | notFound
  | notADirectory
  | isADirectory
  | alreadyExists
  | invalidFilename
  | invalidInput
  | resourceBusy
  deriving DecidableEq, Repr

/-- The name of a file fault. -/
def FileFault.name : FileFault → String
  | .notFound => "NotFound"
  | .notADirectory => "NotADirectory"
  | .isADirectory => "IsADirectory"
  | .alreadyExists => "AlreadyExists"
  | .invalidFilename => "InvalidFilename"
  | .invalidInput => "InvalidInput"
  | .resourceBusy => "ResourceBusy"

/-- The wording of a file fault. -/
def FileFault.message : FileFault → String
  | .notFound => "No such file or directory (os error 2)"
  | .notADirectory => "Not a directory (os error 20)"
  | .isADirectory => "Is a directory (os error 21)"
  | .alreadyExists => "File exists (os error 17)"
  | .invalidFilename => "File name too long (os error 36)"
  | .invalidInput => "file name contained an unexpected NUL byte"
  | .resourceBusy => "Device or resource busy (os error 16)"

/-- The name of a fault in a text that should be JSON. -/
def Json.Fault.name : Json.Fault → String
  | .malformed => "Syntax"
  | .mismatch => "Data"
  | .cutShort => "Eof"

/-- The wording of a fault in a text that should be JSON. -/
def Json.Fault.message : Json.Fault → String
  | .malformed => "malformed text"
  | .mismatch => "unexpected value"
  | .cutShort => "unexpected end of text"

/-- Why an operation fails. -/
inductive Error where
  /-- The token of the operation was cancelled. -/
  | cancelled
  | invalidPattern (pattern message : String)
  | file (fault : FileFault)
  | json (fault : Json.Fault)
  | encoding (fault : Bytes.DecodeError)
  | index (path : Path) (message : String)
  | imageFormat (found : Nat)
  | invalidConfig (message : String)
  | task (message : String)
  /-- A search that needs names was given a custom query. -/
  | customQuery
  | withContext (context : String) (source : Error)
  deriving DecidableEq, Repr

namespace Error

/-- The wording of an error. -/
def message : Error → String
  | .cancelled => "Operation cancelled"
  | .invalidPattern pattern message => "Invalid pattern '" ++ pattern ++ "': " ++ message
  | .file fault => "IO error: " ++ fault.message
  | .json fault => "JSON error: " ++ fault.message
  | .encoding fault => "Index encoding error: " ++ fault.message
  | .index path message => "Symbol index error for " ++ path.text ++ ": " ++ message
  | .imageFormat found =>
      "Unsupported metadata image format 0x" ++ String.ofList (Text.hexDigits found)
  | .invalidConfig message => "Invalid configuration: " ++ message
  | .task message => "Background task failed: " ++ message
  | .customQuery => "custom queries cannot collect declarations"
  | .withContext context source => context ++ ": " ++ source.message

/-- The error is a cancellation, whatever context it is wrapped in. -/
def isCancelled : Error → Bool
  | .cancelled => true
  | .withContext _ source => source.isCancelled
  | _ => false

/-- The wordings of an error and of its causes, outermost first. -/
def chain : Error → List String
  | .withContext context source => (withContext context source).message :: source.chain
  | .file fault => [(file fault).message, fault.message]
  | .json fault => [(json fault).message, fault.message]
  | .encoding fault => [(encoding fault).message, fault.message]
  | e => [e.message]

end Error

/-- Wrap the error of a failed computation in a context. -/
def inContext {α : Type} (context : String) (result : Except Error α) : Except Error α :=
  result.mapError (.withContext context)

end SymbolSearch
