import SymbolSearch.Text.Occurrence

/-!
# File paths

A path is kept as the text it was given as. Two paths name the same place if they have
the same components: repeated slashes, a slash at the end and inner full stops do not
count.
-/

set_option autoImplicit false

namespace SymbolSearch

/-- A file path. -/
structure Path where
  text : String
  deriving DecidableEq, Repr

namespace Path

/-- The path begins at the root. -/
def isAbsolute (p : Path) : Bool := p.text.toList.head? = some '/'

/-- The path ends in a slash. -/
def endsInSlash (p : Path) : Bool := p.text.toList.getLast? = some '/'

/-- What stands between the slashes, where it is not empty. -/
def names (p : Path) : List String :=
  ((Text.splitAt '/' p.text.toList).map String.ofList).filter (· ≠ "")

/-- The parts of a path: a slash for the root, a full stop if the path begins with one, and
the other names. -/
def components (p : Path) : List String :=
  let start :=
    if p.isAbsolute then ["/"] else if p.names.head? = some "." then ["."] else []
  start ++ p.names.filter (· ≠ ".")

/-- Both paths have the same components. -/
def sameAs (p q : Path) : Bool := p.components = q.components

/-- The path `q` as seen from `p`. -/
def join (p q : Path) : Path :=
  if q.isAbsolute || p.text = "" then q
  else if p.endsInSlash then ⟨p.text ++ q.text⟩
  else ⟨p.text ++ "/" ++ q.text⟩

/-! ## Parents -/

/-- The path with the given components. -/
def ofComponents : List String → Path
  | "/" :: names => ⟨"/" ++ String.intercalate "/" names⟩
  | names => ⟨String.intercalate "/" names⟩

/-- The path without its last component. The root has no parent. -/
def parent? (p : Path) : Option Path :=
  if p.components = [] || p.components = ["/"] then none
  else some (ofComponents p.components.dropLast)

/-- The paths with the first components of a path, at least one of them besides the root,
longest first. -/
def upwards : List String → List Path
  | [] => []
  | name :: names =>
      let inside := (upwards names).map fun q => (ofComponents [name]).join q
      if name = "/" then inside else inside ++ [ofComponents [name]]

/-- A path and the paths around it from the nearest one on, without the root. -/
def ancestors (p : Path) : List Path :=
  if p.parent?.isNone then [] else p :: upwards p.components.dropLast

/-! ## File names -/

/-- The name of the file that a path leads to. -/
def fileName? (p : Path) : Option String :=
  p.components.getLast?.filter fun name => !(["/", ".", ".."].contains name)

/-- The part of a file name before its last full stop, unless that is its first character. -/
def stem (name : String) : String :=
  let reversed := name.toList.reverse
  match reversed.dropWhile (· ≠ '.') with
  | _ :: rest => if rest.isEmpty then name else String.ofList rest.reverse
  | [] => name

/-- The path whose file name has another extension. If only a full stop stands before the
extension to be replaced, it and the one behind it lead to the directory above; but what
stands behind the file name keeps the extension from being taken away at first. -/
def withExtension (p : Path) (extension : String) : Path :=
  match p.fileName?, p.parent? with
  | some name, some parent =>
      let newName :=
        if stem name = "." && p.names.getLast? = some name && !p.endsInSlash then ".."
        else stem name ++ "." ++ extension
      parent.join ⟨newName⟩
  | _, _ => p

end Path

end SymbolSearch
