import SymbolSearch.Error

/-!
# Files

A tree of directories and plain files, as a finite map from places; a place is the list
of the names on the way to it. A path is followed name by name from the root: one full
stop stays in the directory, two lead to the one above, and a slash behind the last name
asks for a directory. An operation reports the first fault that it meets on its way; what
it has changed before stays changed.
-/

set_option autoImplicit false

namespace SymbolSearch

/-- What is at a place. -/
inductive FileEntry where
  | directory
  | file (bytes : List UInt8)
  deriving DecidableEq, Repr

/-- The places other than the root and what is there. -/
structure Files where
  entries : List (List String × FileEntry)

/-- Where a path leads: to a name in a directory, or to the directory itself. -/
structure Goal where
  directory : List String
  name : Option String
  deriving DecidableEq, Repr

/-- A computation on files. If it fails, what it has changed before stays changed. -/
abbrev FileAction (α : Type) := ExceptT FileFault (StateM Files) α

namespace Files

/-- No files. -/
def empty : Files := ⟨[]⟩

/-- What is at a place. The root is a directory. -/
def entry? (files : Files) (place : List String) : Option FileEntry :=
  if place.isEmpty then some .directory else files.entries.lookup place

/-- Put an entry at a place. -/
def put (files : Files) (place : List String) (entry : FileEntry) : Files :=
  ⟨(place, entry) :: files.entries.filter fun item => item.1 ≠ place⟩

/-- Remove the entry at a place. -/
def erase (files : Files) (place : List String) : Files :=
  ⟨files.entries.filter fun item => item.1 ≠ place⟩

/-! ## Following a path -/

/-- The greatest number of bytes of a name. -/
def nameLimit : Nat := 255

/-- The greatest number of bytes of a path. -/
def pathLimit : Nat := 4095

/-- The entry with a name in a directory, if there is one. -/
def lookUp (files : Files) (directory : List String) (name : String) :
    Except FileFault (Option FileEntry) :=
  if nameLimit < name.utf8ByteSize then .error .invalidFilename
  else .ok (files.entry? (directory ++ [name]))

/-- The directory that a name leads to from a directory. -/
def enter (files : Files) (directory : List String) (name : String) :
    Except FileFault (List String) :=
  if name = "." then .ok directory
  else if name = ".." then .ok directory.dropLast
  else
    match files.lookUp directory name with
    | .error fault => .error fault
    | .ok none => .error .notFound
    | .ok (some (.file _)) => .error .notADirectory
    | .ok (some .directory) => .ok (directory ++ [name])

/-- Where names lead to from a directory. There need not be anything of the last name. -/
def follow (files : Files) (directory : List String) : List String → Except FileFault Goal
  | [] => .ok ⟨directory, none⟩
  | [name] =>
      if name = "." then .ok ⟨directory, none⟩
      else if name = ".." then .ok ⟨directory.dropLast, none⟩
      else .ok ⟨directory, some name⟩
  | name :: names =>
      match files.enter directory name with
      | .error fault => .error fault
      | .ok next => files.follow next names

/-- Where a path leads. -/
def locate (files : Files) (path : Path) : Except FileFault Goal :=
  if path.text.toList.contains '\x00' then .error .invalidInput
  else if path.text = "" then .error .notFound
  else if pathLimit < path.text.utf8ByteSize then .error .invalidFilename
  else files.follow [] path.names

/-! ## Looking -/

/-- What a path leads to. -/
def find (files : Files) (path : Path) : Except FileFault FileEntry := do
  let goal ← files.locate path
  match goal.name with
  | none => .ok .directory
  | some name =>
      match ← files.lookUp goal.directory name with
      | none => .error .notFound
      | some .directory => .ok .directory
      | some (.file bytes) =>
          if path.endsInSlash then .error .notADirectory else .ok (.file bytes)

/-- A path leads to something. -/
def exists? (files : Files) (path : Path) : Bool := (files.find path).isOk

/-- A path leads to a directory. -/
def isDirectory (files : Files) (path : Path) : Bool :=
  match files.find path with
  | .ok .directory => true
  | _ => false

/-- The bytes of a plain file. -/
def read (files : Files) (path : Path) : Except FileFault (List UInt8) := do
  match ← files.find path with
  | .directory => .error .isADirectory
  | .file bytes => .ok bytes

/-- The places of all plain files. -/
def plainFiles (files : Files) : List (List String) :=
  files.entries.filterMap fun item =>
    match item.2 with
    | .directory => none
    | .file _ => some item.1

/-! ## Changing -/

/-- The files after writing a plain file into an existing directory. -/
def written (files : Files) (path : Path) (bytes : List UInt8) : Except FileFault Files := do
  let goal ← files.locate path
  match goal.name with
  | none => .error .isADirectory
  | some name =>
      if path.endsInSlash then .error .isADirectory
      else
        match ← files.lookUp goal.directory name with
        | some .directory => .error .isADirectory
        | _ => .ok (files.put (goal.directory ++ [name]) (.file bytes))

/-- The files with a new directory in an existing one. -/
def withDirectory (files : Files) (path : Path) : Except FileFault Files := do
  let goal ← files.locate path
  match goal.name with
  | none => .error .alreadyExists
  | some name =>
      match ← files.lookUp goal.directory name with
      | some _ => .error .alreadyExists
      | none => .ok (files.put (goal.directory ++ [name]) .directory)

/-- The files after moving a plain file, in place of another one if there is one. -/
def renamed (files : Files) (source target : Path) : Except FileFault Files := do
  let old ← files.locate source
  let new ← files.locate target
  match old.name, new.name with
  | some oldName, some newName =>
      match ← files.lookUp old.directory oldName with
      | none => .error .notFound
      | some .directory => .error .isADirectory
      | some (.file bytes) =>
          let replaced ← files.lookUp new.directory newName
          if source.endsInSlash || target.endsInSlash then .error .notADirectory
          else if replaced = some .directory then .error .isADirectory
          else
            .ok ((files.erase (old.directory ++ [oldName])).put (new.directory ++ [newName])
              (.file bytes))
  | _, _ => .error .resourceBusy

end Files

namespace FileAction

/-- Change the files, unless there is a fault. -/
def change (result : Files → Except FileFault Files) : FileAction Unit := do
  match result (← get) with
  | .error fault => throw fault
  | .ok files => set files

/-- Write a plain file into an existing directory. -/
def write (path : Path) (bytes : List UInt8) : FileAction Unit := change (·.written path bytes)

/-- Move a plain file. -/
def rename (source target : Path) : FileAction Unit := change (·.renamed source target)

/-- Make a directory in an existing one, unless it is there already. -/
def makeDirectory (path : Path) : FileAction Unit := do
  if (← get).isDirectory path then pure () else change (·.withDirectory path)

/-- Make the first of some directories, where each is inside the next one. The directories
around it are made only if it cannot be made without them. -/
def makeInside : List Path → FileAction Unit
  | [] => pure ()
  | path :: above =>
      tryCatch (makeDirectory path) fun fault => do
        if fault ≠ .notFound then throw fault
        makeInside above
        makeDirectory path

/-- Make a directory and the missing directories around it. -/
def makeDirectories (path : Path) : FileAction Unit := makeInside path.ancestors

/-- Make the missing directories around a file. -/
def makeRoom (path : Path) : FileAction Unit :=
  match path.parent? with
  | some parent => makeDirectories parent
  | none => pure ()

/-- Write a plain file, making the missing directories around it. -/
def writeAnew (path : Path) (bytes : List UInt8) : FileAction Unit := do
  makeRoom path
  write path bytes

end FileAction

end SymbolSearch
