import SymbolSearch.Declaration.Json
import SymbolSearch.NameIndex
import SymbolSearch.Session

/-!
# Projects

A project is anything that can tell whether it may contain a name and that can be asked
for its compilation. A request is answered at once or later, so that the compilations of
several projects can be waited for together. A source project is made of documents; it
builds its compilation when first asked, and keeps it.
-/

set_option autoImplicit false

namespace SymbolSearch

/-- The answer to a request: the result, or what is still to be done for it. -/
inductive Reply (κ α : Type) where
  | ready (result : α)
  | pending (resume : Search κ α)

/-- The result of a request, waiting for it if necessary. -/
def Reply.wait {κ α : Type} : Reply κ α → Search κ α
  | .ready result => pure result
  | .pending resume => resume

/-- The result has to be waited for. -/
def Reply.isPending {κ α : Type} : Reply κ α → Bool
  | .ready _ => false
  | .pending _ => true

/-- A project as searches see it. -/
structure Project (κ : Type) where
  id : ProjectId
  references : List Reference
  /-- A declaration may satisfy the query and the filter. Only the answer no is binding. -/
  mightContain : Query → Filter → Search κ Bool
  /-- Ask for the compilation. -/
  request : Search κ (Reply κ Compilation)

namespace Project

variable {κ : Type}

/-- The compilation of a project. -/
def compilation (p : Project κ) : Search κ Compilation := do
  let reply ← p.request
  reply.wait

end Project

/-- A project made of documents and references. -/
structure DocumentProject where
  id : ProjectId
  name : String
  assemblyName : String
  documents : List Document
  references : List Reference

namespace DocumentProject

variable {κ : Type}

/-- The declarations of each document. -/
def trees (p : DocumentProject) : List (List Declaration) := p.documents.map Document.declarations

/-- The declared names. -/
def nameIndex (p : DocumentProject) : NameIndex := NameIndex.build p.trees

/-- The compilation of the project with a given identity. -/
def compile (p : DocumentProject) (id : CompilationId) : Compilation :=
  Compilation.build id p.assemblyName p.trees p.references

/-- The compilation in a session, which is built there if necessary. -/
def compileIn (p : DocumentProject) (s : Session κ) : Compilation × Session κ :=
  match s.compiled.lookup p.id with
  | some c => (c, s)
  | none =>
      let c := p.compile ⟨s.nextCompilation⟩
      (c, { s with compiled := (p.id, c) :: s.compiled, nextCompilation := s.nextCompilation + 1 })

/-- Ask for the compilation. If it has to be built, the token is polled once more when the
build is done, and a build that nobody waits for is lost. -/
def request (p : DocumentProject) : Search κ (Reply κ Compilation) := do
  Search.poll
  match (← get).compiled.lookup p.id with
  | some c => pure (.ready c)
  | none =>
      pure (.pending do
        Search.poll
        let (c, s) := p.compileIn (← get)
        set s
        pure c)

/-- A source project as searches see it. -/
def toProject (p : DocumentProject) : Project κ where
  id := p.id
  references := p.references
  mightContain query filter := do
    Search.poll
    pure (p.nameIndex.mightContain query filter)
  request := p.request

/-- A description for diagnostics. -/
def describe (p : DocumentProject) : String :=
  "SourceProject \x7b id: " ++ p.id.describe ++ ", name: " ++ Text.quoted p.name
    ++ ", documents: " ++ toString p.documents.length
    ++ ", references: " ++ toString p.references.length ++ " \x7d"

end DocumentProject

/-- Projects that are searched together. -/
structure Solution (κ : Type) where
  projects : List (Project κ)
  indexes : IndexStore

namespace Solution

variable {κ : Type}

/-- The position of the first project with an identity. -/
def position? (s : Solution κ) (id : ProjectId) : Option Nat :=
  s.projects.findIdx? fun p => p.id = id

/-- A description for diagnostics. -/
def describe (s : Solution κ) : String :=
  "Solution \x7b projects: [" ++ String.intercalate ", " (s.projects.map fun p => p.id.describe)
    ++ "], config: " ++ s.indexes.config.describe ++ " \x7d"

end Solution

end SymbolSearch
