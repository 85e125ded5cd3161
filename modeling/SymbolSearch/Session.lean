import SymbolSearch.Cancellation
import SymbolSearch.Compilation
import SymbolSearch.Index.Store

/-!
# Searching

A search runs in a session, which holds what searches share and change: the token of the
running operation, the compilations built so far, the indexes and files at hand, and the
time. A project may keep records of its own in `caller`. A search that fails keeps the
session as it was at the failure.
-/

set_option autoImplicit false

namespace SymbolSearch

/-- The identity of a project. -/
structure ProjectId where
  number : Nat
  deriving DecidableEq, Repr

/-- The text of an identity. -/
def ProjectId.display (id : ProjectId) : String := "project#" ++ toString id.number

/-- A description for diagnostics. -/
def ProjectId.describe (id : ProjectId) : String := "ProjectId(" ++ toString id.number ++ ")"

/-- What searches share and change. -/
structure Session (κ : Type) where
  token : Token
  /-- The compilations of projects. -/
  compiled : List (ProjectId × Compilation)
  /-- The number of the next compilation. -/
  nextCompilation : Nat
  indexes : IndexStore
  files : Files
  now : Time.Instant
  caller : κ

/-- A computation in a session. -/
abbrev Search (κ α : Type) := ExceptT Error (StateM (Session κ)) α

namespace Search

variable {κ α β : Type}

/-- Go on only if the token is live. -/
def poll : Search κ Unit := do
  let s ← get
  if s.token.isCancelled then throw .cancelled
  set { s with token := s.token.polled }

/-- Cancel the token. -/
def cancel : Search κ Unit := modify fun s => { s with token := .cancelled }

/-- Visit items in turn, the first of which is at position `i`, and collect the results.
The token is polled at every position that `interval` divides. -/
def visitFrom (interval : Nat) (visit : α → Search κ (Option β)) :
    (i : Nat) → List α → Search κ (List β)
  | _, [] => pure []
  | i, a :: as => do
      if i % interval = 0 then poll
      let found ← visit a
      let rest ← visitFrom interval visit (i + 1) as
      pure (found.toList ++ rest)

/-- Visit items in turn and collect the results. -/
def visitAll (interval : Nat) (visit : α → Search κ (Option β)) (items : List α) :
    Search κ (List β) :=
  visitFrom interval visit 0 items

end Search

/-- How many symbols are looked at between two polls of the token. -/
def scanInterval : Nat := 256

/-- How many symbols are resolved elsewhere between two polls of the token. -/
def resolveInterval : Nat := 64

end SymbolSearch
