import SymbolSearch.Collect

/-!
# Finding declarations

The searches that callers run: all declarations that a project can see, the source
declarations of all projects, those that match a dotted pattern, and those that a
predicate on symbols accepts.
-/

set_option autoImplicit false

namespace SymbolSearch

variable {κ : Type}

/-! ## All declarations visible from a project -/

/-- The symbols that are not among `seen` or earlier ones. -/
def distinctAfter : (seen : List Symbol) → List Symbol → List Symbol
  | _, [] => []
  | seen, s :: rest =>
      if seen.any s.sameAs then distinctAfter seen rest else s :: distinctAfter (s :: seen) rest

/-- The symbols without repetitions, in order of their first occurrence. -/
def distinct (symbols : List Symbol) : List Symbol := distinctAfter [] symbols

/-- Append the matching declarations of each reference that has an assembly. -/
def collectReferences (c : Compilation) (query : Query) (filter : Filter) :
    List Reference → List Symbol → Search κ (List Symbol)
  | [], found => pure found
  | r :: rs, found => do
      match c.assemblyFor? r with
      | none => collectReferences c query filter rs found
      | some a => do
          let found ← collectMetadata a (some r) query filter found
          collectReferences c query filter rs found

/-- The declarations visible from a project: those of its source, then those of each
reference, with namespaces replaced by merged ones and without repetitions. -/
def findAll (p : Project κ) (query : Query) (filter : Filter) : Search κ (List Symbol) := do
  let found ← collectSource p query filter none []
  if found.isEmpty && p.references.isEmpty then pure found
  else do
    let c ← p.compilation
    let found ← collectReferences c query filter p.references found
    pure (distinct (c.normalize found))

/-! ## Source declarations of all projects -/

/-- Begin to search a project. If its compilation is at hand it is searched at once,
otherwise when the compilation has been waited for. -/
def beginSearch (query : Query) (filter : Filter) (p : Project κ) :
    Search κ (Reply κ (List Symbol)) := do
  match ← requestMatching p query filter with
  | none => pure (.ready [])
  | some (.ready c) => .ready <$> matchingIn c query filter none
  | some (.pending resume) =>
      pure (.pending do
        let c ← resume
        matchingIn c query filter none)

/-- Begin to search each project in turn. A failure ends the search at once, except that
one behind a project that is waited for is reported in its turn if failures are kept. -/
def beginEach (query : Query) (filter : Filter) (keepsFailures : Bool) :
    (waiting : Bool) → List (Project κ) → Search κ (List (Reply κ (List Symbol)))
  | _, [] => pure []
  | waiting, p :: ps => do
      let begun ←
        if waiting && keepsFailures then
          tryCatch (beginSearch query filter p) fun e => pure (.pending (throw e))
        else beginSearch query filter p
      let others ← beginEach query filter keepsFailures (waiting || begun.isPending) ps
      pure (begun :: others)

/-- Up to this many projects, a failure of one ends the search of all at once. -/
def immediateFailures : Nat := 30

/-- The source declarations of all projects, one project after the other. -/
def findSource (projects : List (Project κ)) (query : Query) (filter : Filter) :
    Search κ (List Symbol) := do
  let keepsFailures : Bool := immediateFailures < projects.length
  let begun ← beginEach query filter keepsFailures false projects
  let blocks ← begun.mapM Reply.wait
  pure blocks.flatten

/-! ## Dotted patterns -/

/-- The names of a dotted pattern, without white space around them. -/
def patternNames (pattern : String) : List (List Char) :=
  (Text.splitAt '.' (Text.trim pattern.toList)).map Text.trim

/-- The name that a dotted pattern asks for and the containers it has to be in, innermost
first. -/
def readDotted (pattern : String) : Except Error (String × List String) :=
  let names := patternNames pattern
  if names.any List.isEmpty then .error (.invalidPattern pattern "empty name segment")
  else
    match names.reverse.map String.ofList with
    | [] => .error (.invalidPattern pattern "empty pattern")
    | name :: containers => .ok (name, containers)

/-- The containers of a symbol have the given names, innermost first, except for letter
case. Global namespaces have no name. -/
def insideOf : List Node → List String → Bool
  | _, [] => true
  | [], _ :: _ => false
  | node :: above, name :: names =>
      !(node.kind.isNamespace && above.isEmpty) && Text.lower node.name = Text.lower name
        && insideOf above names

/-- The source declarations of a project whose name is the last one of a dotted pattern and
whose containers have the names before it, except for letter case. -/
def findDotted (p : Project κ) (pattern : String) (filter : Filter) :
    Search κ (List Symbol) := do
  match readDotted pattern with
  | .error e => throw e
  | .ok (name, containers) => do
      let found ← collectSource p (.exact name true) filter none []
      pure (found.filter fun s => insideOf s.above containers)

/-! ## Predicates on symbols -/

/-- The source declarations of a project that a predicate accepts. The predicate sees the
declared symbols in order. -/
def findWhere (p : Project κ) (accepts : Symbol → Search κ Bool) (filter : Filter) :
    Search κ (List Symbol) := do
  let c ← p.compilation
  let visit := fun s => do
    let accepted ← accepts s
    pure (if accepted then some s else none)
  let found ← Search.visitAll scanInterval visit c.source.declared
  pure (select found filter)

/-- The source declarations of a project that match a query of any sort. -/
def findMatching (p : Project κ) (query : Query) (filter : Filter) : Search κ (List Symbol) :=
  findWhere p (fun s => pure (query.matchesSymbol s)) filter

end SymbolSearch
