import SymbolSearch.Error
import SymbolSearch.Pattern.Reader
import SymbolSearch.Symbol
import SymbolSearch.Text.EditDistance

/-!
# Queries

A query says which names are looked for: an exact name, a part of a name, a pattern, a
name of a similar spelling. A custom query instead decides about whole symbols and
accepts every name.
-/

set_option autoImplicit false

namespace SymbolSearch

/-- What to look for. -/
inductive Query where
  | exact (name : String) (ignoreCase : Bool)
  | substring (text : String) (ignoreCase : Bool)
  | pattern (text : String) (pattern : Pattern)
  /-- At most `distance` edits away from `name`, which is in lower case. -/
  | fuzzy (name : String) (distance : Nat)
  | custom (accepts : Symbol → Bool)

/-- The sorts of queries. -/
inductive QueryKind where
  | exact
  | predicate
  | custom
  deriving DecidableEq, Repr

/-- The name of a sort of queries. -/
def QueryKind.name : QueryKind → String
  | .exact => "Exact"
  | .predicate => "Predicate"
  | .custom => "Custom"

namespace Query

/-- Names that a pattern matches. -/
def ofPattern (text : String) : Except Error Query :=
  match Pattern.read? text with
  | some p => .ok (.pattern text p)
  | none => .error (.invalidPattern text "malformed pattern")

/-- Names of a similar spelling. One edit is allowed, or one for every four characters. -/
def similar (name : String) : Query :=
  let name := Text.lower name
  .fuzzy name (max (name.length / 4) 1)

/-- The sort of a query. -/
def kind : Query → QueryKind
  | .exact .. => .exact
  | .substring .. | .pattern .. | .fuzzy .. => .predicate
  | .custom _ => .custom

/-- The name that an exact query looks for. -/
def name? : Query → Option String
  | .exact name _ => some name
  | _ => none

/-- Letter case does not count. -/
def ignoresCase : Query → Bool
  | .exact _ ignoreCase | .substring _ ignoreCase => ignoreCase
  | .fuzzy .. => true
  | .pattern .. | .custom _ => false

/-- The query accepts a name. -/
def matchesName : Query → String → Bool
  | .exact name ignoreCase, candidate =>
      if ignoreCase then Text.lower name = Text.lower candidate else name = candidate
  | .substring text ignoreCase, candidate =>
      if ignoreCase then
        Text.occursIn (Text.lowerChars text.toList) (Text.lowerChars candidate.toList)
      else Text.occursIn text.toList candidate.toList
  | .pattern _ p, candidate => p.matchesIn candidate
  | .fuzzy name distance, candidate =>
      Text.editDistance name.toList (Text.lowerChars candidate.toList) ≤ distance
  | .custom _, _ => true

/-- The query accepts a symbol. -/
def matchesSymbol : Query → Symbol → Bool
  | .custom accepts, s => accepts s
  | query, s => query.matchesName s.name

/-- A description for diagnostics. -/
def describe : Query → String
  | .exact name ignoreCase =>
      "Exact \x7b name: " ++ Text.quoted name ++ ", ignore_case: " ++ toString ignoreCase ++ " \x7d"
  | .substring text ignoreCase =>
      "Substring \x7b text: " ++ Text.quoted text ++ ", ignore_case: " ++ toString ignoreCase
        ++ " \x7d"
  | .pattern text _ => "Regex(" ++ Text.quoted text ++ ")"
  | .fuzzy name distance =>
      "Fuzzy \x7b name: " ++ Text.quoted name ++ ", max_distance: " ++ toString distance ++ " \x7d"
  | .custom _ => "Custom"

end Query

end SymbolSearch
