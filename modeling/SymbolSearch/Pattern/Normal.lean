import SymbolSearch.Pattern.Extent

/-!
# Patterns in normal form

A pattern in normal form has no row within a row, no choice within a choice, no literals
side by side and no repetition that changes nothing; what all members of a choice
begin with stands in front of it. The functions below build such patterns from others.
-/

set_option autoImplicit false

namespace SymbolSearch.Pattern

/-- A pattern for one member of a set. -/
def ofSet (s : CharSet) : Pattern :=
  match s.only? with
  | some c => .literal [c]
  | none => .chars s

/-- A pattern repeated. Empty matches need no second turn. -/
def repeated (p : Pattern) (least : Nat) (most : Option Nat) (greedy : Bool) : Pattern :=
  let empty := p.extent.most == some 0
  let least := if empty then min least 1 else least
  let most := if empty then some (min (most.getD 1) 1) else most
  if least = 0 && most = some 0 then .empty
  else if least = 1 && most = some 1 then p
  else .times p least most greedy

/-- The members of a row. -/
def rowOf : Pattern → List Pattern
  | .append ps => ps
  | .empty => []
  | p => [p]

/-- Literals side by side joined into one. -/
def joinLiterals : List Pattern → List Pattern
  | [] => []
  | p :: ps =>
      match p, joinLiterals ps with
      | .literal cs, .literal ds :: rest => .literal (cs ++ ds) :: rest
      | p, rest => p :: rest

/-- Patterns in a row. -/
def inOrder (ps : List Pattern) : Pattern :=
  match joinLiterals (ps.flatMap rowOf) with
  | [] => .empty
  | [p] => p
  | ps => .append ps

/-- The members of a choice. -/
def choiceOf : Pattern → List Pattern
  | .either ps => ps
  | p => [p]

/-- The set of a literal of one character. -/
def asSingle? : Pattern → Option CharSet
  | .literal [c] => some (.single c)
  | _ => none

/-- The set of a pattern for one of its members. -/
def asSet? : Pattern → Option CharSet
  | .chars s => some s
  | _ => none

/-- The union of sets. -/
def unionOf (ss : List CharSet) : CharSet := ss.foldl CharSet.union .empty

/-- A choice between patterns that are no choices: one set, if all are single characters or
all are sets. -/
def choice (ps : List Pattern) : Pattern :=
  match ps with
  | [p] => p
  | _ =>
      match ps.mapM asSingle? with
      | some ss => ofSet (unionOf ss)
      | none =>
          match ps.mapM asSet? with
          | some ss => ofSet (unionOf ss)
          | none => .either ps

/-- The members that two rows have in common at their beginning. -/
def commonPart : List Pattern → List Pattern → List Pattern
  | p :: ps, q :: qs => if p.sameAs q then p :: commonPart ps qs else []
  | _, _ => []

/-- The members of a pattern that is a row. -/
def asRow? : Pattern → Option (List Pattern)
  | .append ps => some ps
  | _ => none

/-- One of several patterns. What all of them begin with is taken out of the choice. -/
def oneOf (ps : List Pattern) : Pattern :=
  let ps := ps.flatMap choiceOf
  let whole := choice ps
  match whole, ps.mapM asRow? with
  | .either _, some (row :: rows) =>
      match rows.foldl commonPart row with
      | [] => whole
      | shared =>
          let rests := (row :: rows).map fun r => inOrder (r.drop shared.length)
          inOrder (shared ++ [choice (rests.flatMap choiceOf)])
  | _, _ => whole

end SymbolSearch.Pattern
