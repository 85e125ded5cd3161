/-!
# Occurrences and pieces of a text

`occursIn` decides whether a sequence of characters stands somewhere in another,
and `splitAt` cuts a text at every occurrence of one character.
-/

set_option autoImplicit false

namespace SymbolSearch.Text

/-- `needle` stands at some place in the second text. -/
def occursIn (needle : List Char) : List Char → Bool
  | [] => needle.isEmpty
  | c :: cs => needle.isPrefixOf (c :: cs) || occursIn needle cs

/-- The pieces of a text between the occurrences of `separator`. There is one
piece more than there are occurrences. -/
def splitAt (separator : Char) : List Char → List (List Char)
  | [] => [[]]
  | c :: cs =>
      if c = separator then [] :: splitAt separator cs
      else
        match splitAt separator cs with
        | [] => [[c]]
        | piece :: pieces => (c :: piece) :: pieces

end SymbolSearch.Text
