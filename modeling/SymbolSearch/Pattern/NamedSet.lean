import SymbolSearch.Pattern.CharSet
import SymbolSearch.Text.Script

/-!
# Named sets of characters

The short classes, the classes of ASCII and the sets that a property of characters
defines: general categories, a few binary properties and scripts. Patterns keep to an
earlier edition of the character tables than texts do: characters that came in since
then count as unassigned.
-/

set_option autoImplicit false
set_option maxRecDepth 4000

namespace SymbolSearch.Pattern

open SymbolSearch.Text

/-! ## The earlier edition -/

/-- Characters that are unassigned in patterns although the tables have them. -/
def laterRanges : List (Nat × Nat) :=
  [(0x88f, 0x88f), (0xc5c, 0xc5c), (0xcdc, 0xcdc), (0x1acf, 0x1add), (0x1ae0, 0x1aeb),
   (0x20c1, 0x20c1), (0x2b96, 0x2b96), (0xa7ce, 0xa7cf), (0xa7d2, 0xa7d2), (0xa7d4, 0xa7d4),
   (0xa7f1, 0xa7f1), (0xfbc3, 0xfbd2), (0xfd90, 0xfd91), (0xfdc8, 0xfdce), (0x10940, 0x10959),
   (0x10ec5, 0x10ec7), (0x10ed0, 0x10ed8), (0x10efa, 0x10efb), (0x11b60, 0x11b67),
   (0x11db0, 0x11ddb), (0x11de0, 0x11de9), (0x16ea0, 0x16eb8), (0x16ebb, 0x16ed3),
   (0x16ff2, 0x16ff6), (0x187f8, 0x187ff), (0x18d09, 0x18d1e), (0x18d80, 0x18df2),
   (0x1ccfa, 0x1ccfc), (0x1ceba, 0x1ced0), (0x1cee0, 0x1cef0), (0x1e6c0, 0x1e6de),
   (0x1e6e0, 0x1e6f5), (0x1e6fe, 0x1e6ff), (0x1f6d8, 0x1f6d8), (0x1f777, 0x1f77a),
   (0x1f8d0, 0x1f8d8), (0x1fa54, 0x1fa57), (0x1fa8a, 0x1fa8a), (0x1fa8e, 0x1fa8e),
   (0x1fac8, 0x1fac8), (0x1facd, 0x1facd), (0x1faea, 0x1faea), (0x1faef, 0x1faef),
   (0x1fbfa, 0x1fbfa), (0x2b73a, 0x2b73f), (0x2cea2, 0x2cead), (0x323b0, 0x33479)]

/-- The members of ranges in any order that patterns know. -/
def known (rs : List (Nat × Nat)) : CharSet := (CharSet.ofRanges rs).diff ⟨laterRanges⟩

/-- The reversed question mark of phonetic writing, which is a lowercase letter in
patterns and a letter without case in texts. -/
def pharyngeal : CharSet := .single '\u0295'

/-- The ranges between changes of category whose category is wanted. -/
def categoryRanges (wanted : Category → Bool) : List (Nat × Category) → List (Nat × Nat)
  | [] => []
  | [(n, k)] => if wanted k then [(n, CharSet.lastCodePoint)] else []
  | (n, k) :: (m, k') :: rest =>
      if wanted k then (n, m - 1) :: categoryRanges wanted ((m, k') :: rest)
      else categoryRanges wanted ((m, k') :: rest)

/-- Characters of the given categories. -/
def ofCategory (wanted : Category → Bool) : CharSet :=
  let s := known (categoryRanges wanted (categoryBlocks.flatMap Prod.snd))
  let s := if wanted .ll then s.union pharyngeal else s.diff pharyngeal
  if wanted .cn then s.union ⟨laterRanges⟩ else s

/-- Lowercase characters. -/
def lowercaseSet : CharSet := (ofCategory (· == .ll)).union (known otherLowercaseRanges)

/-- Uppercase characters. -/
def uppercaseSet : CharSet := (ofCategory (· == .lu)).union (known otherUppercaseRanges)

/-- Letters, letter-like numbers and the marks that count as letters. -/
def alphabeticSet : CharSet :=
  (ofCategory fun k => k.isLetter || k == .nl).union (known otherAlphabeticRanges)

/-- Alphabetic characters, marks, decimal digits, connecting punctuation and the two
joiners. -/
def unicodeWords : CharSet :=
  (alphabeticSet.union (ofCategory fun k => k.isMark || k == .nd || k == .pc)).union
    (.range '\u200c' '\u200d')

/-- Characters that a search for a cased neighbour passes over. -/
def caseIgnorableSet : CharSet :=
  (ofCategory fun k => k == .mn || k == .me || k == .cf || k == .lm || k == .sk).union
    (known otherCaseIgnorableRanges)

/-- Characters that extend the one before them. -/
def graphemeExtendSet : CharSet :=
  (ofCategory fun k => k == .mn || k == .me).union (known otherGraphemeExtendRanges)

/-! ## Short classes -/

/-- The union of ranges given by their first and last characters. -/
def ofCharRanges (rs : List (Char × Char)) : CharSet :=
  .ofRanges (rs.map fun r => (r.1.toNat, r.2.toNat))

/-- The decimal digits. -/
def digitSet (unicode : Bool) : CharSet :=
  if unicode then ofCategory (· == .nd) else .range '0' '9'

/-- White space. -/
def spaceSet (unicode : Bool) : CharSet :=
  if unicode then known whiteSpaceRanges else ofCharRanges [('\t', '\r'), (' ', ' ')]

/-- The word characters of ASCII. -/
def asciiWords : CharSet := ofCharRanges [('0', '9'), ('A', 'Z'), ('_', '_'), ('a', 'z')]

/-- The word characters. -/
def wordSet (unicode : Bool) : CharSet := if unicode then unicodeWords else asciiWords

/-! ## Named classes of ASCII -/

/-- The members of a class such as `alpha` in double brackets. -/
def asciiClass? (name : String) : Option CharSet :=
  match name with
  | "alnum" => some (ofCharRanges [('0', '9'), ('A', 'Z'), ('a', 'z')])
  | "alpha" => some (ofCharRanges [('A', 'Z'), ('a', 'z')])
  | "ascii" => some (.range '\x00' '\x7f')
  | "blank" => some (ofCharRanges [('\t', '\t'), (' ', ' ')])
  | "cntrl" => some (ofCharRanges [('\x00', '\x1f'), ('\x7f', '\x7f')])
  | "digit" => some (.range '0' '9')
  | "graph" => some (.range '!' '~')
  | "lower" => some (.range 'a' 'z')
  | "print" => some (.range ' ' '~')
  | "punct" => some (ofCharRanges [('!', '/'), (':', '@'), ('[', '\x60'), ('\x7b', '~')])
  | "space" => some (ofCharRanges [('\t', '\r'), (' ', ' ')])
  | "upper" => some (.range 'A' 'Z')
  | "word" => some asciiWords
  | "xdigit" => some (ofCharRanges [('0', '9'), ('A', 'F'), ('a', 'f')])
  | _ => none

/-! ## Named properties -/

/-- The general category with a name, or a group of categories. -/
def categorySet? (name : String) : Option CharSet :=
  match name with
  | "any" => some ⟨[(0, CharSet.lastCodePoint)]⟩
  | "ascii" => some (.range '\x00' '\x7f')
  | "assigned" => some (ofCategory fun k => !(k == .cn))
  | "l" | "letter" => some (ofCategory Category.isLetter)
  | "lc" | "casedletter" => some (ofCategory (fun k => k == .lu || k == .ll || k == .lt))
  | "lu" | "uppercaseletter" => some (ofCategory (· == .lu))
  | "ll" | "lowercaseletter" => some (ofCategory (· == .ll))
  | "lt" | "titlecaseletter" => some (ofCategory (· == .lt))
  | "lm" | "modifierletter" => some (ofCategory (· == .lm))
  | "lo" | "otherletter" => some (ofCategory (· == .lo))
  | "m" | "mark" | "combiningmark" => some (ofCategory Category.isMark)
  | "mn" | "nonspacingmark" => some (ofCategory (· == .mn))
  | "mc" | "spacingmark" => some (ofCategory (· == .mc))
  | "me" | "enclosingmark" => some (ofCategory (· == .me))
  | "n" | "number" => some (ofCategory Category.isNumber)
  | "nd" | "decimalnumber" | "digit" => some (ofCategory (· == .nd))
  | "nl" | "letternumber" => some (ofCategory (· == .nl))
  | "no" | "othernumber" => some (ofCategory (· == .no))
  | "p" | "punctuation" | "punct" => some (ofCategory Category.isPunctuation)
  | "pc" | "connectorpunctuation" => some (ofCategory (· == .pc))
  | "pd" | "dashpunctuation" => some (ofCategory (· == .pd))
  | "ps" | "openpunctuation" => some (ofCategory (· == .ps))
  | "pe" | "closepunctuation" => some (ofCategory (· == .pe))
  | "pi" | "initialpunctuation" => some (ofCategory (· == .pi))
  | "pf" | "finalpunctuation" => some (ofCategory (· == .pf))
  | "po" | "otherpunctuation" => some (ofCategory (· == .po))
  | "s" | "symbol" => some (ofCategory Category.isSymbol)
  | "sm" | "mathsymbol" => some (ofCategory (· == .sm))
  | "sc" | "currencysymbol" => some (ofCategory (· == .sc))
  | "sk" | "modifiersymbol" => some (ofCategory (· == .sk))
  | "so" | "othersymbol" => some (ofCategory (· == .so))
  | "z" | "separator" => some (ofCategory Category.isSeparator)
  | "zs" | "spaceseparator" => some (ofCategory (· == .zs))
  | "zl" | "lineseparator" => some (ofCategory (· == .zl))
  | "zp" | "paragraphseparator" => some (ofCategory (· == .zp))
  | "c" | "other" => some (ofCategory Category.isOther)
  | "cc" | "control" | "cntrl" => some (ofCategory (· == .cc))
  | "cf" | "format" => some (ofCategory (· == .cf))
  | "co" | "privateuse" => some (ofCategory (· == .co))
  | "cn" | "unassigned" => some (ofCategory (· == .cn))
  | _ => none

/-- The script with a name. -/
def script? (name : String) : Option Script :=
  match name with
  | "latin" | "latn" => some .latin
  | "greek" | "grek" => some .greek
  | "cyrillic" | "cyrl" => some .cyrillic
  | "armenian" | "armn" => some .armenian
  | "hebrew" | "hebr" => some .hebrew
  | "arabic" | "arab" => some .arabic
  | "devanagari" | "deva" => some .devanagari
  | "thai" => some .thai
  | "georgian" | "geor" => some .georgian
  | "hangul" | "hang" => some .hangul
  | "hiragana" | "hira" => some .hiragana
  | "katakana" | "kana" => some .katakana
  | "han" | "hani" => some .han
  | "cherokee" | "cher" => some .cherokee
  | _ => none

/-- The members of a script. -/
def scriptSet? (name : String) : Option CharSet :=
  (script? name).map fun script => known script.ranges

/-- A property that characters have or lack. -/
def binarySet? (name : String) : Option CharSet :=
  match name with
  | "alphabetic" | "alpha" => some alphabeticSet
  | "lowercase" | "lower" => some lowercaseSet
  | "uppercase" | "upper" => some uppercaseSet
  | "whitespace" | "wspace" | "space" => some (spaceSet true)
  | "cased" => some ((lowercaseSet.union uppercaseSet).union (ofCategory (· == .lt)))
  | "caseignorable" | "ci" => some caseIgnorableSet
  | "graphemeextend" | "grext" => some graphemeExtendSet
  | _ => none

/-- A name without spaces, hyphens, underscores and characters beyond ASCII, in lower
case. -/
def condensed (name : List Char) : List Char :=
  (name.filter fun c => !(c = ' ' || c = '-' || c = '_') && c.toNat < 0x80).map Char.toLower

/-- A property name in loose form: condensed and without a leading `is`, which only the
name `isc` keeps. -/
def looseName (name : List Char) : String :=
  if (name.take 2).map Char.toLower = ['i', 's'] then
    let rest := condensed (name.drop 2)
    if rest = ['c'] then "isc" else String.ofList rest
  else String.ofList (condensed name)

/-- The set that a property name without a value stands for. -/
def namedSet? (name : List Char) : Option CharSet :=
  let loose := looseName name
  (binarySet? loose).orElse fun _ => (categorySet? loose).orElse fun _ => scriptSet? loose

/-- The set of characters whose property has a value. -/
def valueSet? (property value : List Char) : Option CharSet :=
  match looseName property with
  | "gc" | "generalcategory" => categorySet? (looseName value)
  | "sc" | "script" | "scx" | "scriptextensions" => scriptSet? (looseName value)
  | _ => none

end SymbolSearch.Pattern
