import EpsBridge.Text.Cased
import EpsBridge.Text.CaseIgnorable
import EpsBridge.Text.LowercaseTable

/-!
# Lower case

File systems that do not tell case apart would take two names for one.  Names
are therefore compared by their lower-case forms, over all of Unicode and
without normalisation.  One letter has two lower-case forms: a capital sigma at
the end of a word becomes a final sigma.
-/

namespace EpsBridge.Text

/-- The lower-case form of a character taken for itself. -/
def lowerCharacter (c : Char) : List Char :=
  if c.toNat < 0x80 then [c.toLower]
  else if c.toNat = 0x130 then ['i', Char.ofNat 0x307]
  else [Char.ofNat (Int.ofNat c.toNat + lowercaseDistance c.toNat lowercaseRuns).toNat]

/-- Whether, once characters that case passes over are left out, a character
with case comes first. -/
def beginsCased (text : List Char) : Bool :=
  ((text.dropWhile isCaseIgnorable).head?.map isCased).getD false

/-- The lower-case form of a capital sigma between what precedes it, last
character first, and what follows it. -/
def lowerSigma (before after : List Char) : Char :=
  if beginsCased before && !beginsCased after then 'ς' else 'σ'

/-- The lower-case form of a text that follows `before`, of which the last
character comes first. -/
def lowercaseAfter (before : List Char) : List Char → List Char
  | [] => []
  | c :: rest =>
    (if c = 'Σ' then [lowerSigma before rest] else lowerCharacter c) ++
      lowercaseAfter (c :: before) rest

/-- The lower-case form of a text. -/
def lowercase (text : String) : String :=
  String.ofList (lowercaseAfter [] text.toList)

end EpsBridge.Text
