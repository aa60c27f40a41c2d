/-!
# Patterns

A pattern takes a piece of text from a place on, and notes what its groups took.
Where it may take one piece or another, the ways are in order of preference: more
characters of a class before fewer, and the first of two alternatives before the
second.  What it matches is what it takes in the first of its ways.

A search tries the places of a text from left to right.  Lines end at line feeds
and nowhere else.
-/

namespace EpsBridge.Text

/-- A pattern. -/
inductive Pattern where
  /-- Takes nothing. -/
  | empty
  /-- Takes one character of a class. -/
  | one (accepts : Char → Bool)
  /-- Takes characters of a class, or none. -/
  | many (accepts : Char → Bool)
  | either (first second : Pattern)
  | sequence (first second : Pattern)
  /-- Notes what the pattern inside takes. -/
  | group (inside : Pattern)
  /-- Takes nothing, where a line begins. -/
  | lineStart
  /-- Takes nothing, where a line ends. -/
  | lineEnd

namespace Pattern

/-! ## Patterns made of others -/

/-- One pattern after another. -/
def all : List Pattern → Pattern
  | [] => empty
  | pattern :: others => sequence pattern (all others)

/-- Takes a text. -/
def literal (text : List Char) : Pattern := all (text.map fun c => one (· = c))

/-- Takes characters of a class, and one at least. -/
def atLeastOne (accepts : Char → Bool) : Pattern := sequence (one accepts) (many accepts)

/-- Takes a character of a class, or nothing. -/
def optional (accepts : Char → Bool) : Pattern := either (one accepts) empty

/-! ## What patterns take -/

/-- A place in a text. -/
structure Place where
  /-- The character in front of it, unless the text begins there. -/
  previous : Option Char
  rest : List Char
deriving DecidableEq, Repr

/-- A way in which a pattern takes a piece of text. -/
structure Way where
  /-- What the groups took, by their order. -/
  groups : List (List Char)
  /-- The number of characters that were taken. -/
  taken : Nat
  after : Place
deriving DecidableEq, Repr

/-- A way of taking nothing. -/
def Place.still (place : Place) : Way := ⟨[], 0, place⟩

/-- One way, and another from where it led. -/
def Way.followedBy (way next : Way) : Way :=
  ⟨way.groups ++ next.groups, way.taken + next.taken, next.after⟩

/-- Whether there is the border of a line beside a character, or at an end of the text. -/
def isBorder : Option Char → Bool
  | none => true
  | some c => c = '\n'

/-- The ways of taking characters of a class, after some were taken, in front of the ways of
taking fewer. -/
def manyWays (accepts : Char → Bool) (taken : Nat) (fewer : List Way) (previous : Option Char) :
    List Char → List Way
  | [] => ⟨[], taken, ⟨previous, []⟩⟩ :: fewer
  | c :: rest =>
    let ways := ⟨[], taken, ⟨previous, c :: rest⟩⟩ :: fewer
    if accepts c then manyWays accepts (taken + 1) ways (some c) rest else ways

/-- The ways in which a pattern takes a piece of text from a place on, by preference. -/
def ways : Pattern → Place → List Way
  | empty, place => [place.still]
  | one _, ⟨_, []⟩ => []
  | one accepts, ⟨_, c :: rest⟩ => if accepts c then [⟨[], 1, ⟨some c, rest⟩⟩] else []
  | many accepts, ⟨previous, rest⟩ => manyWays accepts 0 [] previous rest
  | either first second, place => first.ways place ++ second.ways place
  | sequence first second, place =>
    (first.ways place).flatMap fun way => (second.ways way.after).map way.followedBy
  | group inside, place =>
    (inside.ways place).map fun way =>
      { way with groups := place.rest.take way.taken :: way.groups }
  | lineStart, place => if isBorder place.previous then [place.still] else []
  | lineEnd, place => if isBorder place.rest.head? then [place.still] else []

/-! ## Searching -/

/-- Searches a text, behind some characters that are passed over, for matches of a pattern
that takes something, none of them within another.  It ends with the first match whose groups
have a value. -/
def findMap? {α : Type} (pattern : Pattern) (value? : List (List Char) → Option α)
    (previous : Option Char) (skip : Nat) : List Char → Option α
  | [] => (pattern.ways ⟨previous, []⟩).head?.bind fun way => value? way.groups
  | c :: rest =>
    match skip with
    | skip + 1 => findMap? pattern value? (some c) skip rest
    | 0 =>
      match (pattern.ways ⟨previous, c :: rest⟩).head? with
      | none => findMap? pattern value? (some c) 0 rest
      | some way =>
        match value? way.groups with
        | some value => some value
        | none => findMap? pattern value? (some c) (way.taken - 1) rest

end Pattern

end EpsBridge.Text
