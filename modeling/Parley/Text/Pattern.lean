/-
Patterns that texts are searched for.

A pattern is made of sets of characters and of places between characters by putting
parts behind each other, by choice and by repetition.  Nothing in a pattern refers
back to what was found, so a match is only ever a question of positions.  For one
text, `Pattern.route` looks up every set and place, and `Route.follow` says which
positions can be reached from which others; a set of positions is kept as the bits
of a number, and all positions are followed at once.
-/
import Parley.Text.CharSet

namespace Parley.Text

/-- Where a word is looked for around a place. -/
inductive Edge where
  /-- On one side. -/
  | border
  /-- On both sides or none. -/
  | inner
  /-- Behind alone. -/
  | start
  /-- In front alone. -/
  | finish
  /-- Not in front. -/
  | open_
  /-- Not behind. -/
  | closed
  deriving DecidableEq, Repr, Inhabited

/-- Whether a place is such an edge, given whether there are parts of words in front of it and
behind it. -/
def Edge.holds : Edge → Bool → Bool → Bool
  | .border, before, after => before != after
  | .inner, before, after => before == after
  | .start, before, after => !before && after
  | .finish, before, after => before && !after
  | .open_, before, _ => !before
  | .closed, _, after => !after

/-- A place between characters.  Lines may end in a line feed alone, or also in a carriage return
or both. -/
inductive Place where
  | start
  | finish
  | lineStart (returns : Bool)
  | lineFinish (returns : Bool)
  | edge (words : CharSet) (kind : Edge)
  deriving DecidableEq, Repr, Inhabited

/-- Whether a position of a text is such a place. -/
def Place.holds (text : Array Char) (i : Nat) : Place → Bool
  | .start => i == 0
  | .finish => i == text.size
  | .lineStart returns =>
    i == 0 || before == some '\n' || (returns && before == some '\r' && after != some '\n')
  | .lineFinish returns =>
    i == text.size || (after == some '\n' && !(returns && before == some '\r'))
      || (returns && after == some '\r')
  | .edge words kind => kind.holds (before.any words.holds) (after.any words.holds)
where
  /-- The character in front. -/
  before : Option Char := if i = 0 then none else text[i - 1]?
  /-- The character behind. -/
  after : Option Char := text[i]?

/-- A pattern. -/
inductive Pattern where
  | nothing
  | char (set : CharSet)
  | at_ (place : Place)
  | both (a b : Pattern)
  | either (a b : Pattern)
  | repeated (a : Pattern) (least : Nat) (most : Option Nat)
  | group (name : Option String) (a : Pattern)
  deriving DecidableEq, Repr, Inhabited

/-- A pattern with its sets and places looked up in a text. -/
inductive Route where
  /-- A step to the next position, from some positions. -/
  | step (froms : Nat)
  /-- No step, at some positions. -/
  | stay (places : Nat)
  | both (a b : Route)
  | either (a b : Route)
  | repeated (a : Route) (least : Nat) (most : Option Nat)
  deriving DecidableEq, Repr, Inhabited

namespace Route

/-- Exactly so many rounds, fewer if one changes nothing. -/
def exactly (round : Nat → Nat) : Nat → Nat → Nat
  | 0, front => front
  | n + 1, front =>
    let next := round front
    if next = front then front else exactly round n next

/-- All positions reached in at most so many rounds. -/
def upTo (round : Nat → Nat) : Nat → Nat → Nat
  | 0, reached => reached
  | n + 1, reached =>
    let next := reached ||| round reached
    if next = reached then reached else upTo round n next

/-- The positions that are reached from some positions of a text of a given size. -/
def follow (size : Nat) : Route → Nat → Nat
  | .step froms, front => (front &&& froms) <<< 1
  | .stay places, front => front &&& places
  | .both a b, front => b.follow size (a.follow size front)
  | .either a b, front => a.follow size front ||| b.follow size front
  | .repeated a least most, front =>
    let further := match most with
      | none => size + 1
      | some m => m - least
    upTo (a.follow size) further (exactly (a.follow size) least front)

end Route

namespace Pattern

/-! ### Matching -/

/-- The positions of which something holds, out of so many. -/
def positions (count : Nat) (holds : Nat → Bool) : Nat :=
  (List.range count).foldr (fun i bits => 2 * bits + (holds i).toNat) 0

/-- A pattern looked up in a text. -/
def route (text : Array Char) : Pattern → Route
  | .nothing => .stay (positions (text.size + 1) fun _ => true)
  | .char set => .step (positions text.size fun i => text[i]?.any set.holds)
  | .at_ place => .stay (positions (text.size + 1) fun i => place.holds text i)
  | .both a b => .both (a.route text) (b.route text)
  | .either a b => .either (a.route text) (b.route text)
  | .repeated a least most => .repeated (a.route text) least most
  | .group _ a => a.route text

/-- Whether a text has a match anywhere. -/
def occurs (p : Pattern) (s : String) : Bool :=
  let text := s.toList.toArray
  (p.route text).follow text.size (positions (text.size + 1) fun _ => true) != 0

/-! ### Limits -/

/-- The names of the groups. -/
def names : Pattern → List String
  | .both a b | .either a b => a.names ++ b.names
  | .repeated a _ _ => a.names
  | .group name a => name.toList ++ a.names
  | _ => []

/-- How deep the parts of a pattern are nested: on its own, among the parts of a sequence, and among
those of a choice. -/
def depths : Pattern → Nat × Nat × Nat
  | .both a b =>
    let inside := max a.depths.2.1 b.depths.1
    (inside + 1, inside, inside + 1)
  | .either a b =>
    let inside := max a.depths.1 b.depths.2.2
    (inside + 1, inside + 1, inside)
  | .repeated a _ _ | .group _ a =>
    let depth := a.depths.1 + 1
    (depth, depth, depth)
  | _ => (0, 0, 0)

/-- About how much memory is needed for a set, in bytes. -/
def setSize : CharSet → Nat
  | .range _ last => if last.toNat < 0x80 then 8 else 150
  | .kinds categories => if categories = [.digit] then 6000 else 25000
  | .union a b | .meet a b => min 52000 (setSize a + setSize b)
  | .without a => setSize a + 400
  | .folded a => setSize a + 8

/-- About how much memory is needed to search for a pattern, in bytes. -/
def size : Pattern → Nat
  | .nothing | .at_ _ => 32
  | .char set => 24 + setSize set
  | .both a b => a.size + b.size
  | .either a b => 64 + a.size + b.size
  | .repeated a least most => 40 + a.size * max 1 (most.getD least)
  | .group _ a => 64 + a.size

/-- The deepest nesting of a pattern. -/
def depthLimit : Nat := 250

/-- The largest size of a pattern. -/
def sizeLimit : Nat := 10485760

/-- Whether a pattern keeps within the limits, and no two of its groups have the same name. -/
def isProper (p : Pattern) : Bool :=
  p.depths.1 ≤ depthLimit && p.size ≤ sizeLimit && p.names.Nodup

end Pattern

end Parley.Text
