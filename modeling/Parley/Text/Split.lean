/-
Texts taken apart at a character, and texts found in others.
-/

namespace Parley.Text

/-- The pieces of a text between the occurrences of a character. -/
def splitChars (mark : Char) : List Char → List (List Char)
  | [] => [[]]
  | c :: rest =>
    if c = mark then [] :: splitChars mark rest
    else match splitChars mark rest with
      | piece :: more => (c :: piece) :: more
      | [] => [[c]]

/-- The pieces of a text between the occurrences of a character. -/
def split (mark : Char) (s : String) : List String :=
  (splitChars mark s.toList).map String.ofList

/-- Whether one list of characters occurs in another. -/
def occursIn (part : List Char) : List Char → Bool
  | [] => part.isEmpty
  | c :: rest => part.isPrefixOf (c :: rest) || occursIn part rest

end Parley.Text
