/-
Descriptions written as indented text.

The documentation of a function is often indented along with its code.
`Documentation.clean` removes the indentation that all lines after the first
share, the blanks in front of the first line, and blank lines at either end.
-/
import Parley.Text.Class
import Parley.Text.Split

namespace Parley.Documentation

/-- The characters with each tab replaced by blanks up to the next multiple of eight. -/
def expandTabs (column : Nat) : List Char → List Char
  | [] => []
  | c :: rest =>
    if c = '\t' then
      let width := 8 - column % 8
      List.replicate width ' ' ++ expandTabs (column + width) rest
    else if c = '\n' ∨ c = '\r' then c :: expandTabs 0 rest
    else c :: expandTabs (column + 1) rest

/-- The number of blanks in front of a line; `none` for a blank line. -/
def indent? (line : List Char) : Option Nat :=
  let blanks := line.takeWhile Text.isBlank
  if blanks.length = line.length then none else some blanks.length

/-- The smallest indentation of any line that is not blank. -/
def margin? (lines : List (List Char)) : Option Nat :=
  (lines.filterMap indent?).min?

/-- A text without shared indentation and without blank lines at either end. -/
def clean (s : String) : String :=
  match Text.splitChars '\n' (expandTabs 0 s.toList) with
  | [] => ""
  | first :: rest =>
    let first := first.dropWhile Text.isBlank
    let rest := match margin? rest with
      | some n => rest.map (·.drop n)
      | none => rest
    let lines := (first :: rest).dropWhile (·.isEmpty)
    let lines := (lines.reverse.dropWhile (·.isEmpty)).reverse
    "\n".intercalate (lines.map String.ofList)

end Parley.Documentation
