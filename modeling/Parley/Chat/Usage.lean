/-
Token counts.
-/

namespace Parley

/-- The tokens that a request and its reply took, as far as they are known. -/
structure Usage where
  input : Option Int := none
  output : Option Int := none
  total : Option Int := none
  deriving DecidableEq, Repr, Inhabited

namespace Usage

/-- The counts of a reply that reports none. -/
def zero : Usage := ⟨some 0, some 0, some 0⟩

/-- Two counts together; an unknown one counts as zero. -/
def addCount (a b : Option Int) : Option Int :=
  some (a.getD 0 + b.getD 0)

/-- The counts of two replies together. -/
def add (a b : Usage) : Usage :=
  ⟨addCount a.input b.input, addCount a.output b.output, addCount a.total b.total⟩

instance : Add Usage := ⟨add⟩

/-- Add counts to those gathered so far, if any were. -/
def gather : Option Usage → Usage → Option Usage
  | none, b => some b
  | some a, b => some (a + b)

end Usage

end Parley
