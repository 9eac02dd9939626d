/-
Trying again.

A `Policy` says how often a request is tried and how long to wait in between.
Only faults that may pass by themselves are worth another try.  The wait before
retry `n` is `interval * multiplier ^ n`, but never more than `ceiling`.
-/
import Parley.Session
import Parley.Check
import Parley.Number.Power

namespace Parley

/-- How often to try, and how long to wait in between. -/
structure Policy where
  attempts : Int := 10
  interval : Float := 2.0
  multiplier : Float := 5.0
  ceiling : Float := 180.0
  deriving Inhabited, Repr

namespace Policy

/-- A double not below a bound. -/
def atLeastFloat (bound : Float) (v : Given) : Checked Float := do
  let x ← Check.float v
  Check.floor bound x

/-- A whole number of attempts. -/
def attemptsOf (v : Given) : Checked Int := do
  let n ← Check.int v
  Check.atLeast 1 n

/-- A policy from fields. -/
def ofFields (fields : List (String × Given)) : Except Fault Policy :=
  (Checked.ap (Checked.ap (Checked.ap
    ((Check.field fields "max_attempts" attemptsOf 10).map Policy.mk)
    (Check.field fields "initial_interval" (atLeastFloat 0.0) 2.0))
    (Check.field fields "multiplier" (atLeastFloat 1.0) 5.0))
    (Check.field fields "max_interval" (atLeastFloat 0.0) 180.0)).orInvalid "RetryPolicy"

/-- The fields of a policy. -/
def values (p : Policy) : List (String × Document) :=
  [("max_attempts", .int p.attempts), ("initial_interval", .float p.interval),
    ("multiplier", .float p.multiplier), ("max_interval", .float p.ceiling)]

/-- One attempt. -/
def once : Policy := { attempts := 1 }

/-! ### Waiting -/

/-- What is said when a power is out of range. -/
def outOfRange : Fault := .overflow "(34, 'Numerical result out of range')"

/-- `multiplier ^ n`.  Neither the exponent nor the power may be out of range. -/
def growth (p : Policy) (n : Int) : Except Fault Float :=
  if n = 0 then .ok 1.0
  else if (Number.Binary.toFloat ⟨n.natAbs, 0⟩).isInf then
    .error (.overflow "int too large to convert to float")
  else if p.multiplier == 1.0 then .ok 1.0
  else if p.multiplier.isInf then .ok (if n < 0 then 0.0 else p.multiplier)
  else
    let x := Number.powerOf p.multiplier n
    if x.isInf then .error outOfRange else .ok x

/-- The smaller of two doubles; the first if they cannot be compared. -/
def lesser (a b : Float) : Float :=
  if b < a then b else a

/-- The wait before retry number `n`. -/
def delay (p : Policy) (n : Int) : Except Fault Float :=
  (p.growth n).map fun g => lesser (p.interval * g) p.ceiling

/-- A power with an exponent that is not whole. -/
def fractionalGrowth (p : Policy) (x : Float) : Except Fault Float :=
  let g := Float.pow p.multiplier x
  if g.isInf && !p.multiplier.isInf && !x.isInf then .error outOfRange else .ok g

/-- The wait before the retry that a caller numbers. -/
def delayFor (p : Policy) (v : Given) : Except Fault Float :=
  match v with
  | .int n => p.delay n
  | .bool b => p.delay (if b then 1 else 0)
  | .float x =>
    if x.floor == x && x.abs < 9007199254740992.0 then p.delay x.toInt64.toInt
    else (fractionalGrowth p x).map fun g => lesser (p.interval * g) p.ceiling
  | v =>
    .error (.wrongKind
      s!"unsupported operand type(s) for ** or pow(): 'float' and '{Given.kindName v}'")

/-- The wait before retry number `n` of a run: the ceiling when the growth is out of range. -/
def wait (p : Policy) (n : Nat) : Float :=
  match p.delay n with
  | .ok x => if 0.0 < x then x else 0.0
  | .error _ => p.ceiling

/-! ### Running -/

/-- The codes of refusals that may pass. -/
def passingCodes : List String :=
  ["ThrottlingException", "ServiceUnavailableException", "InternalServerException",
    "ModelNotReadyException", "ModelTimeoutException"]

/-- Whether a fault may pass by itself. -/
def mayPass : Fault → Bool
  | .refused reply _ =>
    match Fault.errorPart reply "Code" with
    | some (.str code) => passingCodes.contains code
    | _ => false
  | .outage _ _ => true
  | _ => false

/-- Make attempt number `k` and up to `left` more. -/
def attempt {α : Type} (p : Policy) (x : Run α) (k : Nat) : Nat → Run α
  | 0 => x
  | left + 1 =>
    x.onFault fun f =>
      if mayPass f then do
        Run.pause (p.wait k)
        attempt p x (k + 1) left
      else Run.fail f

/-- Run a computation until it gives anything but a passing fault, or attempts run out. -/
def retrying {α : Type} (p : Policy) (x : Run α) : Run α :=
  attempt p x 0 (p.attempts.toNat - 1)

end Policy

end Parley
