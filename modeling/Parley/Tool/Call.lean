/-
Calling a function.

`Function.bind` fits positional and named arguments to the parameters, in the
order in which the usual complaints come: a name that is unknown or given twice,
too many positional arguments, missing ones, missing named ones.  `Function.call`
then runs the body on the bound arguments.
-/
import Parley.Tool.Function
import Parley.Template.Fill

namespace Parley.Function

/-! ### Fitting arguments -/

/-- Whether only named arguments can fill the parameters from this one on. -/
def endsPositional (p : Parameter) : Bool :=
  p.keywordOnly || p.rest == some .positional

/-- The parameters that positional arguments fill, in order. -/
def positional (f : Function) : List Parameter :=
  (f.parameters.takeWhile fun p => !endsPositional p).filter fun p => p.rest.isNone

/-- The parameters that only named arguments fill. -/
def keywordOnly (f : Function) : List Parameter :=
  (f.parameters.dropWhile fun p => !endsPositional p).filter fun p => p.rest.isNone

/-- The parameter that takes further arguments of a sort. -/
def restName? (f : Function) (r : Rest) : Option String :=
  (f.parameters.find? fun p => p.rest == some r).map Parameter.name

/-- Several quoted names in running text. -/
def listed : List String → String
  | [] => ""
  | [a] => s!"'{a}'"
  | [a, b] => s!"'{a}' and '{b}'"
  | names =>
    ", ".intercalate (names.dropLast.map fun n => s!"'{n}'") ++
      String.join ((names.drop (names.length - 1)).map fun n => s!", and '{n}'")

/-- The ending of a word for a count of things. -/
def plural (n : Nat) : String := if n = 1 then "" else "s"

/-- The complaint about missing arguments. -/
def missing (f : Function) (sort : String) (names : List String) : Fault :=
  .misuse (s!"{f.name}() missing {names.length} required {sort} argument" ++
    plural names.length ++ ": " ++ listed names)

/-- The complaint about too many positional arguments. -/
def tooMany (f : Function) (given named : Nat) : Fault :=
  let most := f.positional.length
  let optional := (f.positional.filter fun p => p.default.isSome).length
  let takes :=
    if optional = 0 then toString most else s!"from {most - optional} to {most}"
  let count := if optional = 0 then most else 2
  let also := if named = 0 then ""
    else " positional argument" ++ plural given ++ s!" (and {named} keyword-only argument" ++
      plural named ++ ")"
  let were := if given = 1 ∧ named = 0 then "was" else "were"
  .misuse (s!"{f.name}() takes {takes} positional argument" ++ plural count ++
    s!" but {given}" ++ also ++ s!" {were} given")

/-- The parameter that a named argument fills. -/
def takes (f : Function) (name : String) : Bool :=
  (f.positional ++ f.keywordOnly).any fun p => p.name == name

/-- The value of a parameter: what was given for it, or its default. -/
def valueOf (given : List (String × Document)) (p : Parameter) : Option Document :=
  (Entries.get? given p.name).or p.default

/-- Fit arguments to the parameters. -/
def bind (f : Function) (args : List Document) (named : List (String × Document)) :
    Except Fault (List (String × Document)) := do
  let slots := f.positional
  let filled := (slots.map Parameter.name).zip args
  match named.find? fun (name, _) =>
      if f.takes name then Entries.has filled name else (f.restName? .named).isNone with
  | some (name, _) =>
    if f.takes name then .error (.misuse s!"{f.name}() got multiple values for argument '{name}'")
    else .error (.misuse s!"{f.name}() got an unexpected keyword argument '{name}'")
  | none =>
    let own := named.filter fun (name, _) => f.takes name
    let other := named.filter fun (name, _) => !f.takes name
    let given := filled ++ own
    if args.length > slots.length ∧ (f.restName? .positional).isNone then
      let extra := f.keywordOnly.filter fun p => Entries.has own p.name
      .error (f.tooMany args.length extra.length)
    else
      match (slots.filter fun p => (valueOf given p).isNone).map Parameter.name with
      | [] =>
        match (f.keywordOnly.filter fun p => (valueOf given p).isNone).map Parameter.name with
        | [] =>
          return f.parameters.map fun p =>
            match p.rest with
            | some .positional => (p.name, .tuple (args.drop slots.length))
            | some .named => (p.name, .obj other)
            | none => (p.name, (valueOf given p).getD .null)
        | names => .error (f.missing "keyword-only" names)
      | names => .error (f.missing "positional" names)

/-! ### Bodies -/

/-- Run a body on bound arguments. -/
def run (f : Function) (args : List (String × Document)) : Except Fault Document :=
  match f.behaviour with
  | .echo => .ok (.obj args)
  | .constant v => .ok v
  | .fail fault => .error fault
  | .template s => (Template.fill args s).map .str
  | .sum => args.foldlM (fun acc (_, v) => acc.plus v) (.int 0)
  | .other run => run args

/-- Call a function. -/
def call (f : Function) (args : List Document) (named : List (String × Document)) :
    Except Fault Document := do
  let bound ← f.bind args named
  f.run bound

end Parley.Function
