/-
Settings with their values.

A setting takes its value from the caller if the caller gives one, else from its
variable, else from its schema.  A text is read as what the schema says.  A
caller's text that cannot be read is kept as it is, while a variable's is a
fault.  A secret is shown as a mask of fixed width wherever it is written out.
-/
import Parley.Settings.Schema
import Parley.Environment.File
import Parley.Session
import Parley.Number.Reading
import Parley.Text.Split
import Parley.Text.Case

namespace Parley

/-- The value of a setting. -/
inductive Held where
  | plain (v : Given)
  | secret (s : String)
  deriving Inhabited

namespace Held

/-- What is shown in the place of a secret. -/
def mask : String := "SecretString('**********')"

/-- A value spelled out, with secrets masked. -/
def literal : Held → String
  | .plain v => (Given.document v).literal
  | .secret _ => mask

/-- The value itself, secrets included. -/
def reveal : Held → Given
  | .plain v => v
  | .secret s => .str s

/-- The name of the kind of a value. -/
def kindName : Held → String
  | .plain v => Given.kindName v
  | .secret _ => "SecretString"

/-- Whether a value counts as set: nothing, zero and the empty are not. -/
def isSet (h : Held) : Bool := h.reveal.isSet

/-- Whether a value is the absent one. -/
def isNull (h : Held) : Bool := h.reveal.isNull

end Held

/-- Settings with their values, in the order of the schema, and what was said about the file of
variables beside them. -/
structure Settings where
  schema : Schema
  values : List (String × Held)
  hasFile : Bool := false
  encoding : Given := .null
  deriving Inhabited

namespace Settings

/-! ### Reading texts -/

/-- The words for yes. -/
def yesWords : List String := ["true", "1", "yes", "on"]

/-- The texts between commas, without blanks around them and without the empty ones. -/
def wordsOf (s : String) : List String :=
  ((Text.split ',' s).map Text.trim).filter (· != "")

/-- The fault of a text that is no whole number. -/
def notWhole (s : String) : Number.IntFlaw → Fault
  | .malformed =>
    .badValue ("invalid literal for int() with base 10: "
      ++ String.ofList ((Literal.quote s).toList.take 200))
  | .tooLong count => .badValue (Number.tooManyDigits count)

/-- The value that a text spells for a setting of some kind. -/
def read (kind : SettingKind) (s : String) : Except Fault Held :=
  match kind with
  | .text => .ok (.plain (.str s))
  | .secret => .ok (.secret s)
  | .truth => .ok (.plain (.bool (yesWords.contains (Text.lower (Text.trim s)))))
  | .whole =>
    match Number.readInt s with
    | .ok n => .ok (.plain (.int n))
    | .error flaw => .error (notWhole s flaw)
  | .real =>
    match Number.readFloat s with
    | some x => .ok (.plain (.float x))
    | none => .error (.badValue ("could not convert string to float: " ++ Literal.quote s))
  | .words => .ok (.plain (.list ((wordsOf s).map .str)))

/-- The value that a caller's value is: a text is read if it can be. -/
def accept (kind : SettingKind) (v : Given) : Held :=
  match v with
  | .str s =>
    match read kind s with
    | .ok h => h
    | .error _ => .plain v
  | v => .plain v

/-! ### Finding values -/

/-- The value of one setting. -/
def valueOf (schema : Schema) (given : List (String × Given)) (env : Environment) (s : Setting) :
    Except Fault Held :=
  match Entries.get? given s.name, Entries.get? env (schema.variableOf s.name) with
  | some v, _ => .ok (accept s.kind v)
  | none, some text => read s.kind text
  | none, none => .ok (.plain s.default)

/-- The values of settings, in order. -/
def valuesOf (schema : Schema) (given : List (String × Given)) (env : Environment) :
    List Setting → Except Fault (List (String × Held))
  | [] => .ok []
  | s :: rest => do
    let h ← valueOf schema given env s
    let more ← valuesOf schema given env rest
    return (s.name, h) :: more

/-- The names that a caller gives and a schema does not know, in order. -/
def unknown (schema : Schema) (given : List (String × Given)) : List String :=
  ((given.map Prod.fst).filter fun name => !schema.names.contains name).mergeSort
    fun a b => decide (a ≤ b)

/-- The settings of a schema: what the caller gives, then the variables, then the schema. -/
def resolve (schema : Schema) (arguments : List (String × Given)) (env : Environment) :
    Except Fault Settings :=
  let given := arguments.filter fun e => !e.2.isNull
  match unknown schema given with
  | [] => (valuesOf schema given env schema.settings).map fun values => { schema, values }
  | names => .error (.badValue
      (s!"Unknown settings for {schema.name}: " ++ ", ".intercalate names))

/-! ### The file of variables -/

/-- The argument that names the file of variables. -/
def pathArgument : String := "env_file_path"

/-- The argument that names the encoding of that file. -/
def encodingArgument : String := "env_file_encoding"

/-- Whether an argument is about the file of variables, and not about a setting. -/
def isAboutFile (name : String) : Bool :=
  name == pathArgument || name == encodingArgument

/-- The encoding that is meant: that of the file at hand, or the one that the caller names. -/
def encodingOf (arguments : List (String × Given)) (file : Environment.File) : Given :=
  let told := (Entries.get? arguments encodingArgument).filter Value.isSet
  match file.encoding, told with
  | none, some v => v
  | name, _ => .str (Environment.encodingName name)

/-- The fault of a path or an encoding that is no text. -/
def noFileName (v : Given) : Fault :=
  .wrongKind s!"expected str, bytes or os.PathLike object, not {Given.kindName v}"

/-- The file that is meant when the caller names an encoding.  There is never a file at a path
that the caller names, but the path has to be one. -/
def fileFor (arguments : List (String × Given)) (file : Environment.File) :
    Except Fault Environment.File :=
  let path := (Entries.get? arguments pathArgument).getD .null
  let encoding := encodingOf arguments file
  match file.bytes, path, encoding with
  | some bytes, _, .str name => .ok ⟨some bytes, some name⟩
  | some _, _, v => .error (noFileName v)
  | none, .null, _ | none, .str _, _ | none, .bytes _, _ | none, .int _, _ | none, .bool _, _ =>
    .ok {}
  | none, v, _ => if v.isSet then .error (noFileName v) else .ok {}

/-- Set the variables of a file that are not set yet. -/
def loadFile (file : Environment.File) : Run Unit := do
  let s ← get
  let (environment, fault) := Environment.load s.environment file
  set { s with environment }
  match fault with
  | none => pure ()
  | some fault => Run.fail fault

/-- The settings of a schema, with the variables of a file beside those of the process. -/
def load (schema : Schema) (arguments : List (String × Given)) (file : Environment.File) :
    Run Settings := do
  loadFile (← Run.ofExcept (fileFor arguments file))
  let s ← get
  let own := arguments.filter fun e => !isAboutFile e.1
  let settings ← Run.ofExcept (resolve schema own s.environment)
  return { settings with
    hasFile := file.bytes.isSome || !((Entries.get? arguments pathArgument).getD .null).isNull
    encoding := encodingOf arguments file }

/-! ### Using values -/

/-- The value of a setting; nothing for a setting that there is not. -/
def get (s : Settings) (name : String) : Held :=
  (Entries.get? s.values name).getD (.plain .null)

/-- The settings that have a value. -/
def present (s : Settings) : List (String × Held) :=
  s.values.filter fun e => !e.2.isNull

/-- The settings in a line, with secrets masked. -/
def shown (s : Settings) : String :=
  s.schema.name ++ "("
    ++ ", ".intercalate (s.present.map fun e => e.1 ++ "=" ++ e.2.literal) ++ ")"

end Settings

end Parley
