/-
The annotations of tool parameters.

A parameter is annotated with a type and with notes: a text describes it, and a
`Rule` adds limits and words.  `Annotation.field?` turns both into the field that
an input is checked against.

A text in second place, behind the type, describes the field, and makes all later
notes mere remarks.  Whether it is a note is not asked: where the second part of a
type itself is a text, as in a choice between words, the first part is taken for
the type that the text describes.
-/
import Parley.Tool.Kind
import Parley.Tool.Limit

namespace Parley

/-! ### Notes -/

/-- What a note may say about a parameter: limits, and settings by name. -/
structure Rule where
  limits : List Limit := []
  settings : List (String × Document) := []
  deriving Inhabited

namespace Rule

/-- The names of settings that are known. -/
def settingNames : List String :=
  ["default", "default_factory", "alias", "alias_priority", "validation_alias",
    "serialization_alias", "title", "field_title_generator", "description", "examples", "exclude",
    "exclude_if", "discriminator", "deprecated", "json_schema_extra", "frozen", "validate_default",
    "repr", "init", "init_var", "kw_only"]

/-- The names of settings that there are no more. -/
def formerNames : List String := ["const", "unique_items", "regex"]

/-- A rule from the fields of a note.  What is not known is shown in the schema. -/
def ofFields (fields : List (String × Document)) : Except Fault Rule :=
  let given (name : String) : Option Document :=
    (Entries.get? fields name).filter fun v => !v.isNull
  let alias? := ((given "validation_alias").or (given "alias")).filter Value.isSet
  if formerNames.any fun name => (given name).isSome then .error .unresolved
  else if alias?.any fun v => v.asString?.isNone then
    .error (.wrongKind "Invalid validation_alias type")
  else
    let value? : LimitName → Option Document
      | .minLength => (given "min_length").or (given "min_items")
      | .maxLength => (given "max_length").or (given "max_items")
      | name => given name.word
    let limitNames := ["min_items", "max_items", "allow_mutation"] ++ LimitName.all.map LimitName.word
    let known := fields.filter fun e => settingNames.contains e.1
    let other := fields.filter fun e =>
      !settingNames.contains e.1 && !limitNames.contains e.1 && !formerNames.contains e.1
    let shown := if other.isEmpty || (given "json_schema_extra").any Value.isSet then []
      else [("json_schema_extra", Value.obj other)]
    .ok {
      limits := LimitName.all.filterMap fun name => (value? name).map (Limit.mk name)
      settings := Entries.union known shown }

/-- A rule that only describes. -/
def ofText (s : String) : Rule := { settings := [("description", .str s)] }

/-- Two rules together: the later settings win, what is shown in the schema is put together, and all
limits hold. -/
def merge (a b : Rule) : Rule :=
  let both := Entries.union a.settings b.settings
  let name := "json_schema_extra"
  let settings := match Entries.get? a.settings name, Entries.get? b.settings name with
    | some (.obj first), some (.obj second) => Entries.put both name (.obj (Entries.union first second))
    | _, _ => both
  ⟨a.limits ++ b.limits, settings⟩

end Rule

/-- A note on a parameter. -/
inductive Note where
  | text (s : String)
  | rule (r : Rule)
  deriving Inhabited

/-- The type of a parameter with its notes, and what the names stand for where it is written. -/
structure Annotation where
  kind : Hint
  notes : List Note := []
  names : String → Sense := fun _ => .unknown
  deriving Inhabited

/-! ### Fields -/

/-- A field of a tool's input: its type with the limits that belong to it, those that are applied
afterwards, and settings by name. -/
structure Field where
  kind : Kind
  limits : List Limit := []
  after : List Limit := []
  settings : List (String × Document) := []
  deriving Inhabited

namespace Field

/-- Whether a limit that is applied afterwards reads the value as a text. -/
def readsText (l : Limit) : Bool :=
  l.name == .pattern || l.name == .numbersAsText

/-- The type that a further limit is applied to, given the limits applied afterwards so far, the
last one first. -/
def typeName (kind : Kind) : List Limit → String
  | [] => kind.typeName
  | l :: _ => if readsText l then "chain" else "function-after"

/-- The type inside limits that only look at the value. -/
def innerType (kind : Kind) : List Limit → String
  | [] => kind.typeName
  | l :: rest => if readsText l then "chain" else innerType kind rest

/-- The fault of a limit that does not go with a type. -/
def cannotApply (l : Limit) (type : String) : Fault :=
  .runtime s!"Unable to apply constraint '{l.name.word}' to schema of type '{type}'"

/-- Apply one more limit. -/
def limit (f : Field) (l : Limit) : Except Fault Field :=
  let outer := typeName f.kind f.after.reverse
  let type := if l.name == .strict then innerType f.kind f.after.reverse else outer
  let afterwards : Except Fault Field := .ok { f with after := f.after ++ [l] }
  if l.name.types.contains type then .ok { f with limits := Limit.put f.limits l }
  else
    match l.name with
    | .strict | .failFast | .unionMode => .error (cannotApply l type)
    | .infinite =>
      match l.value with
      | .bool false => afterwards
      | _ => .error (cannotApply l type)
    | _ => afterwards

/-- The field, if it can be set up. -/
def built (f : Field) : Except Fault Field :=
  if f.limits.all (Limit.fits f.kind.typeName) && f.after.all Limit.fitsAfter then .ok f
  else .error .badSchema

/-- A field of a type under a rule. -/
def ofRule (kind : Kind) (r : Rule) : Except Fault Field := do
  let f ← r.limits.foldlM limit { kind, settings := r.settings }
  f.built

/-- A setting that is not nothing. -/
def setting? (f : Field) (name : String) : Option Document :=
  (Entries.get? f.settings name).filter fun v => !v.isNull

/-- Whether a setting is switched on. -/
def isOn (f : Field) (name : String) : Bool :=
  ((f.setting? name).map Value.isSet).getD false

/-- The name under which the value of a field is given. -/
def key (f : Field) (name : String) : String :=
  (((f.setting? "validation_alias").or (f.setting? "alias")).bind Value.asString?).getD name

end Field

namespace Annotation

/-- An annotation, where notes that are given must not be empty. -/
def ofNotes (kind : Kind) (own : List Note) (given : Option (List Note)) : Except Fault Annotation :=
  match given with
  | some [] => .error (.wrongKind "Annotated[...] should be used with at least two arguments")
  | some notes => .ok { kind := kind.hint, notes := own ++ notes }
  | none => .ok { kind := kind.hint, notes := own }

/-- The rules among the notes, put together. -/
def rules (notes : List Note) : Rule :=
  notes.foldl (fun acc note => match note with
    | .text _ => acc
    | .rule r => acc.merge r) {}

/-- What stands in the brackets of an annotation: its type and its notes, or without notes the
arguments of the type. -/
def arguments (a : Annotation) : List Argument :=
  match a.notes with
  | [] => a.kind.arguments
  | notes => .type a.kind :: notes.map fun
    | .text s => .text s
    | .rule _ => .other "FieldInfo"

/-- The text in second place, with what stands before it. -/
def described? (a : Annotation) : Option (Argument × String) :=
  match a.arguments with
  | base :: .text s :: _ => some (base, s)
  | _ => none

/-- The type and the rule that a field is made of. -/
def read (a : Annotation) : Except Fault (Hint × Rule) :=
  match a.described? with
  | some (base, s) => (base.asType a.names).map fun hint => (hint, Rule.ofText s)
  | none => .ok (a.kind, rules a.notes)

/-- The field of a type as it is written, under a rule; `none` when a name in it is unknown. -/
def fieldOf? (a : Annotation) (hint : Hint) (r : Rule) : Option (Except Fault Field) :=
  (hint.resolve a.names).map fun kind => kind.bind fun kind => Field.ofRule kind r

/-- The field that is made of an annotation; `none` when it refers to an unknown name. -/
def field? (a : Annotation) : Option (Except Fault Field) :=
  match a.read with
  | .error f => some (.error f)
  | .ok (hint, r) => a.fieldOf? hint r

/-- What keeps an annotation from being read. -/
def fault? (a : Annotation) : Option Fault :=
  match a.read with
  | .error f => some f
  | .ok _ => none

end Annotation

end Parley
