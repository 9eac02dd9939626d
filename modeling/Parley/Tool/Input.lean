/-
The input of a tool.

The parameters of a function become the fields of its input.  `Input.check`
reads the arguments that a model sent, field by field, and `Input.schema`
describes the same fields to the model.
-/
import Parley.Given
import Parley.Check
import Parley.Text.Case
import Parley.Tool.Plain

namespace Parley

/-! ### Types -/

namespace Kind

/-- The number that a literal is. -/
def numberOf? : Document → Option Int
  | .int n => some n
  | .bool b => some (if b then 1 else 0)
  | .float x => if x.floor == x && x.abs < 9007199254740992.0 then some x.toInt64.toInt else none
  | _ => none

/-- Check the values of entries, each under its key. -/
def checkEntries (check : Document → Checked Document) :
    List (String × Document) → Checked (List (String × Document))
  | [] => .ok []
  | (k, v) :: rest =>
    Checked.ap ((Checked.named k (check v)).map fun v rest => (k, v) :: rest)
      (checkEntries check rest)

/-- A value, unless it breaks a rule. -/
def keep (broken : Option Violation) (v : Document) : Checked Document :=
  match broken with
  | some violation => Checked.fail violation
  | none => .ok v

/-- A whole number given as one. -/
def exactInt : Document → Checked Int
  | .int n => .ok n
  | _ => Checked.fail .intType

/-- A double given as a number. -/
def exactFloat : Document → Checked Float
  | .bool _ => Checked.fail .floatType
  | .str _ => Checked.fail .floatType
  | .bytes _ => Checked.fail .floatType
  | v => Check.float v

/-- A text given as one. -/
def exactText : Document → Checked String
  | .str s => .ok s
  | _ => Checked.fail .stringType

/-- A truth value given as one. -/
def exactBool : Document → Checked Bool
  | .bool b => .ok b
  | _ => Checked.fail .boolType

/-- A text under limits: numbers may count as one. -/
def text (limits : List Limit) (v : Document) : Checked String :=
  match Limit.isOn limits .strict, Limit.isOn limits .numbersAsText, v with
  | true, _, v => exactText v
  | false, true, .int n => .ok (toString n)
  | false, true, .float x => .ok (Literal.floatText.render x)
  | false, _, v => Check.string v

/-- Items that pass a check one by one, up to the first that does not. -/
def firstIssues (check : Document → Checked Document) (i : Nat) :
    List Document → Checked (List Document)
  | [] => .ok []
  | v :: rest => do
    let v ← Checked.under (.index i) (check v)
    let rest ← firstIssues check (i + 1) rest
    return v :: rest

/-- A list under limits.  Items beyond its greatest length are not looked at. -/
def checkItems (limits : List Limit) (check : Document → Checked Document) (items : List Document) :
    Checked Document :=
  let most := ((Limit.find? limits .maxLength).bind Limit.size?).getD items.length
  let failFast := Limit.isOn limits .failFast
  let checked (items : List Document) : Checked (List Document) :=
    if failFast then firstIssues check 0 items else Checked.items check 0 items
  if most < items.length then
    match failFast, checked (items.take most) with
    | true, .error issues => .error issues
    | _, _ => Checked.fail .tooLong
  else
    (checked items).bind fun items =>
      keep (Limit.brokenByLength? limits .tooShort .tooLong items.length) (.list items)

/-- Whether a value is a member of a choice. -/
def isMember (v : Document) : Member → Bool
  | .word w => v.asString? == some w
  | .number n => numberOf? v == some n

/-- Read a value of a type under limits that belong to the type. -/
def check (limits : List Limit) : Kind → Document → Checked Document
  | .any, v => .ok v
  | .int, v => do
    let n ← if Limit.isOn limits .strict then exactInt v else Check.int v
    keep (Limit.brokenByWhole? limits n) (.int n)
  | .float, v => do
    let x ← if Limit.isOn limits .strict then exactFloat v else Check.float v
    keep (Limit.brokenByReal? limits x) (.float x)
  | .str, v => do
    let s ← text limits v
    keep (Limit.brokenByText? limits s) (.str s)
  | .bool, v => (if Limit.isOn limits .strict then exactBool v else Check.bool v).map .bool
  | .obj, v => do
    let entries ← Check.obj v
    keep (Limit.brokenByLength? limits .tooShort .tooLong entries.length) (.obj entries)
  | .objOf kind, v => do
    let entries ← Check.obj v
    let entries ← checkEntries (check [] kind) entries
    keep (Limit.brokenByLength? limits .tooShort .tooLong entries.length) (.obj entries)
  | .list, v =>
    match given limits v with
    | some items => checkItems limits Except.ok items
    | none => Checked.fail .listType
  | .listOf kind, v =>
    match given limits v with
    | some items => checkItems limits (check [] kind) items
    | none => Checked.fail .listType
  | .optional kind, v =>
    match v with
    | .null => .ok .null
    | v => check limits kind v
  | .intOrStr, v =>
    let inOrder := (Limit.find? limits .unionMode).bind Value.asString? == some "left_to_right"
    match inOrder, v with
    | false, .str s => .ok (.str s)
    | _, v =>
      match Check.int v, Check.string v with
      | .ok n, _ => .ok (.int n)
      | .error _, .ok s => .ok (.str s)
      | .error a, .error b =>
        .error (a.map (Issue.under (.field "int")) ++ b.map (Issue.under (.field "str")))
  | .choice members, v =>
    match members.find? (isMember v) with
    | some (.word w) => .ok (.str w)
    | some (.number n) => .ok (.int n)
    | none => Checked.fail .literal
  | .pair first second, v =>
    match givenTuple limits v with
    | none => Checked.fail .tupleType
    | some items =>
      if items.length > 2 then Checked.fail .tooLong
      else
        let part (i : Nat) (kind : Document → Checked Document) : Checked Document :=
          match items[i]? with
          | some item => Checked.under (.index i) (kind item)
          | none => .error [⟨[.index i], .missing⟩]
        let both : Checked Document :=
          if Limit.isOn limits .failFast then do
            let a ← part 0 (check [] first)
            let b ← part 1 (check [] second)
            return .tuple [a, b]
          else
            Checked.ap ((part 0 (check [] first)).map fun a b => .tuple [a, b])
              (part 1 (check [] second))
        both.bind (keep (Limit.brokenByLength? limits .tooShort .tooLong 2))
where
  /-- The items of what may be a list. -/
  given (limits : List Limit) (v : Document) : Option (List Document) :=
    match Limit.isOn limits .strict, v with
    | true, .tuple _ => none
    | _, v => Check.items? v
  /-- The items of what may be a tuple. -/
  givenTuple (limits : List Limit) (v : Document) : Option (List Document) :=
    match Limit.isOn limits .strict, v with
    | true, .list _ => none
    | _, v => Check.items? v

/-! ### Schemas -/

/-- Limits under the names that a schema has for them. -/
def limitEntries (limits : List Limit) (key : LimitName → Option String) : Properties :=
  limits.filterMap fun l => (key l.name).map fun k => (k, l.value)

/-- Limits on a length under two names. -/
def lengthEntries (limits : List Limit) (least most : String) : Properties :=
  limitEntries limits fun
    | .minLength => some least
    | .maxLength => some most
    | _ => none

/-- Limits on a number; bounds that are infinite are left out. -/
def boundEntries (limits : List Limit) : Properties :=
  (limitEntries limits LimitName.boundKey).filter fun e =>
    match e.2 with
    | .float x => !x.isInf
    | _ => true

/-- The limits that are applied afterwards as a schema shows them. -/
def afterEntries (kind : Kind) : List Limit → List Limit → Properties
  | _, [] => []
  | before, l :: rest =>
    let ofList := Field.innerType kind before == "list"
    let own : Properties := match l.name with
      | .minLength => [(if ofList then "minItems" else "minLength", l.value)]
      | .maxLength => [(if ofList then "maxItems" else "maxLength", l.value)]
      | .pattern | .numbersAsText | .infinite => []
      | name => [(name.word, l.value)]
    own ++ afterEntries kind (l :: before) rest

/-- A member of a choice as data. -/
def memberValue : Member → Document
  | .word w => .str w
  | .number n => .int n

/-- The kind of member that a choice is between, if there is only one. -/
def memberType (members : List Member) : Properties :=
  let isWord : Member → Bool
    | .word _ => true
    | .number _ => false
  if members.all isWord then [("type", .str "string")]
  else if members.any isWord then []
  else [("type", .str "integer")]

/-- The schema of a type with the limits that belong to it, and with further entries. -/
def schema (limits : List Limit) (more : Properties) : Kind → Properties
  | .any => more
  | .int => [("type", .str "integer")] ++ boundEntries limits ++ more
  | .float => [("type", .str "number")] ++ boundEntries limits ++ more
  | .str =>
    [("type", .str "string")] ++ lengthEntries limits "minLength" "maxLength"
      ++ limitEntries limits (fun name => if name == .pattern then some "pattern" else none) ++ more
  | .bool => ("type", .str "boolean") :: more
  | .obj =>
    [("additionalProperties", .bool true), ("type", .str "object")]
      ++ lengthEntries limits "minProperties" "maxProperties" ++ more
  | .objOf kind =>
    [("additionalProperties", .obj (schema [] [] kind)), ("type", .str "object")]
      ++ lengthEntries limits "minProperties" "maxProperties" ++ more
  | .list =>
    [("items", .obj []), ("type", .str "array")] ++ lengthEntries limits "minItems" "maxItems" ++ more
  | .listOf kind =>
    [("items", .obj (schema [] [] kind)), ("type", .str "array")]
      ++ lengthEntries limits "minItems" "maxItems" ++ more
  | .optional kind =>
    [("anyOf", .list [.obj (schema limits more kind), .obj [("type", .str "null")]])]
  | .intOrStr =>
    ("anyOf", .list [.obj [("type", .str "integer")], .obj [("type", .str "string")]]) :: more
  | .choice [member] => ("const", memberValue member) :: memberType [member] ++ more
  | .choice members => ("enum", .list (members.map memberValue)) :: memberType members ++ more
  | .pair first second =>
    Entries.union
      [("maxItems", .int 2), ("minItems", .int 2),
        ("prefixItems", .list [.obj (schema [] [] first), .obj (schema [] [] second)]),
        ("type", .str "array")]
      (lengthEntries limits "minItems" "maxItems") ++ more

end Kind

/-! ### Fields -/

namespace Field

/-- Apply limits to a value that was checked before, in order. -/
def checkAfter : List Limit → Document → Except Fault (Checked Document)
  | [], v => .ok (.ok v)
  | l :: rest, v => do
    match ← l.after v with
    | .ok v => checkAfter rest v
    | .error issues => return .error issues

/-- Whether a value is left alone because the field may hold nothing. -/
def skips (f : Field) (v : Document) : Bool :=
  match f.kind with
  | .optional _ => v.isNull
  | _ => false

/-- Read a value for a field: its type first, then the other limits. -/
def check (f : Field) (v : Document) : Except Fault (Checked Document) :=
  if f.skips v then .ok (.ok v)
  else
    match f.kind.check f.limits v with
    | .ok v => checkAfter f.after v
    | .error issues => .ok (.error issues)

end Field

/-- The input of a tool: its title, and its fields with their defaults. -/
structure Input where
  title : String
  fields : List (String × Field × Option Document)
  deriving Inhabited

namespace Input

/-- Whether the annotation of a parameter is read. -/
def isRead (p : Parameter) : Bool :=
  p.name != "self" && p.name != "cls"

/-- Whether a parameter becomes a field. -/
def isShown (p : Parameter) : Bool :=
  isRead p && !p.name.startsWith "_"

theorem isRead_of_isShown {p : Parameter} (h : isShown p = true) : isRead p = true :=
  (Bool.and_eq_true_iff.mp h).1

/-- The field of a parameter; a parameter without annotation takes text.  `none` when its type
refers to an unknown name. -/
def fieldOf? (p : Parameter) : Option (Except Fault (String × Field × Option Document)) :=
  match p.annotation with
  | none => some (.ok (p.name, { kind := .str }, p.default))
  | some a => a.field?.map fun f => f.map fun f => (p.name, f, p.default)

/-- What keeps the annotation of a parameter from being read. -/
def misread? (p : Parameter) : Option Fault :=
  p.annotation.bind Annotation.fault?

/-- The fields of a function's parameters, each one or the fault that comes of it; `none` when a type
refers to an unknown name.  All annotations are read before any field is made. -/
def fieldsOf? (f : Function) : Option (Except Fault (List (String × Field × Option Document))) :=
  match (f.parameters.filter isRead).findSome? misread? with
  | some fault => some (.error fault)
  | none => ((f.parameters.filter isShown).mapM fieldOf?).map fun fields => fields.mapM id

/-- What keeps a function from having an input. -/
def fault? (f : Function) : Option Fault :=
  match fieldsOf? f with
  | some (.error fault) => some fault
  | _ => none

/-- The input of a tool; `none` when a parameter's type refers to an unknown name. -/
def ofTool? (t : Tool) : Option Input :=
  match fieldsOf? t.function with
  | some (.ok fields) => some ⟨t.name ++ "_input", fields⟩
  | _ => none

/-- The names of the fields that are not passed on. -/
def excluded (i : Input) : List String :=
  (i.fields.filter fun (_, f, _) => f.isOn "exclude").map fun (name, _, _) => name

/-- The values of fields, from the arguments given.  Defaults are checked only on request. -/
def read (entries : Properties) :
    List (String × Field × Option Document) → Except Fault (Checked Properties)
  | [] => .ok (.ok [])
  | (name, f, default) :: rest => do
    let key := f.key name
    let v : Checked Document ← match Entries.get? entries key, default with
      | some v, _ => (f.check v).map (Checked.named key)
      | none, some d =>
        if f.isOn "validate_default" then (f.check d).map (Checked.named key) else .ok (.ok d)
      | none, none => .ok (.error [⟨[.field key], .missing⟩])
    let more ← read entries rest
    return Checked.ap (v.map fun v rest => (name, v) :: rest) more

/-- The values of all fields, from the arguments given. -/
def check (i : Input) (entries : Properties) : Except Fault Properties := do
  (← read entries i.fields).orInvalid i.title

/-! ### Schema -/

/-- The title of a field: its name in title case, with blanks for underscores. -/
def titleOf (name : String) : String :=
  Text.trim ((Text.title name).map fun c => if c = '_' then ' ' else c)

/-- What the settings of a field show in its schema. -/
def settingEntries (f : Field) : Properties :=
  let named (name : String) : Properties := ((f.setting? name).map fun v => (name, v)).toList
  let deprecated : Properties := match f.setting? "deprecated" with
    | some v => if v.isSet || v.asString?.isSome then [("deprecated", .bool true)] else []
    | none => []
  named "title" ++ named "description" ++ named "examples" ++ deprecated

/-- The schema of a field. -/
def propertyOf (key : String) (f : Field) (default : Option Document) : Document :=
  let own := f.kind.schema f.limits (Kind.afterEntries f.kind [] f.after)
    ++ (match default.bind Value.asDefault? with | some d => [("default", d)] | none => [])
  let extra := (f.setting? "json_schema_extra").bind Value.asEntries?
  let entries := Entries.union (Entries.union own (settingEntries f)) (extra.getD [])
  let entries := if Entries.has entries "title" then entries
    else entries ++ [("title", .str (titleOf key))]
  .obj (entries.mergeSort fun a b => !(b.1 < a.1))

/-- The schema of an input. -/
def schema (i : Input) : Properties :=
  let properties := i.fields.map fun (name, f, default) =>
    (f.key name, propertyOf (f.key name) f default)
  let required := (i.fields.filter fun (_, _, default) => default.isNone).map
    fun (name, f, _) => Value.str (f.key name)
  [("properties", .obj properties)]
    ++ (if required.isEmpty then [] else [("required", .list required)])
    ++ [("title", .str i.title), ("type", .str "object")]

end Input

end Parley
