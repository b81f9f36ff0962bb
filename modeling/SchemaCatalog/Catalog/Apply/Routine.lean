import SchemaCatalog.Catalog.Apply.Outcome

/-!
# Functions, triggers and policies

A function is one of several of its name that differ in the canonical types of their input. The last
one of a name may be dropped only if nothing calls it.
-/

namespace SchemaCatalog

/-! ## 1. Functions -/

def CreateFunction.function (s : CreateFunction) : Function :=
  { name := s.name.name
    arguments := s.arguments
    returnType := s.returnType
    body := s.body
    language := s.language
    schema := s.name.schema }

/-- Creates a function, or replaces one of the same input types. -/
def CreateFunction.apply (s : CreateFunction) (b : Builder) : Except CatalogError Builder :=
  let f := s.function
  let same := fun (g : Function) => g.normalizedArgumentTypes == f.normalizedArgumentTypes
  match (b.functionsNamed f.name).find? same with
  | none => .ok (b.addFunction f)
  | some g =>
    if s.orReplace || g.builtin then b.replaceFunction g f
    else .error (.alreadyExists "function" f.signature)

def FunctionSignature.text (s : FunctionSignature) : String :=
  match s.argumentTypes with
  | some types => s.name.qualified ++ "(" ++ ", ".intercalate types ++ ")"
  | none => s.name.qualified

def Builder.functionsOf (b : Builder) (s : FunctionSignature) : List Function :=
  let overloads := b.functionsNamed s.name.name
  match s.argumentTypes with
  | none => overloads
  | some types =>
    overloads.filter fun f => f.normalizedArgumentTypes == types.map DataType.normalize

def Builder.dropFunctions (b : Builder) (ifExists : Bool) (s : FunctionSignature) :
    Except CatalogError Builder :=
  let matched := b.functionsOf s
  if matched.isEmpty then
    if ifExists then .ok b else .error (.notFound "function" s.text)
  else
    let dependents := b.functionDependents s.name.name
    if matched.length == (b.functionsNamed s.name.name).length && !dependents.isEmpty then
      .error (.dropConflict "function" s.name.name dependents)
    else .ok (b.removeFunctions matched)

def DropFunction.apply (s : DropFunction) (b : Builder) : Outcome :=
  Outcome.each (fun b target => .whole b (b.dropFunctions s.ifExists target)) b s.targets

/-! ## 2. Triggers -/

def CreateTrigger.trigger (s : CreateTrigger) (table : TableKey) (function : Function) : Trigger :=
  { name := s.name
    table
    events := s.events
    timing := s.timing
    orientation := s.orientation
    functionName := some function.name
    updateColumns := s.updateColumns
    condition := s.condition }

/-- Creates a trigger, or replaces the one of its name on the table. -/
def CreateTrigger.apply (s : CreateTrigger) (b : Builder) : Except CatalogError Builder := do
  let title := "trigger `" ++ s.name ++ "`"
  let t ← b.requireTable s.table title
  match b.function? s.function.name with
  | none => throw (.unresolved "function" s.function.qualified title)
  | some f =>
    let e ← b.requireEntry t.key
    requireColumns e.metadata.columns t.qualifiedName s.updateColumns
    let trigger := s.trigger t.key f
    if !b.triggers.any (Builder.isTrigger s.name t.key) then pure (b.addTrigger trigger)
    else if s.orReplace then b.replaceTrigger trigger
    else throw (.alreadyExists "trigger" (s.name ++ " on " ++ t.qualifiedName))

def DropTrigger.key? (s : DropTrigger) (b : Builder) : Option TableKey :=
  s.table.map fun n =>
    match b.resolve? n with
    | some t => t.key
    | none => n

def DropTrigger.selects (s : DropTrigger) (key : Option TableKey) (t : Trigger) : Bool :=
  t.name == s.name && (key.isNone || key == some t.table)

/-- Drops the triggers of a name, on one table or on all, one after the other. -/
def DropTrigger.apply (s : DropTrigger) (b : Builder) : Except CatalogError Builder :=
  let found := b.triggers.filter (s.selects (s.key? b))
  if found.isEmpty then
    if s.ifExists then .ok b else .error (.notFound "trigger" s.name)
  else found.foldlM (fun b t => b.removeTrigger t.name t.table) b

/-! ## 3. Policies -/

def Builder.functionsIn (b : Builder) : Option Expression → List String
  | some e => b.knownFunctions e
  | none => []

def CreatePolicy.apply (s : CreatePolicy) (b : Builder) : Except CatalogError Builder := do
  let t ← b.requireTable s.table ("policy `" ++ s.name ++ "`")
  if b.policies.any (Builder.isPolicy s.name t.key) then
    throw (.alreadyExists "policy" (s.name ++ " on " ++ t.qualifiedName))
  pure (b.addPolicy
    { name := s.name
      table := t.key
      command := s.command
      permissive := s.permissive
      roleNames := s.roles
      usingRows := s.usingRows
      withCheck := s.withCheck
      usingFunctionNames := b.functionsIn s.usingRows
      checkFunctionNames := b.functionsIn s.withCheck })

/-- The key of the table whose policy is dropped, if there is such a policy. -/
def DropPolicy.key? (s : DropPolicy) (b : Builder) : Option TableKey :=
  ((b.resolve? s.table).map (·.key)).filter fun key => b.policies.any (Builder.isPolicy s.name key)

def DropPolicy.apply (s : DropPolicy) (b : Builder) : Except CatalogError Builder :=
  match s.key? b with
  | some key => b.removePolicy s.name key
  | none =>
    if s.ifExists then .ok b
    else .error (.notFound "policy" (s.name ++ " on " ++ s.table.qualified))

end SchemaCatalog
