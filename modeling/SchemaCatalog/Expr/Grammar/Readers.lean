import SchemaCatalog.Expr.Grammar.Token

/-!
# The readers that call each other

The grammar of expressions is recursive: an operand may hold a whole expression. The readers of a part
of it are written over a record of those that lead back into the grammar, `Readers`; the record that
reads so many levels deep is made from the one that reads one level less.
-/

namespace SchemaCatalog

namespace Grammar

inductive TypeForm where
  /-- A type: its keyword, if it has one, the operands of its size, and whether it has a size. -/
  | named (word : String) (operands : List Expr) (sized : Bool)
  /-- A type together with the values it is made of. -/
  | filled (value : Expr)
  deriving Repr

inductive QueryPlace where
  /-- It stands alone, or is joined with others. -/
  | bare
  /-- It may stand in parentheses, and is joined with no other. -/
  | nested
  /-- It may stand in parentheses, and those may hold a table. -/
  | table
  deriving DecidableEq, Repr

inductive QueryKind where
  /-- A selection, or any query in parentheses: the columns inside are those of other tables. -/
  | selection
  /-- Two queries joined into one. -/
  | union
  /-- Rows written out. -/
  | values
  /-- Another statement. -/
  | other
  deriving DecidableEq, Repr

/-- The clauses that may follow the body of a query. -/
inductive ClauseKind where
  | target | source | joins | laterals | condition | groups | having | qualification | windows | order
  | limit | offset | locks | sample | clusters | distribution | sorting | connection
  deriving DecidableEq, Repr

structure QueryForm where
  kind : QueryKind
  /-- The operands of its body. -/
  body : List Expr
  /-- Its clauses in the order of their visit; the place of an absent one may be kept. -/
  clauses : List (ClauseKind × Option (List Expr)) := []
  /-- The named queries before it, which are visited last. -/
  common : List Expr := []
  deriving Repr

namespace QueryForm

/-- The operands of a query in the order of their visit. -/
def operands (q : QueryForm) : List Expr :=
  q.body ++ q.clauses.flatMap (fun clause => clause.2.getD []) ++ q.common

def expr (q : QueryForm) : Expr :=
  if q.kind = .selection then .query q.operands else .compound q.operands

/-- A query that is one when it stands between parentheses. -/
def isQuery (q : QueryForm) : Bool := q.kind == .selection || q.kind == .union

def has (q : QueryForm) (kind : ClauseKind) : Bool :=
  q.clauses.any fun clause => clause.1 == kind && clause.2.isSome

def clause? (q : QueryForm) (kind : ClauseKind) : Option (List Expr) :=
  q.clauses.findSome? fun clause => if clause.1 = kind then clause.2 else none

/-- A query with a clause, which takes the place that is kept for it, or else comes last. -/
def put (q : QueryForm) (kind : ClauseKind) (operands : List Expr) : QueryForm :=
  if q.clauses.any (·.1 == kind) then
    { q with clauses := q.clauses.map fun clause =>
        if clause.1 = kind then (kind, some operands) else clause }
  else { q with clauses := q.clauses ++ [(kind, some operands)] }

def without (q : QueryForm) (kind : ClauseKind) : QueryForm :=
  { q with clauses := q.clauses.filter (·.1 != kind) }

def enclosed (q : QueryForm) (operands : List Expr) : QueryForm :=
  ⟨.selection, q.expr :: operands, [], []⟩

end QueryForm

/-- An operand that may be a query without parentheses. -/
inductive OperandForm where
  | plain (e : Expr)
  | query (q : QueryForm)
  deriving Repr

namespace OperandForm

def expr : OperandForm → Expr
  | plain e => e
  | query q => q.expr

/-- The query that an operand is, be it in parentheses. -/
def query? : OperandForm → Option QueryForm
  | plain (.query operands) => some ⟨.selection, operands, [], []⟩
  | plain _ => none
  | query q => some q

end OperandForm

structure CallForm where
  /-- The name is taken as it stands, and denotes no known function. -/
  plain : Bool := false
  /-- The name may be any word. -/
  anyName : Bool := false
  /-- The function may be one that is called without parentheses. -/
  bare : Bool := true
  deriving DecidableEq, Repr

structure TableForm where
  /-- Other tables may be joined to it. -/
  joins : Bool := false
  /-- It is only named: no other name for it follows. -/
  named : Bool := false
  /-- The words that may name it without `AS`. -/
  names : Sql.Token → Bool := Vocabulary.isTableName

/-- The readers that lead back into the grammar. -/
structure Readers where
  statement : Parse (Option Expr)
  query : QueryPlace → Parse (Option QueryForm)
  table : TableForm → Parse (Option Expr)
  join : Parse (Option Expr)
  expression : Parse (Option Expr)
  assignment : Parse (Option Expr)
  disjunction : Parse (Option Expr)
  equality : Parse (Option Expr)
  bitwise : Parse (Option Expr)
  term : Parse (Option Expr)
  factor : Parse (Option Expr)
  unary : Parse (Option Expr)
  typed : Parse (Option Expr)
  column : Parse (Option Expr)
  primary : Parse (Option Expr)
  call : CallForm → Parse (Option Expr)
  argument : Bool → Parse (Option Expr)
  /-- A type; one may be named by a word that is no keyword, or must be followed by a string if it has
  a size. -/
  type : Bool → Parse (Option TypeForm)
  members : Expr → Parse Expr

/-- The readers that read nothing. -/
def Readers.none : Readers where
  statement := failure
  query _ := failure
  table _ := failure
  join := failure
  expression := failure
  assignment := failure
  disjunction := failure
  equality := failure
  bitwise := failure
  term := failure
  factor := failure
  unary := failure
  typed := failure
  column := failure
  primary := failure
  call _ := failure
  argument _ := failure
  type _ := failure
  members _ := failure

end Grammar

end SchemaCatalog
