import SchemaCatalog.Proofs.Requoting
import SchemaCatalog.Statement.Grammar

/-!
# Statements that differ in their quoted names

Every reader of a part of a statement agrees with itself: on two texts with paired tokens it fails
in both or in neither. There is one lemma for each reader, and each follows the steps of its reader.

Few answers have to be related for this. The words that come next are the same in both texts, since
they decide how a reader goes on; runs of tokens are paired, since they are read again; of an
optional value it matters whether it is there (`Option.Rel Any`). Any two names, options or
statements will do (`Any`).
-/

namespace SchemaCatalog

open Sql

namespace Requoting.Agree

variable {q : Requoting} {ts us : List Token}

/-! ## 1. Names, types and expressions

What most statements share: dotted names and lists of names, and the runs of tokens that are read
again, as a type or as an expression. -/

theorem objectName : q.Agree ObjectName.read ObjectName.read Any := by
  refine .bind .qualifiedName ?_
  rintro ⟨first, others⟩ ⟨first', others'⟩ _
  exact .done _ _

theorem roleName : q.Agree readRoleName readRoleName Any := .next (.accept _) fun _ => .identifier

theorem roleNames : q.Agree readRoleNames readRoleNames Any := .commaSeparated .roleName

/-- A list of columns is split at its commas, and each part is read on its own. -/
theorem columnList : q.Agree readColumnList readColumnList Any := by
  refine .bind .parenthesized ?_
  intro inside inside' hinside
  refine .any (.each (T := Any) ?_ hinside.splitCommas)
  intro part part' hpart
  exact .within hpart .identifier

theorem typeText (h : q.Runs ts us) : q.Agree (readTypeText ts) (readTypeText us) Any :=
  .bindPure (.text h)

/-- The texts of two runs are both expressions or neither is. -/
theorem expression (h : q.Runs ts us) : q.Agree (Expression.read ts) (Expression.read us) Any := by
  refine .choose h.isEmpty_eq (.expected _ _) (.bind (.text h) ?_)
  intro s s' hs
  have hparses := hs.parses
  cases hs : Expression.parse s with
  | ok e =>
    cases hs' : Expression.parse s' with
    | ok e' => exact .done _ _
    | error x' => rw [hs, hs'] at hparses; cases hparses
  | error x =>
    cases hs' : Expression.parse s' with
    | ok e' => rw [hs, hs'] at hparses; cases hparses
    | error x' => exact .failWith _ _

theorem expressionInParentheses :
    q.Agree Expression.readParenthesized Expression.readParenthesized Any := by
  refine .bind .parenthesized ?_
  intro inside inside' hinside
  exact .expression hinside

/-- A statement that is known by its leading words is always read. -/
theorem other : q.Agree Statement.readOther Statement.readOther Any :=
  .bindPure .cursor

theorem otherOf (kind : String) :
    q.Agree (Statement.readOtherOf kind) (Statement.readOtherOf kind) Any :=
  .bindPure .statementText

/-! ## 2. Tables

The definition of a table is split into its elements, and these into a name, a type and options, or
into the words of a constraint. A constraint may come to nothing, so of it is kept whether it is
answered. -/

theorem nullsDistinct : q.Agree readNullsDistinct readNullsDistinct Any := by
  refine .branch (.accept _) (.done _ _) ?_
  exact .bindPure (.accept _)

theorem columnsPassed : q.Agree skipColumns skipColumns Any := by
  refine .branch (.atSymbol (by decide)) ?_ (.done _ _)
  exact .bindPure .parenthesized

/-- After `SET NULL` and `SET DEFAULT` a list of columns may stand. -/
theorem referentialAction : q.Agree readReferentialAction readReferentialAction Any := by
  have hcolumns (action action' : String) : q.Agree (skipColumns >>= fun _ => Pure.pure action)
      (skipColumns >>= fun _ => Pure.pure action') Any := .bindPure .columnsPassed
  refine .branch (.accept _) (.done _ _) ?_
  refine .branch (.accept _) (hcolumns _ _) ?_
  refine .branch (.accept _) (hcolumns _ _) ?_
  refine .branch (.accept _) (.done _ _) ?_
  exact .branch (.accept _) (.done _ _) (.expected _ _)

/-- In both texts a clause comes next, or in neither. -/
theorem foreignKeyClause (d d' : ForeignKeyDefinition) :
    q.Agree d.readClause d'.readClause (Option.Rel Any) := by
  refine .branch (.accept _) (.bindSome .advance) ?_
  refine .branch (.accept _) (.bindSome .referentialAction) ?_
  refine .branch (.accept _) (.bindSome .referentialAction) ?_
  exact .pure .none

/-- After the referenced columns any number of clauses comes. -/
theorem foreignKey (columns columns' : List String) (name name' : Option String) :
    q.Agree (ForeignKeyDefinition.read columns name) (ForeignKeyDefinition.read columns' name')
      Any := by
  refine .bind .objectName ?_
  intro table table' _
  refine .join (.atSymbol (by decide)) .columnList (.done [] []) ?_
  intro referenced referenced' _
  exact .iterate (fun d d' _ => .foreignKeyClause d d') True.intro

theorem constraintName : q.Agree readConstraintName readConstraintName Any :=
  .branch (.accept _) (.bindPure .identifier) (.done _ _)

/-- Both texts have a constraint of the table, or both an exclusion or a table that is copied
from. -/
theorem constraint :
    q.Agree ConstraintDefinition.read ConstraintDefinition.read (Option.Rel Any) := by
  refine .bind .constraintName ?_
  intro name name' _
  refine .branch (.accept _) (.bindSome .columnList) ?_
  refine .branch (.accept _) ?_ ?_
  · -- a unique constraint
    refine .bind .nullsDistinct ?_
    intro nullsDistinct nullsDistinct' _
    exact .bindSome .columnList
  refine .branch (.accept _) ?_ ?_
  · -- a foreign key
    refine .bind .columnList ?_
    intro columns columns' _
    refine .next (.expect _) ?_
    intro _
    exact .bindSome (.foreignKey columns columns' name name')
  refine .branch (.accept _) (.bindSome .expressionInParentheses) ?_
  refine .branch (.accept _) (.pure .none) ?_
  exact .branch (.accept _) (.pure .none) (.unexpected _ _)

/-- Where no token comes before `NULL`, that word is the default. -/
theorem default (d d' : ColumnDefinition) : q.Agree d.readDefault d'.readDefault Any := by
  have hstored {tokens tokens' : List Token} (h : q.Runs tokens tokens') :
      q.Agree
        (if tokens.isEmpty then Reader.expected ("a default value for column `" ++ d.name ++ "`")
          else Reader.text tokens >>= fun s => Pure.pure { d with default := some s })
        (if tokens'.isEmpty then Reader.expected ("a default value for column `" ++ d'.name ++ "`")
          else Reader.text tokens' >>= fun s => Pure.pure { d' with default := some s }) Any :=
    .choose h.isEmpty_eq (.expected _ _) (.bindPure (.text h))
  refine .bind (.untilWord _) ?_
  intro tokens tokens' h
  refine .branch (.and (.pure h.isEmpty_eq) (.atWords _)) ?_ ?_
  · refine .bind .advance ?_
    intro t u ht
    refine .bind (S := q.Runs) (.pure (.cons ht .nil)) ?_
    intro run run' hrun
    exact hstored hrun
  · refine .bind (.pure h) ?_
    intro run run' hrun
    exact hstored hrun

theorem generated (d d' : ColumnDefinition) : q.Agree d.readGenerated d'.readGenerated Any := by
  refine .onFailure (.accept _) (.expect _) (.next (.expect _) ?_)
  intro _
  refine .branch (.accept _) (.bindPure .columnsPassed) ?_
  refine .bind .parenthesized ?_
  intro inside inside' _
  exact .onFailure (.accept _) (.accept _) (.done _ _)

/-- Which option it is the next words tell, and they are the same in both texts. -/
theorem columnOption (d d' : ColumnDefinition) : q.Agree d.readOption d'.readOption Any := by
  refine .bind .constraintName ?_
  intro name name' _
  refine .branch (.accept _) (.done _ _) ?_
  refine .branch (.accept _) (.done _ _) ?_
  refine .branch (.accept _) (.default d d') ?_
  refine .branch (.accept _) (.done _ _) ?_
  refine .branch (.accept _) (.bindPure .nullsDistinct) ?_
  refine .branch (.accept _) ?_ ?_
  · -- a check, whose `NO INHERIT` is dropped
    refine .bind .expressionInParentheses ?_
    intro e e' _
    exact .bindPure (.accept _)
  refine .branch (.accept _) (.bindPure (.foreignKey _ _ _ _)) ?_
  refine .branch (.accept _) (.generated d d') ?_
  refine .branch (.accept _) (.bindPure .qualifiedName) ?_
  refine .branch (.acceptAny _) (.bindPure .advance) ?_
  refine .branch (.acceptAny _) (.done _ _) ?_
  exact .branch (.accept _) (.bindPure .advance) (.unexpected _ _)

/-- The type of a column is what comes before its first option. -/
theorem column : q.Agree ColumnDefinition.read ColumnDefinition.read Any := by
  refine .bind .identifier ?_
  intro name name' _
  refine .bind (.untilWord _) ?_
  intro tokens tokens' htokens
  refine .choose htokens.isEmpty_eq (.expected _ _) (.bind (.typeText htokens) ?_)
  intro dataType dataType' _
  exact .untilEnd (fun d d' _ => .columnOption d d') True.intro

/-- The first word of an element tells whether it is a constraint or a column. -/
theorem tableElement (table table' : CreateTable) {element element' : List Token}
    (h : q.Runs element element') :
    q.Agree (table.readElement element) (table'.readElement element') Any := by
  refine .within h (.next .word? ?_)
  intro word
  refine .ite (.bind .constraint ?_) (.bindPure .column)
  intro c c' hc
  cases hc with
  | some _ => exact .done _ _
  | none => exact .done _ _

theorem tableElements (table table' : CreateTable) {elements elements' : List (List Token)}
    (h : List.Forall₂ q.Runs elements elements') :
    q.Agree (table.readElements elements) (table'.readElements elements') Any := by
  induction h generalizing table table' with
  | nil => exact .done _ _
  | cons hfirst _ ih =>
    refine .bind (.tableElement table table' hfirst) ?_
    intro next next' _
    exact ih next next'

/-- Tables that are made of a query, a partition or a type are not looked into. -/
theorem createTable : q.Agree CreateTable.read CreateTable.read Any := by
  refine .next (.accept _) ?_
  intro ifNotExists
  refine .bind .objectName ?_
  intro name name' _
  refine .branch (.atWords _) (.otherOf _) ?_
  refine .branch (.atWords _) (.otherOf _) ?_
  refine .branch (.atWords _) (.otherOf _) ?_
  refine .bind .parenthesized ?_
  intro inside inside' hinside
  exact .bindPure (.tableElements _ _ hinside.splitCommas)

theorem rowSecurityAction : q.Agree RowSecurityAction.read? RowSecurityAction.read? Any := by
  refine .branch (.atWords _) (.done _ _) ?_
  refine .branch (.atWords _) (.done _ _) ?_
  refine .branch (.atWords _) (.done _ _) ?_
  exact .branch (.atWords _) (.done _ _) (.done _ _)

/-- The actions after the table are parts between commas, each of which is read on its own. -/
theorem alterTable : q.Agree AlterTable.read AlterTable.read Any := by
  refine .next (.accept _) ?_
  intro ifExists
  refine .next (.accept _) ?_
  intro _
  refine .bind .objectName ?_
  intro name name' _
  refine .next (.acceptSymbol (by decide)) ?_
  intro _
  refine .bind .remaining ?_
  intro actions actions' hactions
  refine .bindPure (.each (T := Any) ?_ hactions.splitCommas)
  intro part part' hpart
  exact .within hpart .rowSecurityAction

/-! ## 3. Indexes, functions, triggers and policies

Of an index item the expression at its front is read again, of a function argument the tokens of its
name and type. The words of events, orientations and commands are the same in both texts, so that
they are known in both or in neither. -/

/-- An expression in parentheses, a name or a call is passed over. -/
theorem indexExpression : q.Agree skipIndexExpression skipIndexExpression Any := by
  refine .branch (.atSymbol (by decide)) (.bindPure .parenthesized) ?_
  refine .bind .qualifiedName ?_
  intro name name' _
  exact .branch (.atSymbol (by decide)) (.bindPure .parenthesized) (.done _ _)

/-- What is not passed over is as long in both texts, so the expressions before it are paired. -/
theorem indexItem (h : q.Runs ts us) : q.Agree (readIndexItem ts) (readIndexItem us) Any := by
  have hpassed : q.Agree (skipIndexExpression >>= fun _ => Reader.remaining)
      (skipIndexExpression >>= fun _ => Reader.remaining) q.Runs :=
    .bind .indexExpression fun _ _ _ => .remaining
  refine .bind (.within h hpassed) ?_
  intro left left' hleft
  rw [h.length_eq, hleft.length_eq]
  exact .expression (List.forall₂_take _ h)

theorem createIndex (unique : Bool) :
    q.Agree (CreateIndex.read unique) (CreateIndex.read unique) Any := by
  refine .next (.accept _) ?_
  intro _
  refine .next (.accept _) ?_
  intro ifNotExists
  refine .branch (.atWords _) (.bind (.done none none) ?_) (.bind .qualifiedName ?_)
  on_goal 2 =>
    rintro ⟨first, others⟩ ⟨first', others'⟩ _
    refine .bind (.done _ _) ?_
  -- Whether the index has a name or not, the rest is read in the same way.
  all_goals
    intro name name' _
    refine .next (.expect _) ?_
    intro _
    refine .next (.accept _) ?_
    intro _
    refine .bind .objectName ?_
    intro table table' _
    refine .onSuccess (.accept _) .advance (.bind .parenthesized ?_)
    intro inside inside' hinside
    refine .bindPure (.each (T := Any) ?_ hinside.splitCommas)
    intro part part' hpart
    exact .indexItem hpart

/-- Of the parts of an argument only the tokens of its name and type are read again. -/
theorem argumentParts : q.Agree readArgumentParts readArgumentParts
    fun parts parts' => q.Runs parts.2.1 parts'.2.1 := by
  refine .next .word? ?_
  intro word
  refine .ite (.bind .advance ?_) (.bind (.done none none) ?_)
  on_goal 1 =>
    intro t u _
    refine .bind (.done _ _) ?_
  -- A mode in front makes no difference to what follows it.
  all_goals
    intro mode mode' _
    refine .bind (.untilWordOrSymbol _ (by decide)) ?_
    intro tokens tokens' htokens
    refine .branch (.or (.accept _) (.acceptSymbol (by decide))) (.bind .remaining ?_)
      (.bind (.done none none) fun _ _ _ => .pure htokens)
    intro rest rest' hrest
    refine .bind (.text hrest) ?_
    intro s s' _
    exact .bind (.done _ _) fun _ _ _ => .pure htokens

/-- An argument without a type is refused in both texts, or in neither. -/
theorem argument (h : q.Runs ts us) :
    q.Agree (FunctionArgument.read ts) (FunctionArgument.read us) Any := by
  refine .bind (.within h .argumentParts) ?_
  rintro ⟨mode, tokens, default⟩ ⟨mode', tokens', default'⟩ hread
  cases (hread : q.Runs tokens tokens') with
  | nil => exact .expected _ _
  | cons hfirst hothers =>
    refine .bind (.typeText (.cons hfirst hothers)) ?_
    intro whole whole' _
    -- The words may make a type together in one text only, but then they are read all the same.
    dsimp only
    split <;> split <;> exact fun _ _ hc => .ok True.intro hc

theorem arguments : q.Agree readArguments readArguments Any := by
  refine .bind .parenthesized ?_
  intro inside inside' hinside
  refine .any (.each (T := Any) ?_ hinside.splitCommas)
  intro part part' hpart
  exact .argument hpart

/-- The columns of a table that is returned are kept as they are written. -/
theorem returnType : q.Agree readReturnType readReturnType Any := by
  refine .branch (.accept _) (.bind .parenthesized ?_) (.bind (.untilWord _) ?_)
  · intro columns columns' hcolumns
    exact .bindPure (.text hcolumns)
  · intro tokens tokens' htokens
    exact .typeText htokens

/-- A token that opens no option is passed over alone. -/
theorem functionOption (f f' : CreateFunction) : q.Agree f.readOption f'.readOption Any := by
  refine .branch (.accept _) (.bindPure .advance) ?_
  refine .branch (.accept _) (.bind .string ?_) ?_
  · -- a body as a string, which the name of a symbol may follow
    intro body body' _
    exact .onSuccess (.acceptSymbol (by decide)) .string (.done _ _)
  refine .branch (.accept _) (.bind .remaining ?_) ?_
  · intro rest rest' hrest
    exact .bindPure (.text hrest)
  refine .branch (.accept _) (.bind .remaining ?_) ?_
  · intro rest rest' hrest
    exact .bindPure (.text hrest)
  refine .branch (.accept _) (.bindPure (.untilWord _)) ?_
  refine .branch (.accept _) (.bindPure .qualifiedName) ?_
  exact .bindPure .advance

theorem createFunction (orReplace : Bool) :
    q.Agree (CreateFunction.read orReplace) (CreateFunction.read orReplace) Any := by
  refine .bind .objectName ?_
  intro name name' _
  refine .bind .arguments ?_
  intro arguments arguments' _
  refine .join (.accept _) (.map .returnType) (.done _ _) ?_
  intro returnType returnType' _
  exact .bindPure (.untilEnd (fun f f' _ => .functionOption f f') True.intro)

/-- A function is named with its argument types in both texts, or in neither. -/
theorem functionSignature : q.Agree FunctionSignature.read FunctionSignature.read Any := by
  refine .bind .objectName ?_
  intro name name' _
  exact .branch (.atSymbol (by decide)) (.bindPure .arguments) (.done _ _)

theorem triggerTiming : q.Agree TriggerTiming.read TriggerTiming.read Any := by
  refine .branch (.accept _) (.done _ _) ?_
  refine .branch (.accept _) (.done _ _) ?_
  exact .bindPure (.expect _)

/-- The event is the same in both texts, since the word that comes next is. -/
theorem triggerEvent : q.Agree TriggerEvent.read TriggerEvent.read Any := by
  refine .next .word? ?_
  intro word
  cases word.bind TriggerEvent.ofKeyword? with
  | none => exact .expected _ _
  | some event =>
    refine .bind .advance ?_
    intro t u _
    refine .branch (.and (.pure rfl) (.accept _)) ?_ (.done _ _)
    exact .bindPure (.commaSeparated .identifier)

theorem triggerEvents : q.Agree readTriggerEvents readTriggerEvents Any := by
  refine .bind .triggerEvent ?_
  intro first first' _
  refine .bindPure (.iterate (S := Any) ?_ True.intro)
  intro events events' _
  exact .branch (.accept _) (.bindSome .triggerEvent) (.pure .none)

/-- In both texts a transition table comes next, or in neither. -/
theorem transition : q.Agree skipTransition skipTransition (Option.Rel Any) := by
  refine .next .word? ?_
  intro word
  refine .ite (.bind .advance ?_) (.pure .none)
  intro t u _
  refine .next (.expect _) ?_
  intro _
  refine .next (.accept _) ?_
  intro _
  exact .bindSome .identifier

/-- Both clauses name a function to run, or neither does. -/
def SameClauses (clauses clauses' : TriggerClauses) : Prop :=
  Option.Rel Any clauses.function clauses'.function

/-- A clause other than `EXECUTE` leaves the function that is to run. -/
theorem triggerClause {clauses clauses' : TriggerClauses} (h : SameClauses clauses clauses') :
    q.Agree clauses.readNext clauses'.readNext SameClauses := by
  refine .branch (.accept _) (.bind .objectName fun _ _ _ => .pure h) ?_
  refine .branch (.acceptAny _) (.pure h) ?_
  refine .branch (.accept _) (.bind .advance fun _ _ _ => .pure h) ?_
  refine .branch (.accept _) ?_ ?_
  · -- the transition tables
    refine .bind (.iterate (S := Any) ?_ True.intro) fun _ _ _ => .pure h
    intro _ _ _
    exact .transition
  refine .branch (.accept _) (.next (.accept _) ?_) ?_
  · -- for each row or each statement
    intro _
    refine .next .word? ?_
    intro word
    cases word.bind TriggerOrientation.ofKeyword? with
    | none => exact .expected _ _
    | some orientation => exact .bind .advance fun _ _ _ => .pure h
  refine .branch (.accept _) (.bind .expressionInParentheses fun _ _ _ => .pure h) ?_
  refine .branch (.accept _) (.onFailure (.accept _) (.expect _) ?_) (.unexpected _ _)
  -- the function to run
  refine .bind .objectName ?_
  intro function function' _
  refine .bind .parenthesized ?_
  intro inside inside' _
  exact .pure (.some True.intro)

/-- A trigger without a function is refused in both texts, or in neither. -/
theorem createTrigger (orReplace : Bool) :
    q.Agree (CreateTrigger.read orReplace) (CreateTrigger.read orReplace) Any := by
  refine .bind .identifier ?_
  intro name name' _
  refine .bind .triggerTiming ?_
  intro timing timing' _
  refine .bind .triggerEvents ?_
  intro events events' _
  refine .next (.expect _) ?_
  intro _
  refine .bind .objectName ?_
  intro table table' _
  refine .bind (.untilEnd (fun _ _ h => .triggerClause h) .none) ?_
  intro clauses clauses' hclauses
  have hfunction : Option.Rel Any clauses.function clauses'.function := hclauses
  revert hfunction
  generalize clauses.function = function, clauses'.function = function'
  rintro (- | -)
  · exact .done _ _
  · exact .expected _ _

theorem policyClause (p p' : CreatePolicy) : q.Agree p.readClause p'.readClause Any := by
  refine .branch (.accept _) (.bindPure .advance) ?_
  refine .branch (.accept _) (.next .word? ?_) ?_
  · -- the command, which a word names
    intro word
    cases word.bind PolicyCommand.ofKeyword? with
    | none => exact .expected _ _
    | some command => exact .bindPure .advance
  refine .branch (.accept _) (.bindPure .roleNames) ?_
  refine .branch (.accept _) (.bindPure .expressionInParentheses) ?_
  exact .branch (.accept _) (.bindPure .expressionInParentheses) (.unexpected _ _)

theorem createPolicy : q.Agree CreatePolicy.read CreatePolicy.read Any := by
  refine .bind .identifier ?_
  intro name name' _
  refine .next (.expect _) ?_
  intro _
  refine .bind .objectName ?_
  intro table table' _
  exact .bindPure (.untilEnd (fun p p' _ => .policyClause p p') True.intro)

/-! ## 4. Roles, grants and schemas

A grant is split at `ON` and `TO`, and its parts are read within their own tokens. Whether a
privilege is named depends on bare words only, and these are the same in both texts. -/

/-- Whether a word sets an attribute of a role is the same for all options. -/
theorem rel_withFlag? (options options' : RoleOptions) (word : Option String) :
    Option.Rel Any (word.bind options.withFlag?) (word.bind options'.withFlag?) := by
  cases word with
  | none => exact .none
  | some word =>
    simp only [Option.bind_some, RoleOptions.withFlag?]
    split
    all_goals first
      | exact .some True.intro
      | exact .none

/-- An attribute is told by one word, which is the same in both texts. -/
theorem roleOption (r r' : CreateRole) : q.Agree r.readOption r'.readOption Any := by
  refine .next .word? ?_
  intro word
  have hflag := rel_withFlag? r.options r'.options word
  revert hflag
  generalize word.bind r.options.withFlag? = options, word.bind r'.options.withFlag? = options'
  rintro (- | -)
  · exact .bindPure .advance
  -- No attribute in either text.
  refine .branch (.accept _) (.next (.acceptSymbol (by decide)) ?_) ?_
  · -- the greatest number of connections
    intro negative
    exact .bindPure .integer
  refine .branch (.acceptAny _) (.next (.accept _) ?_) ?_
  · -- a password, which is dropped
    intro _
    exact .bindPure .advance
  refine .branch (.accept _) (.bindPure .string) ?_
  refine .branch (.acceptAny _) (.bindPure .roleNames) ?_
  refine .branch (.acceptAny _) (.bindPure .roleNames) ?_
  exact .branch (.accept _) (.bindPure .integer) (.unexpected _ _)

theorem createRole (login : Bool) :
    q.Agree (CreateRole.read login) (CreateRole.read login) Any := by
  refine .bind .identifier ?_
  intro name name' _
  refine .next (.accept _) ?_
  intro _
  exact .bindPure (.untilEnd (fun r r' _ => .roleOption r r') True.intro)

/-- The words that come next are the same. -/
theorem words : q.Agree readWords readWords Eq := by
  refine .next (.iterate (S := Eq) ?_ rfl) fun words => .pure rfl
  rintro words _ rfl
  refine .next .word? ?_
  intro word
  cases word with
  | none => exact .pure .none
  | some word => exact .bind .advance fun _ _ _ => .pure (.some rfl)

/-- A privilege has the same words in both texts, whatever its columns are. -/
theorem privilegeParts : q.Agree readPrivilegeParts readPrivilegeParts
    fun parts parts' => parts.1 = parts'.1 := by
  refine .next .words ?_
  intro words
  refine .join (.atSymbol (by decide)) .columnList (.done [] []) ?_
  intro columns columns' _
  exact .pure rfl

/-- A part without a word is refused in both texts, or in neither. -/
theorem privileges (h : q.Runs ts us) : q.Agree (readPrivileges ts) (readPrivileges us) Any := by
  refine .choose h.isEmpty_eq (.expected _ _) (.bindPure (.each (T := Any) ?_ h.splitCommas))
  intro part part' hpart
  refine .bind (.within hpart .privilegeParts) ?_
  rintro ⟨words, columns⟩ ⟨words', columns'⟩ hwords
  cases (hwords : words = words')
  exact .ite (.expected _ _) (.done _ _)

theorem plainNames : q.Agree readPlainNames readPlainNames Any := .bindPure .roleNames

theorem allInSchema : q.Agree readAllInSchema readAllInSchema Any := by
  refine .bind .advance ?_
  intro t u _
  refine .next (.expect _) ?_
  intro _
  exact .bindPure .plainNames

/-- The objects are of the kind that the words before them say, and tables without such words. -/
theorem grantObjects : q.Agree GrantObjects.read GrantObjects.read Any := by
  refine .branch (.accept _) .allInSchema ?_
  refine .branch (.accept _) (.bindPure .plainNames) ?_
  refine .branch (.acceptAny _) (.bindPure (.commaSeparated .functionSignature)) ?_
  refine .branch (.accept _) (.bindPure (.commaSeparated .objectName)) ?_
  refine .next .word? ?_
  intro word
  refine .ite (.done _ _) (.next (.accept _) ?_)
  intro _
  exact .bindPure (.commaSeparated .objectName)

/-- What stands before `ON` are privileges, what stands before `TO` alone are roles. -/
theorem grant : q.Agree readGrant readGrant Any := by
  refine .bind (.untilWord _) ?_
  intro head head' hhead
  refine .branch (.accept _) ?_ ?_
  · -- privileges on objects
    have hprivileges : q.Agree (readPrivileges head) (readPrivileges head') Any :=
      .privileges hhead
    refine .bind hprivileges ?_
    rintro ⟨allPrivileges, privileges⟩ ⟨allPrivileges', privileges'⟩ _
    refine .bind (.untilWord _) ?_
    intro run run' hrun
    have hobjects : q.Agree (Reader.within run GrantObjects.read)
        (Reader.within run' GrantObjects.read) Any := .within hrun .grantObjects
    refine .bind hobjects ?_
    intro objects objects' _
    refine .next (.expect _) ?_
    intro _
    refine .bind .roleNames ?_
    intro grantees grantees' _
    refine .next (.accept _) ?_
    intro withGrantOption
    refine .join (.accept _) (.map .roleName) (.done none none) ?_
    intro grantedBy grantedBy' _
    exact .done _ _
  · -- roles
    refine .next (.expect _) ?_
    intro _
    have hroles : q.Agree (Reader.within head readRoleNames) (Reader.within head' readRoleNames)
        Any := .within hhead .roleNames
    refine .bind hroles ?_
    intro roles roles' _
    refine .bind .roleNames ?_
    intro grantees grantees' _
    refine .branch (.accept _) ?_ (.bind (.done _ _) fun _ _ _ => .done _ _)
    -- What stands after `WITH` is passed to its end, whether it is about administration or not.
    refine .branch (.accept _) (.next (.accept _) ?_) (.bind (.done _ _) ?_)
    on_goal 1 =>
      intro refused
      refine .bind (.done _ _) ?_
    all_goals
      intro admin admin' _
      refine .bind .remaining ?_
      intro rest rest' _
      exact .bind (.done _ _) fun _ _ _ => .done _ _

/-- Nothing comes after `CASCADE` or `RESTRICT` in both texts, or in neither. -/
theorem cascade : q.Agree readCascade readCascade Any := by
  have hend (cascade : Bool) (what : String) :
      q.Agree (do if ← Reader.atEnd then Pure.pure cascade else Reader.unexpected what)
        (do if ← Reader.atEnd then Pure.pure cascade else Reader.unexpected what) Any :=
    .branch .atEnd (.done _ _) (.unexpected _ _)
  refine .next (.accept _) ?_
  intro cascade
  refine .ite (hend cascade _) (.next (.accept _) ?_)
  intro _
  exact hend cascade _

/-- As in a grant, with `FROM` for `TO`. -/
theorem revoke : q.Agree readRevoke readRevoke Any := by
  refine .next (.accept _) ?_
  intro grantOptionFor
  refine .next (.accept _) ?_
  intro _
  refine .bind (.untilWord _) ?_
  intro head head' hhead
  refine .branch (.accept _) ?_ ?_
  · -- privileges on objects
    have hprivileges : q.Agree (readPrivileges head) (readPrivileges head') Any :=
      .privileges hhead
    refine .bind hprivileges ?_
    rintro ⟨allPrivileges, privileges⟩ ⟨allPrivileges', privileges'⟩ _
    refine .bind (.untilWord _) ?_
    intro run run' hrun
    have hobjects : q.Agree (Reader.within run GrantObjects.read)
        (Reader.within run' GrantObjects.read) Any := .within hrun .grantObjects
    refine .bind hobjects ?_
    intro objects objects' _
    refine .next (.expect _) ?_
    intro _
    refine .bind .roleNames ?_
    intro grantees grantees' _
    exact .onSuccess (.accept _) .roleName (.bindPure .cascade)
  · -- roles
    refine .next (.expect _) ?_
    intro _
    have hroles : q.Agree (Reader.within head readRoleNames) (Reader.within head' readRoleNames)
        Any := .within hhead .roleNames
    refine .bind hroles ?_
    intro roles roles' _
    exact .bindPure .roleNames

theorem createSchema : q.Agree CreateSchema.read CreateSchema.read Any := by
  refine .next (.accept _) ?_
  intro ifNotExists
  refine .branch (.accept _) (.bindPure .identifier) (.bind .identifier ?_)
  intro name name' _
  refine .join (.accept _) (.map .identifier) (.done none none) ?_
  intro owner owner' _
  exact .done _ _

theorem alterSchema : q.Agree AlterSchema.read AlterSchema.read Any := by
  refine .next (.accept _) ?_
  intro ifExists
  refine .bind .identifier ?_
  intro name name' _
  refine .branch (.accept _) (.bindPure .identifier) (.next (.expect _) ?_)
  intro _
  exact .bindPure .identifier

/-! ## 5. Drops

Of each kind of drop an optional `IF EXISTS`, the targets and, but for roles, what ends the
statement are read. -/

theorem dropTable : q.Agree DropTable.read DropTable.read Any := by
  refine .next (.accept _) ?_
  intro ifExists
  refine .bind (.commaSeparated .objectName) ?_
  intro names names' _
  exact .bindPure .cascade

theorem dropIndex : q.Agree DropIndex.read DropIndex.read Any := by
  refine .next (.accept _) ?_
  intro _
  refine .next (.accept _) ?_
  intro ifExists
  refine .bind (.commaSeparated .objectName) ?_
  intro names names' _
  exact .bindPure .cascade

theorem dropFunction : q.Agree DropFunction.read DropFunction.read Any := by
  refine .next (.accept _) ?_
  intro ifExists
  refine .bind (.commaSeparated .functionSignature) ?_
  intro targets targets' _
  exact .bindPure .cascade

/-- The table of a trigger may be left out. -/
theorem dropTrigger : q.Agree DropTrigger.read DropTrigger.read Any := by
  refine .next (.accept _) ?_
  intro ifExists
  refine .bind .identifier ?_
  intro name name' _
  refine .join (.accept _) (.map .objectName) (.done none none) ?_
  intro table table' _
  exact .bindPure .cascade

theorem dropPolicy : q.Agree DropPolicy.read DropPolicy.read Any := by
  refine .next (.accept _) ?_
  intro ifExists
  refine .bind .identifier ?_
  intro name name' _
  refine .next (.expect _) ?_
  intro _
  refine .bind .objectName ?_
  intro table table' _
  exact .bindPure .cascade

/-- Nothing is asked of what comes after the roles. -/
theorem dropRole : q.Agree DropRole.read DropRole.read Any := by
  refine .next (.accept _) ?_
  intro ifExists
  exact .bindPure .roleNames

theorem dropSchema : q.Agree DropSchema.read DropSchema.read Any := by
  refine .next (.accept _) ?_
  intro ifExists
  refine .bind (.commaSeparated .identifier) ?_
  intro names names' _
  exact .bindPure .cascade

/-- The words after `DROP` tell the kind, and what is not known is not looked into. -/
theorem drop : q.Agree readDrop readDrop Any := by
  refine .branch (.accept _) .dropTable ?_
  refine .branch (.accept _) .dropIndex ?_
  refine .branch (.accept _) .dropFunction ?_
  refine .branch (.accept _) .dropTrigger ?_
  refine .branch (.accept _) .dropPolicy ?_
  refine .branch (.atWords _) .other ?_
  refine .branch (.acceptAny _) .dropRole ?_
  exact .branch (.accept _) .dropSchema .other

/-! ## 6. Statements

The leading words of a statement tell which of the readers above goes on. -/

theorem creationModifier : q.Agree skipCreationModifier skipCreationModifier (Option.Rel Any) := by
  refine .next .word? ?_
  intro word
  exact .ite (.bindSome .advance) (.pure .none)

/-- The words between `CREATE` and its object are the same in both texts, `UNIQUE` included. -/
theorem create : q.Agree readCreate readCreate Any := by
  refine .next (.accept _) ?_
  intro orReplace
  refine .branch (.atWords _) .other ?_
  refine .bind (.iterate (S := Any) (fun _ _ _ => .creationModifier) True.intro) ?_
  intro _ _ _
  refine .branch (.accept _) .createTable (.next (.accept _) ?_)
  intro unique
  refine .branch (.accept _) (.createIndex unique) ?_
  refine .ite (.expected _ _) ?_
  refine .branch (.accept _) (.createFunction orReplace) ?_
  refine .branch (.accept _) (.createTrigger orReplace) ?_
  refine .branch (.accept _) .createPolicy ?_
  refine .branch (.acceptAny _) (.createRole false) ?_
  refine .branch (.accept _) (.createRole true) ?_
  exact .branch (.accept _) .createSchema .other

theorem alter : q.Agree readAlter readAlter Any := by
  refine .branch (.accept _) .alterTable ?_
  exact .branch (.accept _) .alterSchema .other

/-- A string, a keyword or the text to the end: which it is the next token tells, by its kind and,
if it is a bare word, by its text. -/
theorem timeZone : q.Agree readTimeZone readTimeZone Any := by
  refine .bind .cursor ?_
  rintro ⟨sql, statement, rest⟩ ⟨sql', statement', rest'⟩ hplaces
  have hword := word?_eq hplaces
  cases hplaces.rest with
  | nil => exact .expected _ _
  | cons hfirst hrest =>
    refine .choose (q.alike hfirst).isString_eq .string ?_
    refine .choose (by rw [hword]) (.bindPure .advance) (.bind .remaining ?_)
    intro run run' hrun
    refine .bind (.text hrun) ?_
    intro value value' hvalue
    exact .choose hvalue.isEmpty (.expected _ _) (.done _ _)

/-- Only the time zone is looked into. -/
theorem set : q.Agree readSet readSet Any := by
  refine .next .word? ?_
  intro word
  refine .ite (.bind .advance ?_) ?_
  on_goal 1 => intro t u _
  -- `SESSION` and `LOCAL` are passed over.
  all_goals
    refine .branch (.accept _) (.bindPure .timeZone) ?_
    refine .branch (.accept _) ?_ (.otherOf _)
    exact .onFailure (.accept _) (.expectSymbol (by decide)) (.bindPure .timeZone)

/-- A name with as many parts is the target of a comment on a column, or is none. -/
theorem rel_columnTarget? {first first' : String} {others others' : List String}
    (h : List.Forall₂ Any others others') :
    Option.Rel Any (columnTarget? first others) (columnTarget? first' others') := by
  have hreverse : List.Forall₂ Any (first :: others).reverse (first' :: others').reverse :=
    List.forall₂_reverse_iff.mpr (.cons True.intro h)
  revert hreverse
  unfold columnTarget?
  generalize (first :: others).reverse = parts, (first' :: others').reverse = parts'
  rintro (- | ⟨-, - | ⟨-, - | -⟩⟩)
  · exact .none
  · exact .none
  · exact .some True.intro
  · exact .some True.intro

/-- A column is named in both texts by as many parts. -/
theorem commentTarget : q.Agree readCommentTarget readCommentTarget Any := by
  refine .branch (.accept _) (.bindPure .objectName) ?_
  refine .branch (.accept _) (.bind .qualifiedName ?_) (.bind .advance ?_)
  · rintro ⟨first, others⟩ ⟨first', others'⟩ hothers
    have htarget : Option.Rel Any (columnTarget? first others) (columnTarget? first' others') :=
      rel_columnTarget? hothers
    revert htarget
    dsimp only
    generalize columnTarget? first others = target, columnTarget? first' others' = target'
    rintro (- | -)
    · exact .done _ _
    · exact .expected _ _
  · intro kind kind' _
    refine .bind (.untilWord _) ?_
    intro name name' hname
    exact .bindPure (.text hname)

theorem comment : q.Agree CommentOn.read CommentOn.read Any := by
  refine .bind .commentTarget ?_
  intro target target' _
  refine .next (.expect _) ?_
  intro _
  refine .join (.accept _) (.done none none) (.map .string) ?_
  intro text text' _
  exact .done _ _

/-- Both texts are read as a statement, or neither is. -/
theorem statement : q.Agree Statement.read Statement.read Any := by
  refine .branch (.accept _) .create ?_
  refine .branch (.accept _) .drop ?_
  refine .branch (.accept _) .alter ?_
  refine .branch (.accept _) .grant ?_
  refine .branch (.accept _) .revoke ?_
  refine .branch (.accept _) .set ?_
  exact .branch (.accept _) .comment .other

end Requoting.Agree

end SchemaCatalog
