import SchemaCatalog.Expr.Basic
import SchemaCatalog.Text.LetterCase

/-!
# What an expression refers to

The columns and the calls of an expression, each listed once in the order of first sight. A query
inside the expression contributes its calls but not its columns, since those are of other tables.
`mapColumns` rewrites the columns of an expression, those hidden in queries included.
-/

namespace SchemaCatalog

/-- The functions written without parentheses. A bare column of such a name counts as a call too. -/
def niladicFunctions : List String :=
  ["current_user", "session_user", "current_role", "current_timestamp", "current_date",
    "current_time", "localtimestamp", "localtime", "user"]

def isNiladic (name : String) : Bool := niladicFunctions.contains (Text.lower name)

/-- The elements of a list with the later repetitions dropped, after those in `seen`. -/
def distinctFrom {α : Type} [BEq α] (seen : List α) : List α → List α
  | [] => []
  | a :: as => if seen.contains a then distinctFrom seen as else a :: distinctFrom (a :: seen) as

/-- The elements of a list with the later repetitions dropped. -/
def distinct {α : Type} [BEq α] (as : List α) : List α := distinctFrom [] as

theorem mem_distinctFrom {α : Type} [BEq α] [LawfulBEq α] {seen as : List α} {a : α} :
    a ∈ distinctFrom seen as ↔ a ∈ as ∧ a ∉ seen := by
  induction as generalizing seen with
  | nil => simp [distinctFrom]
  | cons x as ih =>
    rw [distinctFrom]
    split
    · rename_i hseen
      have hseen : x ∈ seen := List.contains_iff_mem.mp hseen
      rw [ih, List.mem_cons]
      constructor
      · rintro ⟨ha, hout⟩
        exact ⟨Or.inr ha, hout⟩
      · rintro ⟨ha, hout⟩
        exact ⟨ha.resolve_left fun hax => hout (hax ▸ hseen), hout⟩
    · rename_i hnew
      have hnew : x ∉ seen := fun hx => hnew (List.contains_iff_mem.mpr hx)
      rw [List.mem_cons, List.mem_cons, ih, List.mem_cons]
      constructor
      · rintro (rfl | ⟨ha, hout⟩)
        · exact ⟨Or.inl rfl, hnew⟩
        · exact ⟨Or.inr ha, fun hin => hout (Or.inr hin)⟩
      · rintro ⟨ha, hout⟩
        by_cases hax : a = x
        · exact Or.inl hax
        · exact Or.inr ⟨ha.resolve_left hax, fun hin => hin.elim hax hout⟩

theorem mem_distinct {α : Type} [BEq α] [LawfulBEq α] {as : List α} {a : α} :
    a ∈ distinct as ↔ a ∈ as := by
  rw [distinct, mem_distinctFrom]
  exact and_iff_left List.not_mem_nil

namespace Expr

mutual

/-- The names of the columns of an expression, with repetitions. -/
def columnNames : Expr → List String
  | column _ name => [name]
  | literal _ => []
  | paren inner => inner.columnNames
  | negate inner => inner.columnNames
  | not inner => inner.columnNames
  | and left right => left.columnNames ++ right.columnNames
  | or left right => left.columnNames ++ right.columnNames
  | compare _ left right => left.columnNames ++ right.columnNames
  | is left right => left.columnNames ++ right.columnNames
  | call _ arguments => columnNamesOfAll arguments
  | compound operands => columnNamesOfAll operands
  | query _ => []
  | nameless _ _ => []

def columnNamesOfAll : List Expr → List String
  | [] => []
  | e :: es => e.columnNames ++ columnNamesOfAll es

end

mutual

/-- The calls of an expression, outer ones first, each as its candidate names in lower case; with
repetitions. -/
def callNames : Expr → List (List String)
  | column qualifiers name =>
    if qualifiers.isEmpty && isNiladic name then [[Text.lower name]] else []
  | literal _ => []
  | paren inner => inner.callNames
  | negate inner => inner.callNames
  | not inner => inner.callNames
  | and left right => left.callNames ++ right.callNames
  | or left right => left.callNames ++ right.callNames
  | compare _ left right => left.callNames ++ right.callNames
  | is left right => left.callNames ++ right.callNames
  | call names arguments =>
    if names.isEmpty then callNamesOfAll arguments
    else names.map Text.lower :: callNamesOfAll arguments
  | compound operands => callNamesOfAll operands
  | query operands => callNamesOfAll operands
  | nameless _ operands => callNamesOfAll operands

def callNamesOfAll : List Expr → List (List String)
  | [] => []
  | e :: es => e.callNames ++ callNamesOfAll es

end

mutual

def mapColumns (f : List String → String → Expr) : Expr → Expr
  | column qualifiers name => f qualifiers name
  | literal value => literal value
  | paren inner => paren (inner.mapColumns f)
  | negate inner => negate (inner.mapColumns f)
  | not inner => not (inner.mapColumns f)
  | and left right => and (left.mapColumns f) (right.mapColumns f)
  | or left right => or (left.mapColumns f) (right.mapColumns f)
  | compare op left right => compare op (left.mapColumns f) (right.mapColumns f)
  | is left right => is (left.mapColumns f) (right.mapColumns f)
  | call names arguments => call names (mapColumnsOfAll f arguments)
  | compound operands => compound (mapColumnsOfAll f operands)
  | query operands => query (mapColumnsOfAll f operands)
  | nameless qualifiers operands => nameless qualifiers (mapColumnsOfAll f operands)

def mapColumnsOfAll (f : List String → String → Expr) : List Expr → List Expr
  | [] => []
  | e :: es => e.mapColumns f :: mapColumnsOfAll f es

end

/-- The expression with its columns turned into mere names, which refer to nothing. -/
def withoutColumns (e : Expr) : Expr := e.mapColumns fun _ _ => compound []

/-- The expression with the columns whose first name is a parameter turned into mere names. -/
def withoutParameters (parameters : List String) (e : Expr) : Expr :=
  e.mapColumns fun qualifiers name =>
    if parameters.contains (qualifiers.headD name) then compound [] else column qualifiers name

/-- The columns an expression refers to, in the order of first sight. -/
def columnReferences (e : Expr) : List String := distinct e.columnNames

/-- The calls an expression makes, in the order of first sight. -/
def functionReferences (e : Expr) : List (List String) := distinct e.callNames

/-- The spellings of the function that answers the length of a text. -/
def lengthFunctions : List String :=
  ["length", "len", "char_length", "character_length", "octet_length"]

/-- The column of a call such as `length(column)`. -/
def lengthColumn? (e : Expr) : Option String :=
  match e.unwrap with
  | call names [argument] => if names.any lengthFunctions.contains then argument.columnName? else none
  | _ => none

/-- A test for null: the column, and whether it must be null or must not be. -/
def nullTest? (e : Expr) : Option (String × Bool) :=
  match e.unwrap with
  | is left (literal .null) => left.columnName?.map fun name => (name, true)
  | not inner =>
    match inner.unwrap with
    | is left (literal .null) => left.columnName?.map fun name => (name, false)
    | _ => none
  | _ => none

end Expr

end SchemaCatalog
