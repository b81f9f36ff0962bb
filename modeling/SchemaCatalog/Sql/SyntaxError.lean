import SchemaCatalog.Sql.Lexer

/-!
# Syntax errors

Why an SQL text was refused: it cannot be cut into tokens, a statement breaks the grammar at one of
its tokens, or an expression inside it is none.
-/

namespace SchemaCatalog.Sql

/-- What is wrong at a place in a statement. -/
inductive Complaint where
  | expected (what : String)
  | unexpected (what : String)
  deriving DecidableEq, Repr

def Complaint.text : Complaint → String
  | expected what => "expected " ++ what
  | unexpected what => "unexpected " ++ what

/-- The reasons why an SQL text was refused. -/
inductive SyntaxError where
  /-- A statement breaks the grammar, before the token `near` if there is one. -/
  | misplaced (complaint : Complaint) (near : Option String) (statement : String)
  | lexical (error : LexicalError)
  | emptyExpression
  /-- The text is not one expression. -/
  | notExpression (text : String)
  deriving DecidableEq, Repr

def LexicalError.text : LexicalError → String
  | unterminated closing => "missing " ++ closing
  | foreignDigits digits => "invalid digits in '" ++ digits ++ "'"

def SyntaxError.text : SyntaxError → String
  | misplaced complaint near statement =>
    let place :=
      match near with
      | some token => " near `" ++ token ++ "`"
      | none => ""
    complaint.text ++ place ++ " in `" ++ statement ++ "`"
  | lexical error => error.text
  | emptyExpression => "empty expression"
  | notExpression text => "invalid expression `" ++ text ++ "`"

end SchemaCatalog.Sql
