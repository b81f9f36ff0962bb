import SchemaCatalog.Text.Blank

/-!
# Tokens

A token of an SQL text: its kind, its value (quotes and escapes resolved) and the inclusive span of
its characters in the text. Words keep their spelling; whether a word is a keyword is for the reader
of a statement to say.
-/

namespace SchemaCatalog.Sql

inductive TokenKind where
  /-- A string in single quotes without a mark in front, or the text after a command word. -/
  | literal
  /-- A national or dollar-quoted string. -/
  | verbatim
  /-- A string with code points written out in it. -/
  | unicode
  /-- A string with escapes, or one of binary or hexadecimal digits. -/
  | encoded
  /-- A name in double quotes. -/
  | quoted
  | number
  | symbol
  /-- An unquoted run of other characters. -/
  | word
  /-- Two words that are read as one; their text is in capitals with one blank between them. -/
  | phrase
  deriving DecidableEq, Repr

/-- A token with its inclusive span of character positions. -/
structure Token where
  kind : TokenKind
  text : String
  start : Nat
  stop : Nat
  deriving DecidableEq, Repr

/-- An ASCII letter or an underscore. -/
def startsWord (c : Char) : Bool := c.isAlpha || c == '_'

/-- A character that may stand inside a word: a letter, digit, underscore or dollar sign of ASCII. -/
def continuesWord (c : Char) : Bool := c.isAlphanum || c == '_' || c == '$'

/-- A text has the shape of a keyword or bare name. -/
def wordShaped (s : String) : Bool :=
  match s.toList with
  | [] => false
  | c :: cs => startsWord c && cs.all continuesWord

namespace Token

/-- Any form of string. -/
def isString (t : Token) : Bool :=
  match t.kind with
  | .literal | .verbatim | .unicode | .encoded => true
  | _ => false

/-- An unquoted keyword or bare name. -/
def isWord (t : Token) : Bool := t.kind == .word && wordShaped t.text

/-- A token that can name an object: a bare or a quoted name. -/
def isName (t : Token) : Bool := t.kind == .quoted || t.isWord

def isSymbol (t : Token) (symbol : String) : Bool := t.kind == .symbol && t.text == symbol

/-- The value of the token reads as the given punctuation mark; a quoted name that consists of the
mark reads as it too. -/
def reads (t : Token) (symbol : String) : Bool := !t.isString && t.text == symbol

def isOpen (t : Token) : Bool := t.isSymbol "("

def isClose (t : Token) : Bool := t.isSymbol ")"

def isComma (t : Token) : Bool := t.isSymbol ","

def isSemicolon (t : Token) : Bool := t.isSymbol ";"

/-- The words of a phrase, placed as if one blank parted them; any other token stays as it is. -/
def words (t : Token) : List Token :=
  if t.kind == .phrase then
    let first := String.ofList (t.text.toList.takeWhile (· != ' '))
    let second := String.ofList ((t.text.toList.dropWhile (· != ' ')).drop 1)
    let middle := t.start + first.length
    [⟨.word, first, t.start, middle - 1⟩, ⟨.word, second, middle + 1, middle + second.length⟩]
  else [t]

/-- The change of parenthesis depth over the token. -/
def nesting (t : Token) : Int := if t.isOpen then 1 else if t.isClose then -1 else 0

end Token

/-- The characters from one position up to but not including another. -/
def sliceChars (sql : List Char) (first afterLast : Nat) : List Char :=
  (sql.drop first).take (afterLast - first)

/-- The part of the text that a run of tokens spans, empty for an empty run. -/
def sourceText (sql : List Char) (tokens : List Token) : String :=
  match tokens, tokens.getLast? with
  | t :: _, some last => String.ofList (sliceChars sql t.start (last.stop + 1))
  | _, _ => ""

end SchemaCatalog.Sql
