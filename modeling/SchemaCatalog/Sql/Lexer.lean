import SchemaCatalog.Text.Digit
import SchemaCatalog.Text.LetterCase
import SchemaCatalog.Sql.Token

/-!
# From text to tokens

`lex` cuts an SQL text into tokens. One `step` at a time reads a run of blanks, a comment or a token
from the front of the text; blanks and comments leave no token. Two-word phrases such as `PRIMARY KEY`
are one token, which `tokenize` splits into its words; the text after a command word such as `CALL` at
the start of a statement becomes one string.
-/

namespace SchemaCatalog.Sql

/-- The reasons why a text cannot be cut into tokens. -/
inductive LexicalError where
  /-- A string, quoted name or comment has no end; its closing mark is given. -/
  | unterminated (closing : String)
  /-- A binary or hexadecimal string holds something else than digits of its base. -/
  | foreignDigits (text : String)
  deriving DecidableEq, Repr

/-! ## 1. The vocabulary -/

/-- The characters that are tokens of their own and end a word, quotes included. -/
def singleCharacters : List Char :=
  ['(', ')', '[', ']', '{', '}', '&', '^', ':', ',', '.', '-', '=', '>', '<', '%', '!', '|', '+',
    ';', '/', '\\', '*', '~', '?', '@', '#', '$', '\'', '"', '\x60']

def isSingle (c : Char) : Bool := singleCharacters.contains c

/-- The operators of several characters, the longer ones first. -/
def operators : List String :=
  ["<<->>", "?::", "<=>", "->>", "#>>", "<->", "~~~", "~~*", "-|-", "||/", "\x7b%+", "\x7b%-",
    "-%\x7d", "+%\x7d", "\x7b\x7b+", "\x7b\x7b-", "+\x7d\x7d", "-\x7d\x7d", "==", "::", "||", "|>",
    ">=", "<=", "<>", "!=", ":=", "->", "=>", "#>", "&&", "??", "~~", "~*", "&<", "&>", "@@", "@?",
    "@>", "<@", "?&", "?|", "#-", "|/", "\x7b%", "%\x7d"]

/-- The pairs of words that form one token. -/
def phrases : List (String × String) :=
  [("CHARACTER", "SET"), ("CLUSTER", "BY"), ("CONNECT", "BY"), ("DISTRIBUTE", "BY"),
    ("FOREIGN", "KEY"), ("GROUP", "BY"), ("GROUPING", "SETS"), ("ORDER", "BY"), ("PARTITION", "BY"),
    ("PARTITIONED", "BY"), ("PRIMARY", "KEY"), ("SIMILAR", "TO"), ("SORT", "BY"),
    ("SQL", "SECURITY"), ("START", "WITH"), ("DOUBLE", "PRECISION"), ("CHAR", "VARYING"),
    ("CHARACTER", "VARYING"), ("FOR", "VERSION"), ("FOR", "TIMESTAMP")]

/-- The words after which the rest of a statement is taken as text. -/
def commandWords : List String :=
  ["CALL", "EXPLAIN", "OPTIMIZE", "PREPARE", "VACUUM", "DECLARE", "DO", "EXEC", "REFRESH",
    "REINDEX", "RESET", "SHOW", "EXECUTE", "FETCH", "RENAME"]

/-! ## 2. Pieces of a text -/

inductive Piece where
  /-- Blanks or a comment. -/
  | nothing
  | token (kind : TokenKind) (text : String)
  deriving DecidableEq, Repr

/-- One step: the piece, how far from the start of the step its token begins, and the number of
characters read, at least one. -/
structure Step where
  piece : Piece
  length : Nat
  offset : Nat := 0
  deriving DecidableEq, Repr

def afterPrefix? : List Char → List Char → Option (List Char)
  | [], cs => some cs
  | _ :: _, [] => none
  | p :: ps, c :: cs => if p == c then afterPrefix? ps cs else none

/-- The text after a given word in any letter case, if it begins so. -/
def afterWord? : List Char → List Char → Option (List Char)
  | [], cs => some cs
  | _ :: _, [] => none
  | p :: ps, c :: cs => if Text.upperChar c == [p] then afterWord? ps cs else none

/-- The characters up to the first occurrence of a delimiter, and their number with the delimiter
counted in. -/
def extractRaw (delimiter : List Char) (read : List Char) (count : Nat) :
    List Char → Option (List Char × Nat)
  | [] => none
  | c :: cs =>
    match afterPrefix? delimiter (c :: cs) with
    | some _ => some (read.reverse, count + delimiter.length)
    | none => extractRaw delimiter (c :: read) (count + 1) cs

/-- The characters up to a quotation mark, a doubled mark standing for itself, and their number with
the closing mark counted in. -/
def extractQuoted (mark : Char) (read : List Char) (count : Nat) :
    List Char → Option (List Char × Nat)
  | [] => none
  | [c] => if c == mark then some (read.reverse, count + 1) else none
  | c :: d :: cs =>
    if c == mark then
      if d == mark then extractQuoted mark (mark :: read) (count + 2) cs
      else some (read.reverse, count + 1)
    else extractQuoted mark (c :: read) (count + 1) (d :: cs)

/-- The character that a backslash and the given character stand for in an escaped string. -/
def unescape? (c : Char) : Option Char :=
  match c with
  | 'a' => some '\x07'
  | 'b' => some '\x08'
  | 'f' => some '\x0c'
  | 'n' => some '\n'
  | 'r' => some '\r'
  | 't' => some '\t'
  | 'v' => some '\x0b'
  | '\\' => some '\\'
  | '\'' => some '\''
  | _ => none

def extractEscaped (read : List Char) (count : Nat) : List Char → Option (List Char × Nat)
  | [] => none
  | [c] => if c == '\'' then some (read.reverse, count + 1) else none
  | c :: d :: cs =>
    if c == '\\' then
      match unescape? d with
      | some e => extractEscaped (e :: read) (count + 2) cs
      | none => extractEscaped (c :: read) (count + 1) (d :: cs)
    else if c == '\'' then
      if d == '\'' then extractEscaped ('\'' :: read) (count + 2) cs
      else some (read.reverse, count + 1)
    else extractEscaped (c :: read) (count + 1) (d :: cs)

/-- The step for a string whose body was extracted after `opening` characters of opening mark. -/
def stringStep (kind : TokenKind) (opening : Nat) (closing : String) :
    Option (List Char × Nat) → Except LexicalError Step
  | some (text, count) => .ok ⟨.token kind (String.ofList text), opening + count, 0⟩
  | none => .error (.unterminated closing)

/-- The step for a string of digits of the given base; it may be empty. -/
def digitsStep (base : Nat) : Option (List Char × Nat) → Except LexicalError Step
  | some (text, count) =>
    if text.isEmpty || (Text.readInt? base text).isSome then
      .ok ⟨.token .encoded (String.ofList text), 2 + count, 0⟩
    else .error (.foreignDigits (String.ofList text))
  | none => .error (.unterminated "'")

/-- The number of characters of a number after its first digit. Only the digits of ASCII count. A point
is taken once, and not after a parameter mark; an exponent mark is taken once, and a sign after it if a
digit follows. -/
def numberLength (afterParameter point mark sign : Bool) : List Char → Nat
  | [] => 0
  | c :: cs =>
    if c.isDigit then 1 + numberLength afterParameter point mark sign cs
    else if c == '.' && !point then
      if afterParameter then 0 else 1 + numberLength afterParameter true mark sign cs
    else if (c == '-' || c == '+') && mark && !sign then
      match cs with
      | d :: _ => if d.isDigit then 1 + numberLength afterParameter point mark true cs else 0
      | [] => 0
    else if (c == 'e' || c == 'E') && !mark then 1 + numberLength afterParameter point true sign cs
    else 0

def inMarkedNumber (c : Char) : Bool := !Text.isBlank c && !isSingle c

/-- The step for a number that starts with `0b` or `0x`: the digits as a string, or, if they are not
of the base, the whole as a name. -/
def markedNumberStep (base : Nat) (cs : List Char) : Step :=
  let value := cs.takeWhile inMarkedNumber
  let piece :=
    if (Text.readInt? base value).isSome then .token .encoded (String.ofList (value.drop 2))
    else .token .quoted (String.ofList value)
  ⟨piece, value.length, 0⟩

def numberStep (afterParameter : Bool) (cs : List Char) : Step :=
  match cs with
  | '0' :: m :: _ =>
    if m == 'b' || m == 'B' then markedNumberStep 2 cs
    else if m == 'x' || m == 'X' then markedNumberStep 16 cs
    else decimal
  | _ => decimal
where
  /-- The step for a number without a base mark. -/
  decimal : Step :=
    let n := 1 + numberLength afterParameter false false false (cs.drop 1)
    ⟨.token .number (String.ofList (cs.take n)), n, 0⟩

/-- The length of a comment after its opening mark, the closing mark included. Comments nest. After a
closing mark that ends an inner comment only its first character is passed before a new opening mark
is looked for. -/
def commentLength (opening closing : List Char) (depth count : Nat) : List Char → Option Nat
  | [] => none
  | c :: rest =>
    match afterPrefix? closing (c :: rest) with
    | some _ =>
      if depth ≤ 1 then some (count + closing.length)
      else past opening closing (depth - 1) (count + 1) rest
    | none => past opening closing depth (count + 1) rest
termination_by cs => (cs.length, 0)
where
  /-- Goes on after one character, into an inner comment if one opens here. -/
  past (opening closing : List Char) (depth count : Nat) (cs : List Char) : Option Nat :=
    match afterPrefix? opening cs with
    | some inner =>
      if _h : inner.length < cs.length then
        commentLength opening closing (depth + 1) (count + opening.length) inner
      else none
    | none => commentLength opening closing depth count cs
  termination_by (cs.length, 1)

def commentStep (opening closing : String) (body : List Char) : Except LexicalError Step :=
  match commentLength opening.toList closing.toList 1 0 body with
  | some n => .ok ⟨.nothing, opening.length + n, 0⟩
  | none => .error (.unterminated closing)

/-- The characters up to the next dollar sign, none if there is no such sign. Two quotation marks in a
row are passed as one, and may not end the text. -/
def extractTag (read : List Char) : List Char → Except LexicalError (Option (List Char))
  | [] => .ok none
  | '\'' :: '\'' :: cs =>
    if cs.isEmpty then .error (.unterminated "$") else extractTag ('\'' :: '\'' :: read) cs
  | c :: cs => if c == '$' then .ok (some read.reverse) else extractTag (c :: read) cs

/-- The step for a dollar sign followed by `cs`: a dollar-quoted string, or a parameter mark when
what follows is no tag. A tag holds no blank and not only digits. -/
def dollarStep (cs : List Char) : Except LexicalError Step :=
  match cs with
  | [] => .error (.unterminated "$")
  | '$' :: body => stringStep .verbatim 2 "$$" (extractRaw ['$', '$'] [] 0 body)
  | first :: _ =>
    match extractTag [] cs with
    | .error e => .error e
    | .ok none => .ok ⟨.token .symbol "$", 1, 0⟩
    | .ok (some tag) =>
      match cs.drop (tag.length + 1) with
      | [] => .ok ⟨.token .symbol (String.ofList ['$', first]), 2, 0⟩
      | body =>
        if tag.all Text.isDigit || tag.any Text.isBlank then .ok ⟨.token .symbol "$", 1, 0⟩
        else
          let closing := '$' :: tag ++ ['$']
          stringStep .verbatim closing.length (String.ofList closing) (extractRaw closing [] 0 body)

/-- A word ends before a blank or a single character; a dollar sign may stand inside. -/
def inWord (c : Char) : Bool := !Text.isBlank c && (c == '$' || !isSingle c)

/-- The length of a phrase at the start of a text, if it stands there: its words in any letter case,
any blanks between them, and a blank, a single character or the end after them. -/
def phraseLength? (first second : String) (cs : List Char) : Option Nat :=
  match afterWord? first.toList cs with
  | none => none
  | some gap =>
    let rest := Text.dropBlanks gap
    if rest.length == gap.length then none
    else
      match afterWord? second.toList rest with
      | none => none
      | some tail =>
        let ends :=
          match tail with
          | [] => true
          | c :: _ => Text.isBlank c || isSingle c
        if ends then some (cs.length - tail.length) else none

def findPhrase? (cs : List Char) : Option (String × Nat) :=
  phrases.findSome? fun (first, second) =>
    (phraseLength? first second cs).map fun n => (first ++ " " ++ second, n)

def findOperator? (cs : List Char) : Option String :=
  operators.find? fun op => (afterPrefix? op.toList cs).isSome

def plainStep (c : Char) (cs : List Char) : Step :=
  match findOperator? (c :: cs) with
  | some op => ⟨.token .symbol op, op.length, 0⟩
  | none =>
    if isSingle c then ⟨.token .symbol (String.singleton c), 1, 0⟩
    else
      match findPhrase? (c :: cs) with
      | some (text, n) => ⟨.token .phrase text, n, 0⟩
      | none =>
        let tail := cs.takeWhile inWord
        ⟨.token .word (String.ofList (c :: tail)), 1 + tail.length, 0⟩

def isLineEnd (c : Char) : Bool := c == '\n' || c == '\r'

/-- The first piece of the text `c :: cs`. -/
def step (afterParameter : Bool) (c : Char) (cs : List Char) : Except LexicalError Step :=
  if c == ' ' || c == '\t' then
    let n := 1 + (cs.takeWhile fun d => d == ' ' || d == '\t').length
    .ok ⟨.nothing, n, n⟩
  else if Text.isBlank c then .ok ⟨.nothing, 1, 0⟩
  else if c.isDigit then .ok (numberStep afterParameter (c :: cs))
  else
    match c, cs with
    | '"', body => stringStep .quoted 1 "\"" (extractQuoted '"' [] 0 body)
    | '\'', body => stringStep .literal 1 "'" (extractQuoted '\'' [] 0 body)
    | '$', body => dollarStep body
    | '-', '-' :: body =>
      .ok ⟨.nothing, 2 + (body.takeWhile fun d => !isLineEnd d).length, 0⟩
    | '/', '*' :: body => commentStep "/*" "*/" body
    | '\x7b', '#' :: body => commentStep "\x7b#" "#\x7d" body
    | 'U', '&' :: '\'' :: body => stringStep .unicode 3 "'" (extractQuoted '\'' [] 0 body)
    | 'u', '&' :: '\'' :: body => stringStep .unicode 3 "'" (extractQuoted '\'' [] 0 body)
    | m, '\'' :: body =>
      if m == 'E' || m == 'e' then stringStep .encoded 2 "'" (extractEscaped [] 0 body)
      else if m == 'N' || m == 'n' then stringStep .verbatim 2 "'" (extractQuoted '\'' [] 0 body)
      else if m == 'B' || m == 'b' then digitsStep 2 (extractQuoted '\'' [] 0 body)
      else if m == 'X' || m == 'x' then digitsStep 16 (extractQuoted '\'' [] 0 body)
      else .ok (plainStep c cs)
    | _, _ => .ok (plainStep c cs)

/-! ## 3. The whole text -/

/-- The last token read marks a parameter. -/
def followsParameter : List Token → Bool
  | t :: _ => t.kind == .symbol && (t.text.startsWith "$" || t.text == "@")
  | [] => false

/-- The last token read (the list has it first) is a command word at the start of a statement: the
first of the text, or after a semicolon or `BEGIN`. -/
def opensCommand : List Token → Bool
  | t :: before =>
    t.kind == .word && commandWords.contains (Text.upper t.text) &&
      (match before with
      | [] => true
      | p :: earlier =>
        p.isSemicolon
          || (p.kind == .word && Text.upper p.text == "BEGIN" && !followsParameter earlier))
  | [] => false

/-- A piece marks a parameter; blanks leave the mark before them in force. -/
def Piece.marksParameter (before : Bool) : Piece → Bool
  | .nothing => before
  | .token kind text => kind == .symbol && (text.startsWith "$" || text == "@")

/-- The extent of the text after a command word: the position after it, and the position where its
last piece starts. It ends before a semicolon outside pieces, or with the text. -/
def commandExtent (pos last : Nat) (afterParameter : Bool) :
    List Char → Except LexicalError (Nat × Nat)
  | [] => .ok (pos, last)
  | c :: cs =>
    match step afterParameter c cs with
    | .error e => .error e
    | .ok s =>
      let rest := cs.drop (s.length - 1)
      let here := pos + s.length
      if rest.head? == some ';' then .ok (here, pos + s.offset)
      else commandExtent here (pos + s.offset) (s.piece.marksParameter afterParameter) rest
termination_by cs => cs.length
decreasing_by simp only [List.length_drop, List.length_cons]; omega

/-- The tokens of the text from position `pos` on, after those in `read` (last first). -/
def lexFrom (pos : Nat) (read : List Token) : List Char → Except LexicalError (List Token)
  | [] => .ok read.reverse
  | c :: cs =>
    match step (followsParameter read) c cs with
    | .error e => .error e
    | .ok s =>
      let rest := cs.drop (s.length - 1)
      let here := pos + s.length
      match s.piece with
      | .nothing => lexFrom here read rest
      | .token kind text =>
        let read := ⟨kind, text, pos, here - 1⟩ :: read
        if opensCommand read && rest.head? != some ';' then
          match commandExtent here here false rest with
          | .error e => .error e
          | .ok (after, last) =>
            let text := Text.stripChars (rest.take (after - here))
            let read :=
              if text.isEmpty then read
              else ⟨.literal, String.ofList text, last, after - 1⟩ :: read
            lexFrom after read (rest.drop (after - here))
        else lexFrom here read rest
termination_by cs => cs.length
decreasing_by all_goals simp only [List.length_drop, List.length_cons]; omega

/-- The tokens of an SQL text, a phrase as one. -/
def lex (sql : List Char) : Except LexicalError (List Token) := lexFrom 0 [] sql

/-- The tokens of an SQL text, a phrase as its words. -/
def tokenize (sql : List Char) : Except LexicalError (List Token) :=
  (lex sql).map fun tokens => tokens.flatMap Token.words

end SchemaCatalog.Sql
