import SchemaCatalog.Report.Emoji
import SchemaCatalog.Report.Style

/-!
# Markup

Text for a terminal may hold tags in brackets, such as `[warn]` and `[/]`, that switch styles and are
not shown. A tag begins with a small letter or one of `#`, `/`, `@` and holds no further opening
bracket. Backslashes before a tag are halved, and the tag is shown if their number is odd. A backslash
before a bracket that begins no tag is not shown either. A tag that begins with `/` closes the style of
its name, or the last one if it has none; where no such style is open, the text cannot be shown.
-/

namespace SchemaCatalog.Report

/-! ## 1. Pieces -/

/-- A piece of a text with markup: characters that are shown, or the inside of a tag. -/
inductive MarkupPiece where
  | characters (cs : List Char)
  | tag (inside : List Char)
  deriving DecidableEq, Repr

def startsTag (c : Char) : Bool := ('a' ≤ c && c ≤ 'z') || c == '#' || c == '/' || c == '@'

/-- The number of characters up to the closing bracket, that one included, if no opening bracket
comes before it. -/
def lengthToClose? : List Char → Option Nat
  | [] => none
  | c :: cs =>
    if c == ']' then some 1
    else if c == '[' then none
    else (lengthToClose? cs).map (· + 1)

/-- The number of characters of the tag whose opening bracket was just passed. -/
def tagLength? : List Char → Option Nat
  | [] => none
  | c :: cs => if startsTag c then (lengthToClose? cs).map (· + 1) else none

def backslashes (n : Nat) : List Char := List.replicate n '\\'

/-- The pieces of characters after the `pending` backslashes and the characters in `run`, last first;
the first `skip` belong to a tag that is read already. -/
def piecesFrom (skip pending : Nat) (run : List Char) : List Char → List MarkupPiece
  | [] => [.characters (run.reverse ++ backslashes pending)]
  | c :: cs =>
    match skip with
    | n + 1 => piecesFrom n 0 [] cs
    | 0 =>
      if c == '\\' then piecesFrom 0 (pending + 1) run cs
      else if c == '[' then
        match tagLength? cs with
        | some n =>
          let tag :=
            if pending % 2 == 1 then .characters (c :: cs.take n)
            else .tag (cs.take (n - 1))
          .characters run.reverse :: .characters (backslashes (pending / 2)) :: tag
            :: piecesFrom n 0 [] cs
        | none => piecesFrom 0 0 (c :: backslashes (pending - 1) ++ run) cs
      else piecesFrom 0 0 (c :: backslashes pending ++ run) cs

/-! ## 2. Tags -/

/-- A tag: its name, and what follows an equality sign if there is one. -/
structure MarkupTag where
  name : String
  parameters : Option String
  deriving DecidableEq, Repr

def MarkupTag.ofInside (inside : List Char) : MarkupTag :=
  let name := inside.takeWhile (· != '=')
  { name := String.ofList name
    parameters :=
      if name.length < inside.length then some (String.ofList (inside.drop (name.length + 1)))
      else none }

/-- A value that may be handed to the action of a tag: a number, a word for a truth value or for
nothing, or a text in quotes. -/
def isActionValue (value : String) : Bool :=
  let quotedBy (mark : Char) : Bool :=
    match value.toList with
    | c :: cs => c == mark && cs.getLast? == some mark && !(cs.dropLast).contains mark
    | [] => false
  ["True", "False", "None"].contains value || quotedBy '\'' || quotedBy '"'
    || (Text.readDecimal? value).isSome

/-- The parameters of a tag for an action can be read: the name of a handler, with values in
parentheses or without, or one value. -/
def readsAsAction (parameters : String) : Bool :=
  let stripped := Text.strip parameters
  let rest := stripped.toList.dropWhile fun c => c.isAlphanum || c == '_' || c == '.'
  match rest with
  | [] => true
  | '(' :: inner =>
    let values := (String.ofList inner.dropLast).splitOn ","
    rest.getLast? == some ')'
      && (Text.strip (String.ofList inner.dropLast) == ""
        || values.all fun value => isActionValue (Text.strip value))
  | _ => isActionValue stripped

def MarkupTag.closes (t : MarkupTag) : Bool :=
  match t.parameters with
  | some parameters => !t.name.startsWith "@" || parameters.isEmpty || readsAsAction parameters
  | none => true

/-- The open tags, last first, after a closing tag; none if it closes none of them. -/
def closeTag? (name : String) (opened : List MarkupTag) : Option (List MarkupTag) :=
  let closed :=
    if name.isEmpty then opened.head?
    else
      let style := normalStyle name
      opened.find? (·.name == style)
  match closed with
  | some t => if t.closes then some (opened.erase t) else none
  | none => none

/-- What is shown of pieces inside the given tags, last first; nothing can be if a closing tag closes
none. -/
def shownPieces? (opened : List MarkupTag) : List MarkupPiece → Option (List Char)
  | [] => some []
  | .characters cs :: pieces => (shownPieces? opened pieces).map (replaceEmoji cs ++ ·)
  | .tag inside :: pieces =>
    let tag := MarkupTag.ofInside inside
    if tag.name.startsWith "/" then
      match closeTag? (Text.strip (String.ofList (tag.name.toList.drop 1))) opened with
      | some opened => shownPieces? opened pieces
      | none => none
    else shownPieces? ({ tag with name := normalStyle tag.name } :: opened) pieces

/-- What is shown of a text with markup, none if its tags do not fit together. -/
def shown? (markup : String) : Option String :=
  (shownPieces? [] (piecesFrom 0 0 [] markup.toList)).map String.ofList

/-! ## 3. Escaping -/

/-- The characters with a backslash more before each tag, and the others before it doubled; `pending`
is the number of backslashes just passed. -/
def escapeFrom (pending : Nat) : List Char → List Char
  | [] => backslashes (if pending == 1 then 2 else pending)
  | c :: cs =>
    if c == '\\' then escapeFrom (pending + 1) cs
    else
      let count :=
        if c == '[' && (tagLength? cs).isSome then 2 * pending + 1 else pending
      backslashes count ++ c :: escapeFrom 0 cs

/-- The markup that shows a text with its brackets. A lone backslash at its end is doubled, lest it
escape what follows. -/
def escape (text : String) : String := String.ofList (escapeFrom 0 text.toList)

end SchemaCatalog.Report
