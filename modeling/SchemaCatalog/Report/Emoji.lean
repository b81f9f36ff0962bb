import SchemaCatalog.Report.EmojiName
import SchemaCatalog.Text.Blank
import SchemaCatalog.Text.LetterCase

/-!
# Emoji in texts

A name between two colons, such as `:key:`, shows as the emoji of that name. The name may end in `-text`
or `-emoji`, which asks for the one or the other way to draw it. Between colons that hold no known
name everything is shown as it stands.
-/

namespace SchemaCatalog.Report

/-- The endings of a name that choose how it is drawn, each with the character that says so. -/
def variantMarks : List (String × Char) :=
  [("-emoji", Char.ofNat 0xfe0f), ("-text", Char.ofNat 0xfe0e)]

/-- A name without the ending that chooses how it is drawn, and the character for that ending. -/
def splitVariant (name : String) : String × List Char :=
  match variantMarks.find? fun mark => name.endsWith mark.1 with
  | some (ending, mark) => (String.ofList (name.toList.take (name.length - ending.length)), [mark])
  | none => (name, [])

/-- What is shown for a name between colons, if it is known. -/
def shownEmoji? (name : List Char) : Option (List Char) :=
  let (base, mark) := splitVariant (String.ofList name)
  (emoji? (Text.lower base)).map (·.toList ++ mark)

/-- The name between a colon just passed and the next one, if there is no blank before that. -/
def nameToColon? : List Char → Option (List Char)
  | [] => none
  | c :: cs =>
    if c == ':' then some []
    else if Text.isBlank c then none
    else (nameToColon? cs).map (c :: ·)

/-- The characters with the emoji shown for their names; the first `skip` belong to a name that is
shown already. -/
def replaceEmojiFrom (skip : Nat) : List Char → List Char
  | [] => []
  | c :: cs =>
    match skip with
    | n + 1 => replaceEmojiFrom n cs
    | 0 =>
      match if c == ':' then nameToColon? cs else none with
      | some name =>
        (shownEmoji? name).getD (':' :: name ++ [':']) ++ replaceEmojiFrom (name.length + 1) cs
      | none => c :: replaceEmojiFrom 0 cs

def replaceEmoji (cs : List Char) : List Char := replaceEmojiFrom 0 cs

end SchemaCatalog.Report
