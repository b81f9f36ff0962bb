import SchemaCatalog.Text.Digit
import SchemaCatalog.Text.LetterCase
import SchemaCatalog.Text.WordCharacter

/-!
# Data types

A data type is kept as it was written. This module gives its canonical spelling, which forgets
length modifiers, letter case and spelling variants of the known types, and the questions a catalog
asks about it: is it generated by a sequence, is it a text, is it spelled in several words.
-/

namespace SchemaCatalog.DataType

open Text

/-- The canonical spelling of the known types, by their lower-case spelling. -/
def canonicalSpellings : List (String × String) :=
  [("int2", "SMALLINT"), ("smallint", "SMALLINT"), ("smallserial", "SMALLINT"),
    ("serial2", "SMALLINT"), ("int4", "INT"), ("int", "INT"), ("integer", "INT"), ("serial", "INT"),
    ("serial4", "INT"), ("int8", "BIGINT"), ("bigint", "BIGINT"), ("bigserial", "BIGINT"),
    ("serial8", "BIGINT"), ("float4", "real"), ("real", "real"), ("float8", "double precision"),
    ("double precision", "double precision"), ("numeric", "numeric"), ("decimal", "numeric"),
    ("bool", "boolean"), ("boolean", "boolean"), ("varchar", "VARCHAR"),
    ("character varying", "VARCHAR"), ("char", "CHAR"), ("character", "CHAR"), ("text", "TEXT"),
    ("date", "date"), ("uuid", "UUID"), ("timestamp", "timestamp without time zone"),
    ("timestamp without time zone", "timestamp without time zone"),
    ("timestamptz", "timestamp with time zone"),
    ("timestamp with time zone", "timestamp with time zone"), ("time", "time without time zone"),
    ("time without time zone", "time without time zone"), ("timetz", "time with time zone"),
    ("time with time zone", "time with time zone"), ("bytea", "bytea")]

def canonical? (key : String) : Option String :=
  (canonicalSpellings.find? (·.1 == key)).map (·.2)

/-- The types whose values come from an implicit sequence. -/
def generatedTypes : List String :=
  ["serial", "serial2", "serial4", "serial8", "smallserial", "bigserial"]

/-- The character types, canonically spelled where a spelling is filed. -/
def textualTypes : List String := ["TEXT", "VARCHAR", "CHAR", "citext", "name", "bpchar"]

/-- A character list with its ending `[]` marks taken off, and their number; `cs` is the list
reversed. -/
def dropBrackets (count : Nat) : List Char → List Char × Nat
  | ']' :: '[' :: cs => dropBrackets (count + 1) (dropBlanks cs)
  | cs => (cs, count)
termination_by cs => cs.length
decreasing_by
  have := length_dropBlanks_le cs
  simp only [List.length_cons]
  omega

/-- What follows a group in parentheses, if one opens here and is closed. -/
def afterModifier? : List Char → Option (List Char)
  | '(' :: cs =>
    match cs.dropWhile (· != ')') with
    | _ :: rest => some rest
    | [] => none
  | _ => none

/-- A character list without the groups in parentheses and the blanks in front of them. -/
def dropModifiers : List Char → List Char
  | [] => []
  | c :: cs =>
    match afterModifier? (dropBlanks (c :: cs)) with
    | some rest => if rest.length ≤ cs.length then dropModifiers rest else c :: dropModifiers cs
    | none => c :: dropModifiers cs
termination_by cs => cs.length
decreasing_by all_goals simp only [List.length_cons]; omega

def arrayWord : String := " ARRAY"

/-- The base name of a type without modifiers, and its number of array marks. -/
def base (typeName : String) : String × Nat :=
  let (reversed, marks) := dropBrackets 0 (foldBlanks typeName).toList.reverse
  let text := reversed.reverse
  let (text, marks) :=
    if (upper (String.ofList text)).endsWith arrayWord then
      (text.take (text.length - arrayWord.length), marks + 1)
    else (text, marks)
  (String.ofList (stripChars (dropModifiers text)), marks)

/-- The schema of the built-in types, with the point after it. -/
def builtinSchema : String := "pg_catalog."

/-- The lower-case base name of a type without quotes. -/
def baseKey (name : String) : String := stripChar '"' (lower name)

def dropBuiltinSchema (key : String) : String :=
  if key.startsWith builtinSchema then String.ofList (key.toList.drop builtinSchema.length) else key

/-- The canonical spelling of a type, with its array marks; a type that is not known keeps its
spelling. -/
def normalize (typeName : String) : String :=
  let (name, marks) := base typeName
  match canonical? (dropBuiltinSchema (baseKey name)) with
  | some spelling => spelling ++ String.join (List.replicate marks "[]")
  | none => strip typeName

def isGenerated (typeName : String) : Bool :=
  let (name, marks) := base typeName
  marks == 0 && generatedTypes.contains (baseKey name)

/-- The type is a character type, and no array of one. -/
def isTextual (typeName : String) : Bool :=
  let (name, marks) := base typeName
  let key := baseKey name
  marks == 0 && textualTypes.contains ((canonical? key).getD key)

/-! ## Types of several words -/

/-- The letters beyond ASCII that are a letter of ASCII in another case, besides those that
`lowerChar` maps to it: the dotted and the dotless `i`, and the long `s`. -/
def caseVariants : List (Char × Char) :=
  [(Char.ofNat 0x130, 'i'), (Char.ofNat 0x131, 'i'), (Char.ofNat 0x17f, 's')]

/-- A character is the given small letter in some letter case. -/
def isLetter (letter c : Char) : Bool :=
  lowerChar c == [letter] || caseVariants.contains (c, letter)

/-- What follows a word in any letter case. -/
def afterWord? (word : String) (cs : List Char) : Option (List Char) := go word.toList cs
where
  /-- The comparison, letter by letter. -/
  go : List Char → List Char → Option (List Char)
    | [], cs => some cs
    | _ :: _, [] => none
    | w :: ws, c :: cs => if isLetter w c then go ws cs else none

/-- What follows a run of at least one blank. -/
def afterGap? (cs : List Char) : Option (List Char) :=
  match cs with
  | c :: rest => if isBlank c then some (dropBlanks rest) else none
  | [] => none

def afterWords? (first second : String) (cs : List Char) : Option (List Char) :=
  ((afterWord? first cs).bind afterGap?).bind (afterWord? second)

/-- What follows a precision in parentheses, or everything if there is none. -/
def afterPrecision (cs : List Char) : List Char :=
  match dropBlanks cs with
  | '(' :: inner =>
    let digits := dropBlanks inner
    let rest := digits.dropWhile fun c => (decimalValue? c).isSome
    if rest.length == digits.length then cs
    else
      match dropBlanks rest with
      | ')' :: after => after
      | _ => cs
  | _ => cs

def afterZone? (cs : List Char) : Option (List Char) :=
  (afterGap? cs).bind fun rest =>
    let zone := fun r => ((afterGap? r).bind (afterWords? "time" "zone"))
    match (afterWord? "without" rest).bind zone with
    | some r => some r
    | none => (afterWord? "with" rest).bind zone

def atWordEnd : List Char → Bool
  | [] => true
  | c :: _ => !isWordCharacter c

/-- The spellings of several words, each as what follows it. -/
def multiwordForms : List (List Char → Option (List Char)) :=
  [afterWords? "double" "precision", afterWords? "character" "varying",
    afterWords? "char" "varying", afterWords? "bit" "varying", afterWords? "national" "character",
    afterWords? "national" "char",
    fun cs => (afterWord? "timestamp" cs).bind fun r => afterZone? (afterPrecision r),
    fun cs => (afterWord? "time" cs).bind fun r => afterZone? (afterPrecision r)]

/-- The text begins with a type spelled in several words. -/
def isMultiword (text : String) : Bool :=
  let cs := stripChars text.toList
  multiwordForms.any fun form =>
    match form cs with
    | some rest => atWordEnd rest
    | none => false

end SchemaCatalog.DataType
