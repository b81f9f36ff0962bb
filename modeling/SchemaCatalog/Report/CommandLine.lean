/-!
# Command lines

A command line is read in two runs: the options before the command, and those of the command, which
may stand between its arguments. An option is long (`--order name`, `--order=name`) or short
(`-t name`, `-tname`), and every option takes one value but the one that asks for help. Two dashes end
the options.
-/

namespace SchemaCatalog.Report

structure OptionForm where
  long : String
  short : Option Char := none
  deriving DecidableEq, Repr

/-- What a run of reading found: the values of options, last one first, whether help was asked for, and
the arguments, last one first. -/
structure Found where
  values : List (String × String) := []
  help : Bool := false
  arguments : List String := []
  deriving DecidableEq, Repr

/-- The value of an option: of several the last. -/
def Found.value? (f : Found) (long : String) : Option String :=
  (f.values.find? (·.1 == long)).map (·.2)

def helpName : String := "--help"

/-- A reading of one word of a command line: an option with its value, an option whose value is the
next word, the request for help, an argument, or the end of options. -/
inductive Reading where
  | option (long value : String)
  | optionOfNext (long : String)
  | help
  | argument
  | endOfOptions
  | wrong
  deriving DecidableEq, Repr

def splitEquals (word : List Char) : List Char × Option (List Char) :=
  let name := word.takeWhile (· != '=')
  (name, if name.length < word.length then some (word.drop (name.length + 1)) else none)

/-- Reads a word that starts with two dashes. -/
def readLong (forms : List OptionForm) (word : List Char) : Reading :=
  let (name, value) := splitEquals word
  let long := String.ofList name
  if forms.any (·.long == long) then
    match value with
    | some v => .option long (String.ofList v)
    | none => .optionOfNext long
  else if long == helpName && value.isNone then .help
  else .wrong

/-- Reads a word that starts with one dash and a letter. -/
def readShort (forms : List OptionForm) (letter : Char) (rest : List Char) : Reading :=
  match forms.find? (·.short == some letter) with
  | some form => if rest.isEmpty then .optionOfNext form.long else .option form.long (String.ofList rest)
  | none => .wrong

def readWord (forms : List OptionForm) (word : String) : Reading :=
  match word.toList with
  | ['-', '-'] => .endOfOptions
  | '-' :: '-' :: rest => readLong forms ('-' :: '-' :: rest)
  | '-' :: letter :: rest => readShort forms letter rest
  | _ => .argument

/-- Reads words up to the first argument, or all of them if options may stand `between` arguments.
The answer is what was found and the words left, none if the words are wrong. -/
def readWords (forms : List OptionForm) (between : Bool) (found : Found) :
    List String → Option (Found × List String)
  | [] => some (found, [])
  | word :: words =>
    match readWord forms word with
    | .option long value =>
      readWords forms between { found with values := (long, value) :: found.values } words
    | .optionOfNext long =>
      match words with
      | [] => none
      | value :: words =>
        readWords forms between { found with values := (long, value) :: found.values } words
    | .help => readWords forms between { found with help := true } words
    | .argument =>
      if between then
        readWords forms between { found with arguments := word :: found.arguments } words
      else some (found, word :: words)
    | .endOfOptions => some (found, words)
    | .wrong => none

/-! ## The commands -/

inductive Command where
  | summary
  | tables (order : String)
  | checks (table : Option String)
  | triggers
  | roles
  deriving DecidableEq, Repr

structure Invocation where
  command : Command
  paths : List String
  catalogName : Option String := none
  deriving DecidableEq, Repr

inductive Request where
  | run (invocation : Invocation)
  | help
  | misuse
  deriving DecidableEq, Repr

/-- The options before the command. -/
def globalForms : List OptionForm :=
  [⟨"--dialect", some 'd'⟩, ⟨"--catalog-name", none⟩, ⟨"--log-level", none⟩]

/-- The order in which tables are listed unless one is asked for. -/
def defaultOrder : String := "dag"

/-- The commands by name, with the forms of their options and how they are made from them. -/
def commandForms : List (String × List OptionForm × (Found → Command)) :=
  [("summary", [], fun _ => .summary),
    ("tables", [⟨"--order", none⟩], fun f => .tables ((f.value? "--order").getD defaultOrder)),
    ("checks", [⟨"--table", some 't'⟩], fun f => .checks (f.value? "--table")),
    ("triggers", [], fun _ => .triggers),
    ("roles", [], fun _ => .roles)]

def readCommand (globals : Found) (forms : List OptionForm) (make : Found → Command)
    (words : List String) : Request :=
  match readWords forms true {} words with
  | none => .misuse
  | some (found, rest) =>
    let paths := found.arguments.reverse ++ rest
    if found.help then .help
    else if paths.isEmpty then .misuse
    else .run { command := make found, paths, catalogName := globals.value? "--catalog-name" }

def Request.ofWords (words : List String) : Request :=
  match readWords globalForms false {} words with
  | none => .misuse
  | some (globals, rest) =>
    if globals.help then .help
    else
      match rest with
      | [] => .misuse
      | name :: words =>
        match commandForms.find? (·.1 == name) with
        | some (_, forms, make) => readCommand globals forms make words
        | none => .misuse

end SchemaCatalog.Report
