import SchemaCatalog.Report.CommandLine
import SchemaCatalog.Report.Listing
import SchemaCatalog.Settings
import SchemaCatalog.Source.Load

/-!
# Running a command

A command loads the catalog of the files it is given and prints one view of it. Its exit code is 0,
1 if the catalog cannot be built or shown, and 2 if the command line is wrong.
-/

namespace SchemaCatalog.Report

def orders : List String := [defaultOrder, "name"]

def tablesByName (v : CatalogView) : List Table := sortBy (·.qualifiedName) textBefore v.tables

/-- Prints tables, or that there are none. -/
def listTables (v : CatalogView) (order : String) (tables : List Table) : Result :=
  if tables.isEmpty then .nothing "No tables found."
  else
    match tableListing? v tables order with
    | some listing => { printed := [listing] }
    | none => .ofFault .brokenMarkup

def runTables (v : CatalogView) (order : String) : Result :=
  if order == defaultOrder then
    match v.dependencyOrder with
    | .ok tables => listTables v order tables
    | .error e =>
      { exitCode := 1
        printed := [.error e.message, .hint "Use --order name to list the tables anyway."] }
  else listTables v order (tablesByName v)

/-- Prints checks, or that there are none. One that cannot be classified ends the command. -/
def listChecks (v : CatalogView) (checks : List CheckConstraint) : Result :=
  if checks.isEmpty then .nothing "No check constraints found."
  else if checks.all fun k => k.isReadable (v.metadataOf k.table) then
    { printed := [checkListing v checks] }
  else .ofFault .unreadableNumber

/-- Prints the checks of the tables of a name, or of all tables. -/
def runChecks (v : CatalogView) (table : Option String) : Result :=
  match table.filter fun name => !name.isEmpty with
  | none => listChecks v v.checks
  | some name =>
    let selected := v.tables.filter fun t => t.name == name || t.qualifiedName == name
    if selected.isEmpty then .failure 1 ("Table '" ++ name ++ "' not found.")
    else listChecks v (v.checks.filter fun k => selected.any (·.key == k.table))

def Command.show (v : CatalogView) : Command → Result
  | summary =>
    match summary? v with
    | some printed => { printed }
    | none => .ofFault .brokenMarkup
  | tables order => runTables v order
  | checks table => runChecks v table
  | triggers =>
    match v.contents.triggers with
    | [] => .nothing "No triggers found."
    | ts => { printed := [triggerListing v ts] }
  | roles =>
    match v.contents.roles with
    | [] => .nothing "No roles found."
    | rs => { printed := [roleListing v rs] }

/-- The complaint about a command that cannot be run, whatever the catalog. -/
def Command.refusal? : Command → Option Result
  | tables order =>
    if orders.contains order then none
    else
      some (.failure 2
        ("Invalid --order '" ++ order ++ "'. Use one of: " ++ ", ".intercalate orders ++ "."))
  | _ => none

/-- The name of the catalog: that of the command line, else that of the settings. -/
def Invocation.nameFor (i : Invocation) (settings : Settings) : String :=
  (i.catalogName.filter fun name => !name.isEmpty).getD settings.catalogName

/-- Loads the catalog and prints the view asked for. -/
def Invocation.run (i : Invocation) (settings : Settings) (files : Source.FileTree) : Result :=
  match i.command.refusal? with
  | some refusal => refusal
  | none =>
    let status := .status ("Reading " ++ toString i.paths.length ++ " path(s)...")
    let loaded := Source.loadCatalog files (i.nameFor settings) (i.paths.map .ofString)
    Result.after status <|
      match loaded with
      | .ok catalog => i.command.show catalog.view
      | .error e => .failure 1 e.message

def runWords (settings : Settings) (files : Source.FileTree) (words : List String) : Result :=
  match Request.ofWords words with
  | .run i => i.run settings files
  | .help => {}
  | .misuse => { exitCode := 2 }

end SchemaCatalog.Report
