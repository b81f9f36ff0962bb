import SchemaCatalog.Report.Markup

/-!
# Printed output

What a command prints: lines, tables, and the notice that it is busy. Texts are kept as they are
shown, markup gone.
-/

namespace SchemaCatalog.Report

inductive Printed where
  /-- A notice while work goes on. -/
  | status (text : String)
  | line (text : String)
  | table (title : String) (columns : List String) (rows : List (List String))
  deriving DecidableEq, Repr

/-- Why a command ended before it had printed everything. -/
inductive Fault where
  /-- A check negates a number that is a mere text. -/
  | unreadableNumber
  /-- The tags of a text to be shown do not fit together. -/
  | brokenMarkup
  deriving DecidableEq, Repr

/-- The result of a command: its exit code, what it printed, in order, and why it ended early. -/
structure Result where
  exitCode : Nat := 0
  printed : List Printed := []
  fault : Option Fault := none
  deriving DecidableEq, Repr

/-- A text as it is shown when it is escaped. The tags of an escaped text never misfit. -/
def plain (text : String) : String := (shown? (escape text)).getD text

namespace Printed

def error (message : String) : Printed := .line ("✗ " ++ plain message)

def warning (message : String) : Printed := .line ("⚠ " ++ message)

def hint (message : String) : Printed := .line ("  " ++ plain message)

/-- A heading, whose markup counts. -/
def header? (title : String) : Option Printed := (shown? ("[title]" ++ title ++ "[/]")).map .line

def keyValue (key value : String) : Printed := .line (key ++ ": " ++ plain value)

/-- The lines on which something is printed, the cells of a table parted by bars. -/
def lines : Printed → List String
  | status text => [text]
  | line text => [text]
  | table title columns rows => title :: (columns :: rows).map (" | ".intercalate ·)

end Printed

def Result.failure (code : Nat) (message : String) : Result :=
  { exitCode := code, printed := [.error message] }

def Result.nothing (message : String) : Result := { printed := [.warning message] }

def Result.ofFault (fault : Fault) : Result := { exitCode := 1, fault := some fault }

/-- The result with something printed before it. -/
def Result.after (p : Printed) (r : Result) : Result := { r with printed := p :: r.printed }

end SchemaCatalog.Report
