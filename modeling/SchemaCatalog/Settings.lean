import SchemaCatalog.Text.Blank
import SchemaCatalog.Text.LetterCase

/-!
# Settings

The settings that the environment gives. What is unset or blank has a default, and so has a log level
of an unknown name.
-/

namespace SchemaCatalog

structure Settings where
  dialect : String := "postgres"
  catalogName : String := "catalog"
  logLevel : String := "WARNING"
  deriving DecidableEq, Repr

def logLevels : List String :=
  ["CRITICAL", "FATAL", "ERROR", "WARN", "WARNING", "INFO", "DEBUG", "NOTSET"]

/-- The log level that a text names in any letter case, or the default. -/
def readLogLevel (raw : Option String) : String :=
  let level := Text.upper (Text.strip (raw.getD ""))
  if logLevels.contains level then level else ({} : Settings).logLevel

/-- A value without blanks around it, none if nothing is left. -/
def settingValue? (raw : Option String) : Option String :=
  (raw.map Text.strip).filter fun s => !s.isEmpty

/-- The settings of an environment, which answers the values of its variables. -/
def Settings.ofEnvironment (valueOf : String → Option String) : Settings :=
  let setting? := fun name => settingValue? (valueOf name)
  let defaults : Settings := {}
  { dialect := (setting? "DIALECT").getD defaults.dialect
    catalogName := (setting? "CATALOG_NAME").getD defaults.catalogName
    logLevel := readLogLevel (setting? "LOG_LEVEL") }

end SchemaCatalog
