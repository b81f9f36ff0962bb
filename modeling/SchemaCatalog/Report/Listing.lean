import SchemaCatalog.Catalog.DependencyOrder
import SchemaCatalog.Catalog.Frozen
import SchemaCatalog.Check.Classification
import SchemaCatalog.Maintenance
import SchemaCatalog.Report.Output

/-!
# Listings

The tables in which a catalog is shown: its tables, checks, triggers and roles, and the counts of its
summary.
-/

namespace SchemaCatalog.Report

/-! ## 1. Summary -/

def counts (v : CatalogView) : List (String × Nat) :=
  [("tables", v.tables.length),
    ("columns", v.columns.length),
    ("indices", v.indices.length),
    ("unique indices", v.uniqueIndices.length),
    ("foreign keys", v.foreignKeys.length),
    ("check constraints", v.checks.length),
    ("functions", v.declaredFunctions.length),
    ("triggers", v.contents.triggers.length),
    ("policies", v.contents.policies.length),
    ("roles", v.contents.roles.length),
    ("grants", v.contents.grants.length),
    ("schemas", v.contents.schemas.length),
    ("tables with RLS", v.rlsTables.length)]

/-- The time zone, or a dash. -/
def timezoneText (v : CatalogView) : String :=
  match v.contents.timezone with
  | some zone => if zone.isEmpty then "-" else zone
  | none => "-"

/-- The summary of a catalog, if its name can be shown. -/
def summary? (v : CatalogView) : Option (List Printed) :=
  (Printed.header? ("Catalog " ++ v.contents.name)).map fun header =>
    header :: (counts v).map (fun (key, count) => .keyValue key (toString count))
      ++ [.keyValue "timezone" (timezoneText v)]

/-! ## 2. Tables -/

def rowSecurityText (t : Table) : String :=
  if t.rlsForced then if t.rlsEnabled then "forced" else "forced (disabled)"
  else if t.rlsEnabled then "enabled"
  else ""

/-- The row of a table. The markup of its schema counts. -/
def tableRow? (v : CatalogView) (t : Table) : Option (List String) :=
  let m := v.metadataOf t.key
  (shown? (t.schema.getD "")).map fun schema =>
    [schema, plain t.name, toString m.columns.length,
      plain (", ".intercalate (m.primaryKeyColumns.map (·.name))), rowSecurityText t]

/-- The listing of tables in an order of the given name, if their schemas can be shown. -/
def tableListing? (v : CatalogView) (tables : List Table) (order : String) : Option Printed :=
  (tables.mapM (tableRow? v)).map
    (.table ("Tables (" ++ order ++ " order)") ["Schema", "Table", "Columns", "Primary key", "RLS"])

/-! ## 3. Checks -/

def checkRow (v : CatalogView) (k : CheckConstraint) : List String :=
  [plain k.table.qualified, plain (k.name.getD ""), plain k.expression.sql,
    k.label (v.metadataOf k.table)]

def checkListing (v : CatalogView) (checks : List CheckConstraint) : Printed :=
  .table "Check constraints" ["Table", "Name", "Expression", "Classification"]
    (checks.map (checkRow v))

/-! ## 4. Triggers -/

def firingText (t : Trigger) : String :=
  t.timing.keyword ++ " " ++ " OR ".intercalate (t.events.map TriggerEvent.keyword) ++ " FOR EACH "
    ++ t.orientation.keyword

/-- The assignments of a trigger, none unless it is a maintenance trigger. -/
def maintenanceText (v : CatalogView) (t : Trigger) : String :=
  "; ".intercalate
    (((v.maintenance? t).getD []).map fun a => a.column.name ++ " = " ++ a.expression.sql)

def triggerRow (v : CatalogView) (t : Trigger) : List String :=
  [plain t.name, plain t.table.qualified, firingText t, plain (t.functionName.getD ""),
    plain (maintenanceText v t)]

def triggerListing (v : CatalogView) (triggers : List Trigger) : Printed :=
  .table "Triggers" ["Trigger", "Table", "When", "Function", "Maintains"]
    (triggers.map (triggerRow v))

/-! ## 5. Roles -/

def roleFlags (r : Role) : List String :=
  let o := r.options
  let flags :=
    [(o.superuser, "SUPERUSER"), (o.createDb, "CREATEDB"), (o.createRole, "CREATEROLE"),
      (o.login, "LOGIN"), (o.bypassRls, "BYPASSRLS"), (o.replication, "REPLICATION"),
      (!o.inherit, "NOINHERIT")]
  (flags.filter (·.1)).map (·.2)
    ++ match o.connectionLimit with
      | some limit => ["CONNECTION LIMIT " ++ toString limit]
      | none => []

def roleRow (v : CatalogView) (r : Role) : List String :=
  [plain r.name, " ".intercalate (roleFlags r),
    plain (", ".intercalate ((v.rolesNamed r.memberships).map (·.name))),
    plain ("\n".intercalate ((v.grantsTo r).map Grant.describe))]

def roleListing (v : CatalogView) (roles : List Role) : Printed :=
  .table "Roles" ["Role", "Flags", "Member of", "Grants"] (roles.map (roleRow v))

end SchemaCatalog.Report
