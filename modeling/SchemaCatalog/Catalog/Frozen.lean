import SchemaCatalog.Catalog.Builder

/-!
# The finished catalog

A catalog is what a builder becomes when its entities are sorted: tables by schema and name, those
without a schema first; functions by lower-cased name and input types; triggers and policies by name
and table; roles and schemas by name. Grants keep their order. Lookups are binary searches in the
sorted lists.
-/

namespace SchemaCatalog

structure Catalog extends Contents where
  deriving Repr

/-! ## 1. Sorting -/

/-- What tables are sorted by: whether they have a schema, its name, and their own. -/
abbrev TableSortKey := Bool × String × String

def ObjectName.sortKey (n : ObjectName) : TableSortKey :=
  (n.schema.isSome, n.schema.getD "", n.name)

def tableBefore : TableSortKey → TableSortKey → Bool :=
  pairBefore (fun a b => !a && b) (pairBefore textBefore textBefore)

/-- The order of what a table owns by name, by the name and then the table. -/
def namedBefore : String × TableSortKey → String × TableSortKey → Bool :=
  pairBefore textBefore tableBefore

/-- The order of functions, by lower-cased name and then by input types. -/
def functionBefore : String × List String → String × List String → Bool :=
  pairBefore textBefore textsBefore

def Builder.freeze (b : Builder) : Catalog where
  name := b.name
  timezone := b.timezone
  entries := sortBy (·.key.sortKey) tableBefore b.entries
  functions := sortBy (fun f => (f.lowerName, f.argumentTypes)) functionBefore b.functions
  triggers := sortBy (fun t => (t.name, t.table.sortKey)) namedBefore b.triggers
  policies := sortBy (fun p => (p.name, p.table.sortKey)) namedBefore b.policies
  roles := sortBy (·.name) textBefore b.roles
  grants := b.grants
  schemas := sortBy (·.name) textBefore b.schemas

namespace Catalog

/-! ## 2. Lookups -/

def entry? (c : Catalog) (key : TableKey) : Option TableEntry :=
  sortedFind? (fun e : TableEntry => e.key.sortKey) tableBefore key.sortKey c.entries

/-- The function of a name in any letter case: of several the one with the least input types. -/
def function? (c : Catalog) (name : String) : Option Function :=
  sortedFind? Function.lowerName textBefore (Text.lower name) c.functions

/-- The trigger of a name: of several that of the least table. -/
def trigger? (c : Catalog) (name : String) : Option Trigger :=
  sortedFind? Trigger.name textBefore name c.triggers

/-- The policy of a name: of several that of the least table. -/
def policy? (c : Catalog) (name : String) : Option Policy :=
  sortedFind? Policy.name textBefore name c.policies

def role? (c : Catalog) (name : String) : Option Role :=
  sortedFind? Role.name textBefore name c.roles

def schema? (c : Catalog) (name : String) : Option Schema :=
  sortedFind? Schema.name textBefore name c.schemas

def view (c : Catalog) : CatalogView where
  contents := c.toContents
  entry? := c.entry?
  function? := c.function?
  trigger? := c.trigger?
  policy? := c.policy?
  role? := c.role?
  schema? := c.schema?

end Catalog

end SchemaCatalog
