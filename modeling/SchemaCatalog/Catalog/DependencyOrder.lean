import SchemaCatalog.Catalog.Contents

/-!
# The dependency order of tables

Tables are ordered so that each comes after those it references by a foreign key. The order is found
by taking tables that wait for no other one, in a queue: first those that reference nothing, in the
order of the catalog, then each as soon as the last table it waits for was taken. References of a
table to itself do not count.
-/

namespace SchemaCatalog

/-- A reference between tables by their positions: the one referenced and the one that holds it. -/
structure Dependency where
  source : Nat
  target : Nat
  deriving DecidableEq, Repr

namespace Dependency

/-- The order of references, by the referenced table and then by the referencing one. -/
def before (a b : Dependency) : Bool :=
  decide (a.source < b.source) || (a.source == b.source && decide (a.target < b.target))

/-- The position of the last table filed under a key. -/
def position? (keys : List TableKey) (key : TableKey) : Option Nat :=
  ((keys.zipIdx.filter (·.1 == key)).getLast?).map (·.2)

def ofTable (keys : List TableKey) (view : CatalogView) (host : Nat) (t : Table) :
    Except CatalogError (List Dependency) :=
  (view.outgoingKeys t).mapM fun k =>
    match position? keys k.referenced with
    | some source => .ok ⟨source, host⟩
    | none => .error (.danglingReference t.qualifiedName k.referenced.qualified)

/-- The references between the tables of a catalog, each once, in order. -/
def all (view : CatalogView) : Except CatalogError (List Dependency) := do
  let tables := view.tables
  let keys := tables.map (·.key)
  let perTable ← tables.zipIdx.mapM fun (t, host) => ofTable keys view host t
  pure ((distinct perTable.flatten).mergeSort fun a b => !b.before a)

def inDegree (edges : List Dependency) (position : Nat) : Nat := edges.countP (·.target == position)

def successors (edges : List Dependency) (position : Nat) : List Nat :=
  (edges.filter (·.source == position)).map (·.target)

/-- The state of the ordering: how many references each table still waits for, the tables that may be
taken, and those taken, last first. -/
structure Progress where
  waiting : List Nat
  queue : List Nat
  taken : List Nat := []
  deriving Repr

/-- A table waits for one reference less; it may be taken when it waits for none. -/
def Progress.release (p : Progress) (position : Nat) : Progress :=
  let left := p.waiting.getD position 0 - 1
  { p with
    waiting := p.waiting.set position left
    queue := if left == 0 then p.queue ++ [position] else p.queue }

/-- Takes tables from the queue, at most so many. -/
def run (edges : List Dependency) : Nat → Progress → Progress
  | 0, p => p
  | n + 1, p =>
    match p.queue with
    | [] => p
    | current :: queue =>
      let taken := { p with queue, taken := current :: p.taken }
      run edges n ((successors edges current).foldl Progress.release taken)

def start (edges : List Dependency) (count : Nat) : Progress :=
  let waiting := (List.range count).map (inDegree edges)
  { waiting, queue := (List.range count).filter fun i => waiting.getD i 0 == 0 }

end Dependency

/-- The tables of a catalog, each after those it references. -/
def CatalogView.dependencyOrder (view : CatalogView) : Except CatalogError (List Table) := do
  let edges ← Dependency.all view
  let tables := view.tables
  let final := Dependency.run edges tables.length (Dependency.start edges tables.length)
  if final.taken.length == tables.length then
    pure (final.taken.reverse.filterMap fun i => tables[i]?)
  else
    let stuck := tables.zipIdx.filter fun (_, i) => final.waiting.getD i 0 != 0
    throw (.referenceCycle (stuck.map fun (t, _) => t.qualifiedName))

end SchemaCatalog
