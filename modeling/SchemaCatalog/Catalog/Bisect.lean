/-!
# Binary search in sorted lists

A sorted list is searched by halving: the least position whose key is not before the one looked for.
The element there is the answer if it has that key; of several it is the first.
-/

namespace SchemaCatalog

/-- The least position from `lo` up to `hi` at which `isBefore` fails, provided that it holds on an
initial part and fails after it. -/
def bisect (isBefore : Nat → Bool) (lo hi : Nat) : Nat :=
  if lo < hi then
    let mid := (lo + hi) / 2
    if isBefore mid then bisect isBefore (mid + 1) hi else bisect isBefore lo mid
  else lo
termination_by hi - lo
decreasing_by all_goals omega

/-- The first element with the given key in a list sorted by its keys; `before` is the order. -/
def sortedFind? {α κ : Type} [BEq κ] (key : α → κ) (before : κ → κ → Bool) (wanted : κ)
    (entries : List α) : Option α :=
  let isBefore := fun i =>
    match entries[i]? with
    | some a => before (key a) wanted
    | none => false
  (entries[bisect isBefore 0 entries.length]?).filter fun a => key a == wanted

/-- A list sorted by its keys, elements of equal keys staying in order. -/
def sortBy {α κ : Type} (key : α → κ) (before : κ → κ → Bool) (entries : List α) : List α :=
  entries.mergeSort fun a b => !before (key b) (key a)

def textBefore (a b : String) : Bool := decide (a < b)

/-- The order of lists of texts: at the first difference, a shorter list before its extensions. -/
def textsBefore : List String → List String → Bool
  | _, [] => false
  | [], _ :: _ => true
  | a :: as, b :: bs => textBefore a b || (a == b && textsBefore as bs)

def pairBefore {α β : Type} [BEq α] (first : α → α → Bool) (second : β → β → Bool) (p q : α × β) :
    Bool :=
  first p.1 q.1 || (p.1 == q.1 && second p.2 q.2)

end SchemaCatalog
