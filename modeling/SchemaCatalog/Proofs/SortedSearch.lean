import Mathlib.Data.String.Basic
import SchemaCatalog.Catalog.Frozen

/-!
# Sorting and searching

A binary search finds the boundary between the elements before the key looked for and the others:
`bisect_spec`. In a list sorted by a strict total order the first element of that key, if there is
one, stands right at the boundary, so the search answers what going through the list would answer
(`sortedFind?_eq_find?`). Sorting is stable: elements of equal keys stay in order, and so the search
in the sorted list answers what going through the unsorted one would (`sortedFind?_sortBy`).
-/

namespace SchemaCatalog

/-! ## 1. Orders -/

/-- The order is strict and compares any two different keys. -/
structure StrictTotal {κ : Type} (before : κ → κ → Bool) : Prop where
  irrefl : ∀ a, before a a = false
  trans : ∀ a b c, before a b = true → before b c = true → before a c = true
  connected : ∀ a b, before a b = false → before b a = false → a = b

section StrictTotal

variable {κ ι : Type} {before : κ → κ → Bool}

theorem StrictTotal.asymm (h : StrictTotal before) {a b : κ} (hab : before a b = true) :
    before b a = false := by
  cases hba : before b a with
  | false => rfl
  | true => rw [← h.irrefl a, h.trans a b a hab hba]

/-- Not being after is transitive too. -/
theorem StrictTotal.not_after_trans (h : StrictTotal before) {a b c : κ}
    (hba : before b a = false) (hbc : before b c = true) : before a c = true := by
  cases hab : before a b with
  | true => exact h.trans a b c hab hbc
  | false => rw [h.connected a b hab hba, hbc]

theorem textBefore_strictTotal : StrictTotal textBefore where
  irrefl a := decide_eq_false (lt_irrefl a)
  trans _ _ _ hab hbc :=
    decide_eq_true ((of_decide_eq_true hab).trans (of_decide_eq_true hbc))
  connected _ _ hab hba :=
    le_antisymm (not_lt.mp (of_decide_eq_false hba)) (not_lt.mp (of_decide_eq_false hab))

/-- The order of pairs is strict and total if both of its parts are. -/
theorem StrictTotal.pair [BEq κ] [LawfulBEq κ] {second : ι → ι → Bool} (h : StrictTotal before)
    (h' : StrictTotal second) : StrictTotal (pairBefore before second) where
  irrefl a := by rw [pairBefore, h.irrefl, h'.irrefl, Bool.and_false, Bool.or_false]
  trans a b c hab hbc := by
    simp only [pairBefore, Bool.or_eq_true, Bool.and_eq_true, beq_iff_eq] at hab hbc ⊢
    rcases hab with hab | ⟨hab, hab'⟩
    · rcases hbc with hbc | ⟨hbc, -⟩
      · exact Or.inl (h.trans _ _ _ hab hbc)
      · exact Or.inl (hbc ▸ hab)
    · rcases hbc with hbc | ⟨hbc, hbc'⟩
      · exact Or.inl (hab ▸ hbc)
      · exact Or.inr ⟨hab.trans hbc, h'.trans _ _ _ hab' hbc'⟩
  connected a b hab hba := by
    simp only [pairBefore, Bool.or_eq_false_iff, Bool.and_eq_false_imp, beq_iff_eq] at hab hba
    have hfirst := h.connected _ _ hab.1 hba.1
    exact Prod.ext hfirst (h'.connected _ _ (hab.2 hfirst) (hba.2 hfirst.symm))

/-- Tables are sorted by a strict total order. -/
theorem tableBefore_strictTotal : StrictTotal tableBefore := by
  refine StrictTotal.pair ?_ (textBefore_strictTotal.pair textBefore_strictTotal)
  exact { irrefl := by decide, trans := by decide, connected := by decide }

end StrictTotal

/-! ## 2. Binary search -/

/-- Where a property holds on an initial part only, the search finds the end of that part. -/
theorem bisect_spec {p : Nat → Bool} {hi : Nat}
    (hp : ∀ i j, i < j → j < hi → p j = true → p i = true) {lo : Nat} (hlo : lo ≤ hi) :
    lo ≤ bisect p lo hi ∧ bisect p lo hi ≤ hi
      ∧ (∀ i, lo ≤ i → i < bisect p lo hi → p i = true)
      ∧ ∀ i, bisect p lo hi ≤ i → i < hi → p i = false := by
  fun_induction bisect p lo hi with
  | case1 lo hi hlt mid hmid ih =>
    obtain ⟨hge, hle, hbelow, habove⟩ := ih hp (by omega)
    refine ⟨by omega, hle, fun i hi' hlt' => ?_, habove⟩
    by_cases hi'' : mid + 1 ≤ i
    · exact hbelow i hi'' hlt'
    · rcases Nat.lt_or_ge i mid with hlower | hhigher
      · exact hp i mid hlower (by omega) hmid
      · rwa [show i = mid by omega]
  | case2 lo hi hlt mid hmid ih =>
    obtain ⟨hge, hle, hbelow, habove⟩ :=
      ih (fun i j hij hj => hp i j hij (by omega)) (by omega)
    refine ⟨hge, by omega, hbelow, fun i hi' hlt' => ?_⟩
    rcases Nat.lt_or_ge i mid with hlower | hhigher
    · exact habove i hi' hlower
    · cases hpi : p i with
      | false => rfl
      | true =>
        rcases Nat.eq_or_lt_of_le hhigher with rfl | hhigher
        · exact absurd hpi hmid
        · exact absurd (hp mid i hhigher hlt' hpi) hmid
  | case3 lo hi hge => exact ⟨le_refl lo, hlo, fun i hi' hlt => by omega, fun i hi' hlt => by omega⟩

section Search

variable {α κ : Type} {key : α → κ} {before : κ → κ → Bool}

/-- The list is sorted by its keys. -/
def SortedBy (key : α → κ) (before : κ → κ → Bool) (l : List α) : Prop :=
  l.Pairwise fun a b => before (key b) (key a) = false

/-- After an element that is not before the key looked for, and has another one, none has that
key. -/
theorem SortedBy.ne_of_mem (h : StrictTotal before) {a : α} {l : List α} {wanted : κ}
    (hl : SortedBy key before (a :: l)) (ha : before (key a) wanted = false)
    (hne : key a ≠ wanted) : ∀ b ∈ l, key b ≠ wanted := by
  rintro b hb rfl
  have hsorted := (List.pairwise_cons.mp hl).1 b hb
  exact hne (h.connected _ _ ha hsorted)

variable [BEq κ] [LawfulBEq κ]

/-- Where the first element is not before the key looked for, only that one may be found. -/
theorem SortedBy.find?_eq_head? (h : StrictTotal before) {l : List α} {wanted : κ}
    (hl : SortedBy key before l)
    (hhead : ∀ a, l.head? = some a → before (key a) wanted = false) :
    l.find? (fun a => key a == wanted) = l.head?.filter fun a => key a == wanted := by
  cases l with
  | nil => rfl
  | cons a rest =>
    rw [List.head?_cons, List.find?_cons]
    by_cases heq : key a = wanted
    · rw [beq_iff_eq.mpr heq]
      exact (Option.filter_some_pos (p := fun a => key a == wanted) (beq_iff_eq.mpr heq)).symm
    · have hnone : rest.find? (fun b => key b == wanted) = none := by
        rw [List.find?_eq_none]
        intro b hb hbeq
        exact hl.ne_of_mem h (hhead a rfl) heq b hb (beq_iff_eq.mp hbeq)
      rw [hnone, beq_eq_false_iff_ne.mpr heq]
      exact (Option.filter_some_neg (p := fun a => key a == wanted)
        (beq_eq_false_iff_ne.mpr heq)).symm

omit [LawfulBEq κ] in
/-- The search looks at keys only, in a list that is not sorted as well. -/
theorem sortedFind?_map {β : Type} {f : α → β} {key' : β → κ} (h : ∀ a, key' (f a) = key a)
    (wanted : κ) (l : List α) :
    sortedFind? key' before wanted (l.map f) = (sortedFind? key before wanted l).map f := by
  change ((l.map f)[bisect (fun i => (l.map f)[i]?.any fun b => before (key' b) wanted) 0
      (l.map f).length]?).filter _
    = ((l[bisect (fun i => l[i]?.any fun a => before (key a) wanted) 0 l.length]?).filter _).map f
  simp only [List.getElem?_map, Option.any_map, List.length_map, Option.filter_map,
    Function.comp_def, h]

/-- In a sorted list the binary search answers the first element of the key. -/
theorem sortedFind?_eq_find? (h : StrictTotal before) {l : List α} (hl : SortedBy key before l)
    (wanted : κ) : sortedFind? key before wanted l = l.find? fun a => key a == wanted := by
  change (l[bisect (fun i => l[i]?.any fun a => before (key a) wanted) 0 l.length]?).filter _ = _
  generalize hp : (fun i : Nat => l[i]?.any fun a => before (key a) wanted) = p
  have hpi {i : Nat} (hi : i < l.length) : p i = before (key l[i]) wanted := by
    rw [← hp]; simp only [List.getElem?_eq_getElem hi, Option.any_some]
  have hinitial : ∀ i j, i < j → j < l.length → p j = true → p i = true := by
    intro i j hij hj hpj
    rw [hpi hj] at hpj
    rw [hpi (hij.trans hj)]
    exact h.not_after_trans (List.pairwise_iff_getElem.mp hl i j (hij.trans hj) hj hij) hpj
  obtain ⟨-, hle, hbelow, habove⟩ := bisect_spec hinitial (Nat.zero_le l.length)
  generalize bisect p 0 l.length = r at hle hbelow habove
  -- No element before the boundary has the key looked for.
  have htake : (l.take r).find? (fun a => key a == wanted) = none := by
    rw [List.find?_eq_none]
    intro a ha heq
    obtain ⟨i, hi, rfl⟩ := List.mem_iff_getElem.mp ha
    rw [List.length_take] at hi
    have hbefore := hbelow i (Nat.zero_le i) (by omega)
    rw [List.getElem_take] at heq
    rw [hpi (by omega), beq_iff_eq.mp heq, h.irrefl] at hbefore
    cases hbefore
  have hsplit : l.find? (fun a => key a == wanted) = (l.drop r).find? fun a => key a == wanted := by
    conv_lhs => rw [← List.take_append_drop r l, List.find?_append, htake, Option.none_or]
  have hrest : SortedBy key before (l.drop r) := hl.sublist (List.drop_sublist r l)
  rw [hsplit, ← List.head?_drop]
  refine (hrest.find?_eq_head? h fun a ha => ?_).symm
  rw [List.head?_drop] at ha
  obtain ⟨hr, rfl⟩ := List.getElem?_eq_some_iff.mp ha
  rw [← hpi hr]
  exact habove r (le_refl r) hr

end Search

/-! ## 3. Sorting -/

section Sorting

variable {α κ : Type} {key : α → κ} {before : κ → κ → Bool}

theorem sortBy_trans (h : StrictTotal before) (a b c : α) (hab : (!before (key b) (key a)) = true)
    (hbc : (!before (key c) (key b)) = true) : (!before (key c) (key a)) = true := by
  rw [Bool.not_eq_true'] at hab hbc ⊢
  cases hca : before (key c) (key a) with
  | false => rfl
  | true => rw [← hab, h.not_after_trans hbc hca]

theorem sortBy_total (h : StrictTotal before) (a b : α) :
    (!before (key b) (key a) || !before (key a) (key b)) = true := by
  cases hba : before (key b) (key a) with
  | false => rfl
  | true => rw [h.asymm hba]; rfl

theorem sortBy_perm (l : List α) : (sortBy key before l).Perm l := List.mergeSort_perm l _

/-- Sorting sorts. -/
theorem sortedBy_sortBy (h : StrictTotal before) (l : List α) :
    SortedBy key before (sortBy key before l) :=
  (List.pairwise_mergeSort (sortBy_trans h) (sortBy_total h) l).imp fun hab =>
    Bool.not_eq_true' _ ▸ hab

variable [BEq κ] [LawfulBEq κ]

/-- Sorting is stable: the elements of one key stay in order. -/
theorem filter_sortBy (h : StrictTotal before) (l : List α) (wanted : κ) :
    (sortBy key before l).filter (fun a => key a == wanted)
      = l.filter fun a => key a == wanted := by
  have hkeys : (l.filter fun a => key a == wanted).Pairwise
      fun a b => (!before (key b) (key a)) = true := by
    rw [List.pairwise_iff_forall_sublist]
    intro a b hab
    have ha := List.of_mem_filter (hab.subset (List.mem_cons_self ..))
    have hb := List.of_mem_filter (hab.subset (List.mem_cons_of_mem _ (List.mem_cons_self ..)))
    rw [beq_iff_eq.mp ha, beq_iff_eq.mp hb, h.irrefl]
    rfl
  have hsub := List.sublist_mergeSort (sortBy_trans h) (sortBy_total h) hkeys List.filter_sublist
  have hfiltered := hsub.filter fun a => key a == wanted
  rw [List.filter_filter] at hfiltered
  simp only [Bool.and_self] at hfiltered
  refine (hfiltered.eq_of_length ?_).symm
  exact ((sortBy_perm l).filter _).length_eq.symm

/-- In the sorted list the binary search answers the first element of the key in the unsorted one.
-/
theorem sortedFind?_sortBy (h : StrictTotal before) (l : List α) (wanted : κ) :
    sortedFind? key before wanted (sortBy key before l) = l.find? fun a => key a == wanted := by
  rw [sortedFind?_eq_find? h (sortedBy_sortBy h l), ← List.head?_filter, ← List.head?_filter,
    filter_sortBy h]

end Sorting

/-! ## 4. Tables -/

/-- A sort key is that of one table key only. -/
theorem ObjectName.sortKey_inj {m n : ObjectName} : m.sortKey = n.sortKey ↔ m = n := by
  obtain ⟨a, s⟩ := m
  obtain ⟨b, t⟩ := n
  cases s <;> cases t <;> simp [sortKey, and_comm]

theorem ObjectName.sortKey_beq (m n : ObjectName) : (m.sortKey == n.sortKey) = (m == n) := by
  rw [Bool.eq_iff_iff, beq_iff_eq, beq_iff_eq, sortKey_inj]

/-- The finished catalog finds the entry under a key that the builder finds. -/
theorem Builder.entry?_freeze (b : Builder) (key : TableKey) :
    b.freeze.entry? key = b.entry? key := by
  have hfind : b.freeze.entry? key = b.entries.find? fun e => e.key.sortKey == key.sortKey :=
    sortedFind?_sortBy tableBefore_strictTotal b.entries key.sortKey
  simp only [ObjectName.sortKey_beq] at hfind
  exact hfind

/-- The finished catalog has the entries of the builder, in another order. -/
theorem Builder.entries_freeze_perm (b : Builder) : b.freeze.entries.Perm b.entries :=
  sortBy_perm b.entries

end SchemaCatalog
