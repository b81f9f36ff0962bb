import SchemaCatalog.Proofs.SortedSearch

/-!
# The finished catalog answers as the builder does

Finishing a catalog sorts its entities, and lookups go from walks through lists in the order of
their declaration to binary searches. `Builder.freeze_finishes` says that nobody can tell by the
answers, triggers and policies apart: of several of one name the builder answers the first one
declared, the catalog the one on the least table.

Functions, triggers and policies are sorted by a pair, the name and something finer, but looked up
by the name alone. What such a lookup finds is the first least element among those of the name
(`sortedFind?_sortBy_pair`). Sorting is stable, so where keys repeat it is the first in the
unsorted list; `FirstLeast` keeps both facts together, and there is only one such element.
-/

namespace SchemaCatalog

/-! ## 1. First least elements -/

theorem find?_filter_and {α : Type} {p q : α → Bool} (l : List α) :
    (l.filter p).find? q = l.find? fun a => p a && q a := by
  simp only [List.find?_filter, Bool.decide_and, Bool.decide_eq_true]

section FirstLeast

variable {α κ : Type} {key : α → κ} {before : κ → κ → Bool}

/-- No element of the list has a key before that of `a`, and `a` is the first one that has it. -/
structure FirstLeast [BEq κ] (key : α → κ) (before : κ → κ → Bool) (l : List α) (a : α) :
    Prop where
  least : ∀ b ∈ l, before (key b) (key a) = false
  first : l.find? (fun b => key b == key a) = some a

theorem FirstLeast.mem [BEq κ] {l : List α} {a : α} (h : FirstLeast key before l a) : a ∈ l :=
  List.mem_of_find?_eq_some h.first

theorem leastBy_eq_none {l : List α} : leastBy key before l = none ↔ l = [] := by
  cases l with
  | nil => simp [leastBy]
  | cons x xs => simp [leastBy]

variable [BEq κ] [LawfulBEq κ]

omit [LawfulBEq κ] in
/-- There is one first least element. -/
theorem FirstLeast.eq (h : StrictTotal before) {l : List α} {a a' : α}
    (ha : FirstLeast key before l a) (ha' : FirstLeast key before l a') : a = a' := by
  have hkey : key a = key a' := h.connected _ _ (ha'.least a ha.mem) (ha.least a' ha'.mem)
  have hfirst := ha.first
  rw [hkey, ha'.first] at hfirst
  exact (Option.some.inj hfirst).symm

/-- Going on through a list, the best element so far gives way to a better one only. -/
theorem FirstLeast.foldl (h : StrictTotal before) (as : List α) {seen : List α} {best : α}
    (hbest : FirstLeast key before seen best) :
    FirstLeast key before (seen ++ as)
      (as.foldl (fun best b => if before (key b) (key best) then b else best) best) := by
  induction as generalizing seen best with
  | nil => rwa [List.append_nil]
  | cons b as ih =>
    rw [List.foldl_cons, List.append_cons]
    refine ih ?_
    split
    · rename_i hbetter
      -- Nothing seen so far is as good as the new element.
      have hworse : ∀ c ∈ seen, before (key c) (key b) = false ∧ key c ≠ key b := by
        intro c hc
        have hbefore := hbest.least c hc
        constructor
        · cases hcb : before (key c) (key b) with
          | false => rfl
          | true => rw [← hbefore, h.trans _ _ _ hcb hbetter]
        · intro heq
          rw [heq, hbetter] at hbefore
          cases hbefore
      constructor
      · intro c hc
        rcases List.mem_append.mp hc with hold | hnew
        · exact (hworse c hold).1
        · rw [List.mem_singleton.mp hnew, h.irrefl]
      · have hnone : seen.find? (fun c => key c == key b) = none :=
          List.find?_eq_none.mpr fun c hc heq => (hworse c hc).2 (beq_iff_eq.mp heq)
        rw [List.find?_append, hnone, Option.none_or]
        exact List.find?_cons_of_pos BEq.rfl
    · rename_i hkeeps
      constructor
      · intro c hc
        rcases List.mem_append.mp hc with hold | hnew
        · exact hbest.least c hold
        · rw [List.mem_singleton.mp hnew, Bool.eq_false_iff]
          exact hkeeps
      · rw [List.find?_append, hbest.first, Option.some_or]

/-- The least element of a list is the first least one. -/
theorem leastBy_firstLeast (h : StrictTotal before) {l : List α} {a : α}
    (ha : leastBy key before l = some a) : FirstLeast key before l a := by
  cases l with
  | nil => cases ha
  | cons x xs =>
    cases ha
    have hfirst : FirstLeast key before [x] x := by
      refine ⟨fun b hb => ?_, List.find?_cons_of_pos BEq.rfl⟩
      rw [List.mem_singleton.mp hb, h.irrefl]
    exact hfirst.foldl h xs

/-- The first least element is what looking for the least finds. -/
theorem FirstLeast.leastBy_eq (h : StrictTotal before) {l : List α} {a : α}
    (ha : FirstLeast key before l a) : leastBy key before l = some a := by
  cases hleast : leastBy key before l with
  | none =>
    rw [leastBy_eq_none.mp hleast] at ha
    exact absurd ha.mem List.not_mem_nil
  | some a' => rw [(leastBy_firstLeast h hleast).eq h ha]

end FirstLeast

/-! ## 2. Searching by the first part of the key -/

section Pair

variable {α κ ι : Type} {key : α → κ} {fine : α → ι} {before : κ → κ → Bool} {second : ι → ι → Bool}

/-- What is sorted by pairs is sorted by their first parts. -/
theorem SortedBy.of_pair [BEq κ] {l : List α}
    (hl : SortedBy (fun a => (key a, fine a)) (pairBefore before second) l) :
    SortedBy key before l :=
  hl.imp fun hab => (Bool.or_eq_false_iff.mp hab).1

variable [BEq κ] [LawfulBEq κ]

/-- In a list sorted by pairs, the first element with a given first part has the least second
part. -/
theorem SortedBy.least_of_find? (h : StrictTotal before) (h' : StrictTotal second) {l : List α}
    (hl : SortedBy (fun a => (key a, fine a)) (pairBefore before second) l) {wanted : κ} {a : α}
    (ha : l.find? (fun b => key b == wanted) = some a) :
    ∀ b ∈ l, key b = wanted → second (fine b) (fine a) = false := by
  obtain ⟨hkey, earlier, later, rfl, hearlier⟩ := List.find?_eq_some_iff_append.mp ha
  intro b hb hwanted
  have hkeys : key b = key a := hwanted.trans (beq_iff_eq.mp hkey).symm
  rcases List.mem_append.mp hb with hbefore | hrest
  · exact absurd (beq_iff_eq.mpr hwanted) (by simpa using hearlier b hbefore)
  · rcases List.mem_cons.mp hrest with rfl | hafter
    · exact h'.irrefl _
    · have hsorted := (List.pairwise_cons.mp (List.pairwise_append.mp hl).2.1).1 b hafter
      simp only [pairBefore, hkeys, h.irrefl, BEq.rfl, Bool.false_or, Bool.true_and] at hsorted
      exact hsorted

variable [BEq ι] [LawfulBEq ι]

/-- A search by the first part of the key finds the first least element of those that have it. -/
theorem sortedFind?_sortBy_pair (h : StrictTotal before) (h' : StrictTotal second) (l : List α)
    (wanted : κ) :
    sortedFind? key before wanted
        (sortBy (fun a => (key a, fine a)) (pairBefore before second) l)
      = leastBy fine second (l.filter fun a => key a == wanted) := by
  have hpair : StrictTotal (pairBefore before second) := h.pair h'
  have hstable (pair : κ × ι) :
      (sortBy (fun a => (key a, fine a)) (pairBefore before second) l).filter
          (fun a => (key a, fine a) == pair)
        = l.filter fun a => (key a, fine a) == pair := filter_sortBy hpair l pair
  have hsorted : SortedBy (fun a => (key a, fine a)) (pairBefore before second)
      (sortBy (fun a => (key a, fine a)) (pairBefore before second) l) := sortedBy_sortBy hpair l
  have hperm : (sortBy (fun a => (key a, fine a)) (pairBefore before second) l).Perm l :=
    sortBy_perm l
  rw [sortedFind?_eq_find? h hsorted.of_pair]
  cases ha : (sortBy (fun a => (key a, fine a)) (pairBefore before second) l).find?
      fun a => key a == wanted with
  | none =>
    have hnone : l.filter (fun a => key a == wanted) = [] := by
      rw [List.filter_eq_nil_iff]
      exact fun a hmem => List.find?_eq_none.mp ha a (hperm.mem_iff.mpr hmem)
    rw [hnone]
    rfl
  | some a =>
    have hkey : key a = wanted := by simpa using List.find?_some ha
    refine (FirstLeast.leastBy_eq h' ⟨fun b hb => ?_, ?_⟩).symm
    · obtain ⟨hmem, hwanted⟩ := List.mem_filter.mp hb
      exact hsorted.least_of_find? h h' ha b (hperm.mem_iff.mpr hmem) (beq_iff_eq.mp hwanted)
    · -- Elements of one pair stay in order, so the first of them is the same in both lists.
      have hsame := congrArg List.head? (hstable (key a, fine a))
      rw [List.head?_filter, List.head?_filter] at hsame
      have hboth : (fun b => (key b, fine b) == (key a, fine a))
          = fun b => key b == wanted && fine b == fine a := by
        funext b
        rw [hkey]
        rfl
      rw [hboth] at hsame
      rw [find?_filter_and, ← hsame]
      obtain ⟨hwanted, earlier, later, hsplit, hearlier⟩ := List.find?_eq_some_iff_append.mp ha
      refine List.find?_eq_some_iff_append.mpr ⟨?_, earlier, later, hsplit, fun b hb => ?_⟩
      · rw [hwanted, BEq.rfl, Bool.and_self]
      · rw [(Bool.not_eq_true' _).mp (hearlier b hb), Bool.false_and, Bool.not_false]

end Pair

/-! ## 3. Orders of what is sorted -/

/-- Lists of texts are compared by a strict total order. -/
theorem textsBefore_strictTotal : StrictTotal textsBefore where
  irrefl as := by
    induction as with
    | nil => rfl
    | cons a as ih =>
      rw [textsBefore, textBefore_strictTotal.irrefl, ih, Bool.and_false, Bool.or_false]
  trans as bs cs hab hbc := by
    induction as generalizing bs cs with
    | nil =>
      cases cs with
      | nil => cases bs <;> cases hbc
      | cons c cs => rfl
    | cons a as ih =>
      cases bs with
      | nil => cases hab
      | cons b bs =>
        cases cs with
        | nil => cases hbc
        | cons c cs =>
          simp only [textsBefore, Bool.or_eq_true, Bool.and_eq_true, beq_iff_eq] at hab hbc ⊢
          rcases hab with hab | ⟨rfl, hab⟩
          · rcases hbc with hbc | ⟨rfl, -⟩
            · exact Or.inl (textBefore_strictTotal.trans a b c hab hbc)
            · exact Or.inl hab
          · exact hbc.imp_right fun ⟨heq, hbc⟩ => ⟨heq, ih bs cs hab hbc⟩
  connected as bs hab hba := by
    induction as generalizing bs with
    | nil =>
      cases bs with
      | nil => rfl
      | cons b bs => cases hab
    | cons a as ih =>
      cases bs with
      | nil => cases hba
      | cons b bs =>
        simp only [textsBefore, Bool.or_eq_false_iff, Bool.and_eq_false_imp, beq_iff_eq] at hab hba
        obtain rfl : a = b := textBefore_strictTotal.connected a b hab.1 hba.1
        rw [ih bs (hab.2 rfl) (hba.2 rfl)]

/-! ## 4. Lookups -/

/-- Of the entities of a name, this one is on the least table that has one, and is the first of its
name there. -/
structure LeastNamed {α : Type} (name : α → String) (table : α → TableKey) (l : List α)
    (wanted : String) (a : α) : Prop where
  mem : a ∈ l
  named : name a = wanted
  least : ∀ b ∈ l, name b = wanted → tableBefore (table b).sortKey (table a).sortKey = false
  first : l.find? (fun b => name b == wanted && table b == table a) = some a

section Named

variable {α : Type} {name : α → String} {table : α → TableKey}

/-- The search by name among entities sorted by name and table finds one exactly when going through
them would. -/
theorem sortedFind?_named_eq_none {l : List α} {wanted : String} :
    sortedFind? name textBefore wanted
        (sortBy (fun a => (name a, (table a).sortKey)) namedBefore l) = none
      ↔ l.find? (fun a => name a == wanted) = none := by
  rw [namedBefore, sortedFind?_sortBy_pair textBefore_strictTotal tableBefore_strictTotal,
    leastBy_eq_none, List.filter_eq_nil_iff, List.find?_eq_none]

/-- What it finds is the entity on the least table. -/
theorem leastNamed_of_sortedFind? {l : List α} {wanted : String} {a : α}
    (h : sortedFind? name textBefore wanted
        (sortBy (fun a => (name a, (table a).sortKey)) namedBefore l) = some a) :
    LeastNamed name table l wanted a := by
  rw [namedBefore, sortedFind?_sortBy_pair textBefore_strictTotal tableBefore_strictTotal] at h
  have hleast := leastBy_firstLeast tableBefore_strictTotal h
  obtain ⟨hmem, hnamed⟩ := List.mem_filter.mp hleast.mem
  refine { mem := hmem, named := beq_iff_eq.mp hnamed, least := fun b hb hwanted => ?_, first := ?_ }
  · exact hleast.least b (List.mem_filter.mpr ⟨hb, beq_iff_eq.mpr hwanted⟩)
  · have hfirst := hleast.first
    rw [find?_filter_and] at hfirst
    simp only [ObjectName.sortKey_beq] at hfirst
    exact hfirst

end Named

namespace Builder

variable (b : Builder)

theorem function?_freeze (name : String) : b.freeze.function? name = b.function? name :=
  sortedFind?_sortBy_pair textBefore_strictTotal textsBefore_strictTotal b.functions
    (Text.lower name)

theorem role?_freeze (name : String) : b.freeze.role? name = b.role? name :=
  sortedFind?_sortBy textBefore_strictTotal b.roles name

theorem schema?_freeze (name : String) : b.freeze.schema? name = b.schema? name :=
  sortedFind?_sortBy textBefore_strictTotal b.schemas name

theorem table?_freeze (key : TableKey) : b.freeze.view.table? key = b.view.table? key :=
  congrArg (Option.map TableEntry.table) (b.entry?_freeze key)

/-- Both catalogs have the same metadata for a table, or both fail with the same error. -/
theorem metadata_freeze (t : Table) : b.freeze.view.metadata t = b.view.metadata t := by
  have hentry : b.freeze.view.entry? t.key = b.view.entry? t.key := b.entry?_freeze t.key
  rw [CatalogView.metadata, CatalogView.metadata, hentry]

end Builder

/-- A catalog has the entities of a builder, with grants in the same order, and answers lookups as
the builder does; of several triggers or policies of one name it answers that of the least table. -/
structure Catalog.Finishes (c : Catalog) (b : Builder) : Prop where
  entries : c.entries.Perm b.entries
  functions : c.functions.Perm b.functions
  triggers : c.triggers.Perm b.triggers
  policies : c.policies.Perm b.policies
  roles : c.roles.Perm b.roles
  grants : c.grants = b.grants
  schemas : c.schemas.Perm b.schemas
  table? : ∀ key, c.view.table? key = b.view.table? key
  metadata : ∀ t, c.view.metadata t = b.view.metadata t
  function? : ∀ name, c.function? name = b.function? name
  role? : ∀ name, c.role? name = b.role? name
  schema? : ∀ name, c.schema? name = b.schema? name
  trigger?_eq_none : ∀ name, c.trigger? name = none ↔ b.trigger? name = none
  trigger?_eq_some : ∀ name t, c.trigger? name = some t →
    LeastNamed Trigger.name Trigger.table b.triggers name t
  policy?_eq_none : ∀ name, c.policy? name = none ↔ b.policy? name = none
  policy?_eq_some : ∀ name p, c.policy? name = some p →
    LeastNamed Policy.name Policy.table b.policies name p

/-- A builder, whatever its entities and their order, is finished by the catalog made of it. -/
theorem Builder.freeze_finishes (b : Builder) : b.freeze.Finishes b where
  entries := b.entries_freeze_perm
  functions := sortBy_perm b.functions
  triggers := sortBy_perm b.triggers
  policies := sortBy_perm b.policies
  roles := sortBy_perm b.roles
  grants := rfl
  schemas := sortBy_perm b.schemas
  table? := b.table?_freeze
  metadata := b.metadata_freeze
  function? := b.function?_freeze
  role? := b.role?_freeze
  schema? := b.schema?_freeze
  trigger?_eq_none _ := sortedFind?_named_eq_none
  trigger?_eq_some _ _ := leastNamed_of_sortedFind?
  policy?_eq_none _ := sortedFind?_named_eq_none
  policy?_eq_some _ _ := leastNamed_of_sortedFind?

end SchemaCatalog
