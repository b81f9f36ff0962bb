import Mathlib.Data.List.Nodup
import SchemaCatalog.Proofs.Run

/-!
# Finding tables

Two keys denote the same table when their names agree and so do their schemas, a missing schema
being read as the default one. `ObjectName.denoted` is that reading, and `Builder.DistinctTables`
says that no two tables of a builder have one denotation. Lookups follow it: `resolve?_eq_some`
and `resolve?_eq_none` say that a name is resolved to a table of its denotation, and to none only
if there is none.

Where keys are distinct a key stands for one entry at most, so the operations that change or
remove the first entry of a key change or remove all of them: `replaceFirst_eq_map`,
`eraseP_eq_filter`.
-/

namespace SchemaCatalog

/-! ## 1. Changing the first element -/

section ReplaceFirst

variable {α β : Type} {p : α → Bool} {f : α → α}

/-- A change that changes no element changes nothing. -/
theorem map_eq_self {l : List α} (h : ∀ a ∈ l, f a = a) : l.map f = l :=
  (List.map_congr_left h).trans (List.map_id l)

theorem mem_replaceFirst {l : List α} {a : α} (h : a ∈ replaceFirst p f l) :
    a ∈ l ∨ ∃ x ∈ l, p x = true ∧ a = f x := by
  induction l with
  | nil => cases h
  | cons x xs ih =>
    rw [replaceFirst] at h
    split at h
    · rename_i hx
      rcases List.mem_cons.mp h with rfl | hmem
      · exact Or.inr ⟨x, List.mem_cons_self .., hx, rfl⟩
      · exact Or.inl (List.mem_cons_of_mem _ hmem)
    · rcases List.mem_cons.mp h with rfl | hmem
      · exact Or.inl (List.mem_cons_self ..)
      · rcases ih hmem with hmem' | ⟨y, hy, hpy, rfl⟩
        · exact Or.inl (List.mem_cons_of_mem _ hmem')
        · exact Or.inr ⟨y, List.mem_cons_of_mem _ hy, hpy, rfl⟩

/-- What a change of the first element does not touch stays the same all along the list. -/
theorem map_replaceFirst {g : α → β} (h : ∀ a, p a = true → g (f a) = g a) (l : List α) :
    (replaceFirst p f l).map g = l.map g := by
  induction l with
  | nil => rfl
  | cons x xs ih =>
    rw [replaceFirst]
    split
    · rename_i hx
      rw [List.map_cons, List.map_cons, h x hx]
    · rw [List.map_cons, List.map_cons, ih]

/-- A change of the first element shows nowhere if it does not show there. -/
theorem map_replaceFirst_of_find? {p : α → Bool} {f : α → α} {g : α → β} {l : List α}
    (h : ∀ a, l.find? p = some a → g (f a) = g a) : (replaceFirst p f l).map g = l.map g := by
  induction l with
  | nil => rfl
  | cons x xs ih =>
    rw [replaceFirst]
    by_cases hx : p x = true
    · rw [if_pos hx, List.map_cons, List.map_cons, h x (List.find?_cons_of_pos hx)]
    · rw [List.find?_cons_of_neg hx] at h
      rw [if_neg hx, List.map_cons, List.map_cons, ih h]

/-- Where no earlier element is to be changed, the element is. -/
theorem replaceFirst_append {done rest : List α} {a : α} (hdone : ∀ x ∈ done, p x = false)
    (ha : p a = true) : replaceFirst p f (done ++ a :: rest) = done ++ f a :: rest := by
  induction done with
  | nil => exact if_pos ha
  | cons x done ih =>
    obtain ⟨hx, hdone⟩ := List.forall_mem_cons.mp hdone
    rw [List.cons_append, replaceFirst, if_neg (by simp [hx]), ih hdone, List.cons_append]

/-- Nothing changes where a change leaves each element that it is for. -/
theorem replaceFirst_eq_self (h : ∀ a, p a = true → f a = a) (l : List α) :
    replaceFirst p f l = l := by
  induction l with
  | nil => rfl
  | cons x xs ih =>
    rw [replaceFirst]
    split
    · rename_i hx
      rw [h x hx]
    · rw [ih]

/-- Nothing changes when the first element is replaced by itself. -/
theorem replaceFirst_find? {l : List α} {a : α} (h : l.find? p = some a) :
    replaceFirst p (fun _ => a) l = l := by
  induction l with
  | nil => rfl
  | cons x xs ih =>
    rw [List.find?_cons] at h
    rw [replaceFirst]
    by_cases hx : p x = true
    · rw [hx] at h
      rw [if_pos hx, Option.some.inj h]
    · rw [Bool.not_eq_true] at hx
      rw [hx] at h
      rw [if_neg (by simp [hx]), ih h]

/-- Looking for what is changed finds what becomes of it. -/
theorem find?_replaceFirst_self (h : ∀ a, p a = true → p (f a) = true) (l : List α) :
    (replaceFirst p f l).find? p = (l.find? p).map f := by
  induction l with
  | nil => rfl
  | cons x xs ih =>
    rw [replaceFirst]
    by_cases hx : p x = true
    · rw [if_pos hx, List.find?_cons_of_pos (h x hx), List.find?_cons_of_pos hx, Option.map_some]
    · rw [if_neg hx, List.find?_cons_of_neg hx, List.find?_cons_of_neg hx, ih]

/-- A change that has nothing to add to itself is made once. -/
theorem replaceFirst_again (h : ∀ a, p a = true → p (f a) = true ∧ f (f a) = f a) (l : List α) :
    replaceFirst p f (replaceFirst p f l) = replaceFirst p f l := by
  induction l with
  | nil => rfl
  | cons x xs ih =>
    by_cases hx : p x = true
    · obtain ⟨hp, hf⟩ := h x hx
      rw [replaceFirst, if_pos hx, replaceFirst, if_pos hp, hf]
    · rw [replaceFirst, if_neg hx, replaceFirst, if_neg hx, ih]

/-- What is looked for first, when it is replaced by something of the kind, is that. -/
theorem find?_replaceFirst_eq [BEq α] [LawfulBEq α] {q : α → Bool} {l : List α} {a c : α}
    (ha : l.find? q = some a) (hc : q c = true) :
    (replaceFirst (· == a) (fun _ => c) l).find? q = some c := by
  induction l with
  | nil => cases ha
  | cons x xs ih =>
    rw [List.find?_cons] at ha
    rw [replaceFirst]
    split at ha
    · cases ha
      rw [if_pos BEq.rfl, List.find?_cons, hc]
    · rename_i hx
      have hne : ¬ (x == a) = true := by
        intro heq
        rw [beq_iff_eq.mp heq, List.find?_some ha] at hx
        cases hx
      rw [if_neg hne, List.find?_cons, hx]
      exact ih ha

/-- Looking for an element that is not changed, nor is what a change gives. -/
theorem find?_replaceFirst_of_ne {q : α → Bool} (h : ∀ a, p a = true → q a = false)
    (h' : ∀ a, p a = true → q (f a) = false) (l : List α) :
    (replaceFirst p f l).find? q = l.find? q := by
  induction l with
  | nil => rfl
  | cons x xs ih =>
    rw [replaceFirst]
    split
    · rename_i hx
      rw [List.find?_cons, List.find?_cons, h x hx, h' x hx]
    · rw [List.find?_cons, List.find?_cons, ih]

/-- Looking for what a change gives, where there was no such element. -/
theorem find?_replaceFirst {q : α → Bool} {l : List α} {a : α} (ha : l.find? p = some a)
    (hnone : ∀ x ∈ l, q x = false) (hq : q (f a) = true) :
    (replaceFirst p f l).find? q = some (f a) := by
  induction l with
  | nil => cases ha
  | cons x xs ih =>
    obtain ⟨hx, hxs⟩ := List.forall_mem_cons.mp hnone
    rw [List.find?_cons] at ha
    rw [replaceFirst]
    split at ha
    · rename_i hp
      cases ha
      rw [if_pos hp, List.find?_cons, hq]
    · rename_i hp
      rw [if_neg (by simp [hp]), List.find?_cons, hx]
      exact ih ha hxs

/-- With one element to change, changing the first is changing all. -/
theorem replaceFirst_eq_map {l : List α} (h : l.countP p ≤ 1) :
    replaceFirst p f l = l.map fun a => if p a then f a else a := by
  induction l with
  | nil => rfl
  | cons x xs ih =>
    rw [replaceFirst, List.map_cons]
    by_cases hx : p x = true
    · rw [List.countP_cons_of_pos hx] at h
      have hnone : ∀ a ∈ xs, ¬ p a = true := List.countP_eq_zero.mp (by omega)
      have hsame : xs.map (fun a => if p a then f a else a) = xs.map id :=
        List.map_congr_left fun a ha => if_neg (hnone a ha)
      rw [if_pos hx, if_pos hx, hsame, List.map_id]
    · rw [List.countP_cons_of_neg hx] at h
      rw [if_neg hx, if_neg hx, ih h]

/-- With one element to remove, removing the first is removing all. -/
theorem eraseP_eq_filter {l : List α} (h : l.countP p ≤ 1) :
    l.eraseP p = l.filter fun a => !p a := by
  induction l with
  | nil => rfl
  | cons x xs ih =>
    by_cases hx : p x = true
    · rw [List.countP_cons_of_pos hx] at h
      have hnone : ∀ a ∈ xs, ¬ p a = true := List.countP_eq_zero.mp (by omega)
      rw [List.eraseP_cons_of_pos hx, List.filter_cons_of_neg (by simp [hx])]
      exact (List.filter_eq_self.mpr fun a ha => by simp [hnone a ha]).symm
    · rw [List.countP_cons_of_neg hx] at h
      rw [List.eraseP_cons_of_neg hx, List.filter_cons_of_pos (by simp [hx]), ih h]

end ReplaceFirst

/-! ## 2. Denotations -/

/-- The table that a name denotes: its schema, a missing one being the default one, and its name. -/
def ObjectName.denoted (n : ObjectName) : String × String :=
  (n.schema.getD defaultSchema, n.name)

/-- Two names denote the same table when they are the same or each other's alias. -/
theorem ObjectName.denoted_eq_iff {m n : ObjectName} :
    m.denoted = n.denoted ↔ m = n ∨ n.alias? = some m := by
  obtain ⟨a, s⟩ := m
  obtain ⟨b, t⟩ := n
  cases t with
  | none =>
    cases s with
    | none => simp [denoted, alias?]
    | some s => simp [denoted, alias?, and_comm, eq_comm]
  | some t =>
    by_cases ht : t = defaultSchema
    · cases s with
      | none => simp [denoted, alias?, ht, eq_comm]
      | some s => simp [denoted, alias?, ht, and_comm]
    · cases s with
      | none => simp [denoted, alias?, ht, Ne.symm ht]
      | some s => simp [denoted, alias?, ht, and_comm]

/-- A table is in the schema of a name when that is the schema of its denotation. -/
theorem inSchema_iff {schema : Option String} {name : String} :
    inSchema schema name = true ↔ schema.getD defaultSchema = name := by
  cases schema with
  | none =>
    simp only [inSchema, Option.isNone_none, Option.getD_none, Bool.true_and, Bool.or_eq_true,
      beq_iff_eq, reduceCtorEq, false_or]
    exact eq_comm
  | some s => simp [inSchema]

namespace Builder

variable {b : Builder}

/-- No two tables denote the same one. -/
def DistinctTables (b : Builder) : Prop := (b.entries.map fun e => e.key.denoted).Nodup

instance (b : Builder) : Decidable b.DistinctTables := inferInstanceAs (Decidable (List.Nodup _))

theorem DistinctTables.nodup_keys (h : b.DistinctTables) : (b.entries.map (·.key)).Nodup := by
  have hmap : ((b.entries.map (·.key)).map ObjectName.denoted).Nodup := by
    rw [List.map_map]; exact h
  exact List.Nodup.of_map _ hmap

/-- In a builder of distinct tables an entry is known by its denotation. -/
theorem DistinctTables.entry_eq (h : b.DistinctTables) {e e' : TableEntry} (he : e ∈ b.entries)
    (he' : e' ∈ b.entries) (heq : e.key.denoted = e'.key.denoted) : e = e' :=
  List.inj_on_of_nodup_map h he he' heq

theorem countP_key_le_one {entries : List TableEntry} (h : (entries.map (·.key)).Nodup)
    (key : TableKey) : entries.countP (·.key == key) ≤ 1 := by
  have hcount := List.nodup_iff_count_le_one.mp h key
  rwa [List.count, List.countP_map] at hcount

/-! ## 3. Lookups -/

theorem entry?_eq_some {key : TableKey} {e : TableEntry} (h : b.entry? key = some e) :
    e ∈ b.entries ∧ e.key = key :=
  ⟨List.mem_of_find?_eq_some h, by simpa using List.find?_some h⟩

theorem entry?_eq_none {key : TableKey} : b.entry? key = none ↔ ∀ e ∈ b.entries, e.key ≠ key := by
  unfold entry?
  simp

/-- Under the key of an entry some entry is found. -/
theorem exists_entry? {e : TableEntry} (he : e ∈ b.entries) : ∃ e', b.entry? e.key = some e' := by
  cases hfind : b.entry? e.key with
  | none => exact absurd rfl (entry?_eq_none.mp hfind e he)
  | some e' => exact ⟨e', rfl⟩

/-- Where keys are distinct a lookup finds every entry under its key. -/
theorem entry?_of_mem (h : (b.entries.map (·.key)).Nodup) {e : TableEntry} (he : e ∈ b.entries) :
    b.entry? e.key = some e := by
  cases hfind : b.entry? e.key with
  | none => exact absurd rfl (entry?_eq_none.mp hfind e he)
  | some e' =>
    obtain ⟨he', hkey⟩ := entry?_eq_some hfind
    rw [List.inj_on_of_nodup_map h he' he hkey]

theorem table?_eq_some {key : TableKey} {t : Table} (h : b.view.table? key = some t) :
    ∃ e ∈ b.entries, e.table = t ∧ e.key = key := by
  obtain ⟨e, he, rfl⟩ := Option.map_eq_some_iff.mp h
  obtain ⟨hmem, hkey⟩ := entry?_eq_some he
  exact ⟨e, hmem, rfl, hkey⟩

theorem table?_eq_none {key : TableKey} :
    b.view.table? key = none ↔ ∀ e ∈ b.entries, e.key ≠ key := by
  rw [← entry?_eq_none, CatalogView.table?, Option.map_eq_none_iff]; rfl

/-- A name is resolved to a table of the builder that it denotes. -/
theorem resolve?_eq_some {n : ObjectName} {t : Table} (h : b.resolve? n = some t) :
    ∃ e ∈ b.entries, e.table = t ∧ e.key.denoted = n.denoted := by
  rw [resolve?, CatalogView.resolve?] at h
  split at h
  · rename_i t' hfound
    cases h
    obtain ⟨e, he, ht, hkey⟩ := table?_eq_some hfound
    exact ⟨e, he, ht, by rw [hkey]⟩
  · obtain ⟨m, hm, hfound⟩ := Option.bind_eq_some_iff.mp h
    obtain ⟨e, he, ht, hkey⟩ := table?_eq_some hfound
    exact ⟨e, he, ht, ObjectName.denoted_eq_iff.mpr (Or.inr (hkey ▸ hm))⟩

/-- A name is resolved to no table only if none is denoted by it. -/
theorem resolve?_eq_none {n : ObjectName} (h : b.resolve? n = none) :
    ∀ e ∈ b.entries, e.key.denoted ≠ n.denoted := by
  rw [resolve?, CatalogView.resolve?] at h
  split at h
  · cases h
  · rename_i hnone
    intro e he heq
    rcases ObjectName.denoted_eq_iff.mp heq with hkey | halias
    · exact table?_eq_none.mp hnone e he hkey
    · rw [halias, Option.bind_some] at h
      exact table?_eq_none.mp h e he rfl

theorem requireTable_eq_ok {n : ObjectName} {referencedBy : String} {t : Table} :
    b.requireTable n referencedBy = .ok t ↔ b.resolve? n = some t := by
  rw [requireTable]
  split <;> simp_all

theorem requireEntry_eq_ok {key : TableKey} {e : TableEntry} :
    b.requireEntry key = .ok e ↔ b.entry? key = some e := by
  rw [requireEntry]
  split <;> simp_all

end Builder

end SchemaCatalog
