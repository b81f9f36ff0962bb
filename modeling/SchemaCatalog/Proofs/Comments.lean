import Mathlib.Data.List.Induction
import Mathlib.Data.List.Nodup
import SchemaCatalog.Catalog.Documentation
import SchemaCatalog.Proofs.SortedSearch
import SchemaCatalog.Proofs.States

/-!
# The last comment

Comments are collected in two stages. `Comments.add` files each one under the name that it was
written with, so that a later one takes the place of an earlier one under the same name, and
attaching them looks for the comments on a table under its key and, if there are none at all, under
its alias in the default schema. Either stage keeps the last comment of those that it sees; together
they keep the last one under one spelling of the table, `spellingOf`, which need not be the last one
on the table.

`Builder.document_last_comments` says so: the documentation of a table is the last comment under that
spelling, and it is the last comment on the table if they are all written with one spelling.
-/

namespace SchemaCatalog

/-! ## 1. Filing -/

section Filing

variable {κ α : Type} [BEq κ] [LawfulBEq κ]

theorem filed?_fileUnder (key wanted : κ) (value : α) (pairs : List (κ × α)) :
    filed? wanted (fileUnder key value pairs)
      = if key == wanted then some value else filed? wanted pairs := by
  induction pairs with
  | nil => by_cases h : key = wanted <;> simp [fileUnder, filed?, h]
  | cons p ps ih =>
    by_cases hp : p.1 = key
    · by_cases hw : key = wanted <;> simp [fileUnder, filed?, hp, hw]
    · rw [fileUnder, if_neg (by simpa using hp)]
      by_cases hw : p.1 = wanted
      · have hne : key ≠ wanted := fun h => hp (hw.trans h.symm)
        simp [filed?, hw, hne]
      · simpa [filed?, hw] using ih

/-- A value filed under a key that is there leaves the keys. -/
theorem keys_fileUnder_of_mem {key : κ} {pairs : List (κ × α)} (h : key ∈ pairs.map Prod.fst)
    (value : α) : (fileUnder key value pairs).map Prod.fst = pairs.map Prod.fst := by
  induction pairs with
  | nil => cases h
  | cons p ps ih =>
    rw [fileUnder]
    split
    · rfl
    · rename_i hp
      rw [List.map_cons, List.map_cons, ih]
      exact (List.mem_cons.mp h).resolve_left fun heq => hp (beq_iff_eq.mpr heq.symm)

/-- A value filed under a new key comes last. -/
theorem fileUnder_of_not_mem {key : κ} {pairs : List (κ × α)} (h : key ∉ pairs.map Prod.fst)
    (value : α) : fileUnder key value pairs = pairs ++ [(key, value)] := by
  induction pairs with
  | nil => rfl
  | cons p ps ih =>
    rw [List.map_cons, List.mem_cons, not_or] at h
    rw [fileUnder, if_neg (by simpa using Ne.symm h.1), ih h.2, List.cons_append]

/-- Filing adds no key a second time. -/
theorem nodup_fileUnder {key : κ} {value : α} {pairs : List (κ × α)}
    (h : (pairs.map Prod.fst).Nodup) : ((fileUnder key value pairs).map Prod.fst).Nodup := by
  by_cases hkey : key ∈ pairs.map Prod.fst
  · rwa [keys_fileUnder_of_mem hkey]
  · rw [fileUnder_of_not_mem hkey, List.map_append]
    exact h.append (List.nodup_singleton key) (List.disjoint_singleton.mpr hkey)

/-- Where keys are distinct, what is filed under one is what stands beside it. -/
theorem filed?_eq_some_iff {pairs : List (κ × α)} (h : (pairs.map Prod.fst).Nodup) {key : κ}
    {value : α} : filed? key pairs = some value ↔ (key, value) ∈ pairs := by
  rw [filed?, Option.map_eq_some_iff]
  constructor
  · rintro ⟨⟨k, v⟩, hfind, rfl⟩
    have hkey : k = key := by simpa using List.find?_some hfind
    exact hkey ▸ List.mem_of_find?_eq_some hfind
  · intro hmem
    cases hfind : pairs.find? fun p => p.1 == key with
    | none => exact absurd BEq.rfl (List.find?_eq_none.mp hfind _ hmem)
    | some p =>
      have hkey : p.1 = key := by simpa using List.find?_some hfind
      have hsame : p = (key, value) :=
        List.inj_on_of_nodup_map h (List.mem_of_find?_eq_some hfind) hmem hkey
      exact ⟨p, rfl, congrArg Prod.snd hsame⟩

/-- Where keys are distinct, it does not matter from which end one looks. -/
theorem filed?_reverse {pairs : List (κ × α)} (h : (pairs.map Prod.fst).Nodup) (key : κ) :
    filed? key pairs.reverse = filed? key pairs := by
  have h' : (pairs.reverse.map Prod.fst).Nodup := by rwa [List.map_reverse, List.nodup_reverse]
  refine Option.ext fun value => ?_
  rw [filed?_eq_some_iff h', filed?_eq_some_iff h, List.mem_reverse]

/-- Filing pairs one after the other keeps the last of each key. -/
theorem filed?_foldl_fileUnder (key : κ) (pairs filed : List (κ × α)) :
    filed? key (pairs.foldl (fun merged p => fileUnder p.1 p.2 merged) filed)
      = (filed? key pairs.reverse).or (filed? key filed) := by
  induction pairs using List.reverseRecOn with
  | nil => rfl
  | append_singleton pairs p ih =>
    rw [List.foldl_append, List.foldl_cons, List.foldl_nil, filed?_fileUnder, ih,
      List.reverse_append, List.reverse_singleton, List.singleton_append]
    by_cases h : p.1 = key <;> simp [filed?, h]

theorem nodup_foldl_fileUnder (pairs : List (κ × α)) {filed : List (κ × α)}
    (h : (filed.map Prod.fst).Nodup) :
    ((pairs.foldl (fun merged p => fileUnder p.1 p.2 merged) filed).map Prod.fst).Nodup := by
  induction pairs generalizing filed with
  | nil => exact h
  | cons p ps ih => exact ih (nodup_fileUnder h)

/-- The pairs that have a value. -/
def valued (pairs : List (κ × Option α)) : List (κ × α) :=
  pairs.filterMap fun p => p.2.map fun value => (p.1, value)

omit [BEq κ] [LawfulBEq κ] in
theorem mem_valued {pairs : List (κ × Option α)} {key : κ} {value : α} :
    (key, value) ∈ valued pairs ↔ (key, some value) ∈ pairs := by
  rw [valued, List.mem_filterMap]
  constructor
  · rintro ⟨⟨k, v⟩, hmem, heq⟩
    obtain ⟨value', rfl, heq⟩ := Option.map_eq_some_iff.mp heq
    cases heq
    exact hmem
  · intro hmem
    exact ⟨(key, some value), hmem, rfl⟩

omit [BEq κ] [LawfulBEq κ] in
theorem nodup_valued {pairs : List (κ × Option α)} (h : (pairs.map Prod.fst).Nodup) :
    ((valued pairs).map Prod.fst).Nodup := by
  refine h.sublist ?_
  clear h
  induction pairs with
  | nil => exact .slnil
  | cons p ps ih =>
    obtain ⟨key, value⟩ := p
    cases value with
    | none => exact ih.cons key
    | some value => exact ih.cons_cons key

/-- What is filed among the pairs that have a value. -/
theorem filed?_valued {pairs : List (κ × Option α)} (h : (pairs.map Prod.fst).Nodup) (key : κ) :
    filed? key (valued pairs) = (filed? key pairs).join := by
  refine Option.ext fun value => ?_
  rw [filed?_eq_some_iff (nodup_valued h), mem_valued, Option.join_eq_some_iff,
    filed?_eq_some_iff h]

/-- What is filed under the keys of a list, each with its own value. -/
theorem filed?_map (f : κ → α) (keys : List κ) (key : κ) :
    filed? key (keys.map fun k => (k, f k)) = if keys.contains key then some (f key) else none := by
  induction keys with
  | nil => rfl
  | cons k ks ih =>
    by_cases hk : k = key
    · simp [filed?, hk]
    · have hk' : (key == k) = false := by simpa using Ne.symm hk
      simpa [filed?, hk, hk', List.contains_cons] using ih

theorem isSome_filed? {key : κ} {pairs : List (κ × α)} :
    (filed? key pairs).isSome = true ↔ key ∈ pairs.map Prod.fst := by
  rw [filed?, Option.isSome_map, List.find?_isSome]
  simp

end Filing

/-! ## 2. Attaching -/

/-- A text is attached to the table if there is one, else the table keeps the one that it has. -/
theorem TableMetadata.documentation_document (m : TableMetadata) (doc : TableDocumentation) :
    (m.document doc).documentation = doc.table.or m.documentation := by
  rw [document]
  cases doc.table <;> rfl

/-- A text is attached to a column if there is one, else the column keeps the one that it has. -/
theorem TableMetadata.documentationOf?_document (m : TableMetadata) (doc : TableDocumentation)
    (column : String) :
    (m.document doc).documentationOf? column
      = (filed? column doc.columns.reverse).or (m.documentationOf? column) := by
  have hnodup : ((mergePairs m.columnDocumentation doc.columns).map Prod.fst).Nodup :=
    nodup_foldl_fileUnder _ List.nodup_nil
  change filed? column (mergePairs m.columnDocumentation doc.columns).reverse = _
  rw [filed?_reverse hnodup, mergePairs, filed?_foldl_fileUnder, List.reverse_append]
  change (filed? column (_ ++ _)).or none = _
  rw [Option.or_none, filed?, List.find?_append, Option.map_or]
  rfl

/-! ## 3. Collecting -/

namespace CommentOn

/-- The comment is on a table. -/
def onTable (c : CommentOn) : Bool := c.objectKind == "TABLE"

/-- The comment is on a column of the name. -/
def onColumn (column : String) (c : CommentOn) : Bool :=
  c.objectKind == "COLUMN" && c.column == some column

/-- The comment is on a table or on a column. -/
def documents (c : CommentOn) : Bool := c.onTable || (c.objectKind == "COLUMN" && c.column.isSome)

variable {s : CommentOn} {column : String}

theorem onColumn_iff : s.onColumn column = true ↔ s.objectKind = "COLUMN" ∧ s.column = some column := by
  simp [onColumn]

theorem onTable_of_onColumn (h : s.onColumn column = true) : s.onTable = false := by
  simp [onTable, (onColumn_iff.mp h).1]

theorem onColumn_of_onTable (h : s.onTable = true) (column : String) : s.onColumn column = false := by
  simp only [onTable, beq_iff_eq] at h
  simp [onColumn, h]

theorem documents_of_onTable (h : s.onTable = true) : s.documents = true := by
  rw [documents, h, Bool.true_or]

theorem documents_of_onColumn (h : s.onColumn column = true) : s.documents = true := by
  simp [documents, (onColumn_iff.mp h).1, (onColumn_iff.mp h).2]

/-- A comment is on a table, on a column, or on something else. -/
theorem cases (s : CommentOn) :
    s.onTable = true ∨ (∃ column, s.onColumn column = true) ∨ s.documents = false := by
  by_cases htable : s.onTable = true
  · exact Or.inl htable
  · cases hdocuments : s.documents with
    | false => exact Or.inr (Or.inr rfl)
    | true =>
      simp only [documents, htable, Bool.false_or, Bool.and_eq_true, beq_iff_eq] at hdocuments
      obtain ⟨column, hcolumn⟩ := Option.isSome_iff_exists.mp hdocuments.2
      exact Or.inr (Or.inl ⟨column, onColumn_iff.mpr ⟨hdocuments.1, hcolumn⟩⟩)

end CommentOn

namespace Comments

variable {s : CommentOn}

theorem add_of_onTable (c : Comments) (h : s.onTable = true) :
    c.add s = { c with tables := fileUnder s.target s.text c.tables } := by
  rw [CommentOn.onTable] at h
  rw [add, if_pos h]

theorem add_of_onColumn (c : Comments) {column : String} (h : s.onColumn column = true) :
    c.add s =
      { c with
        columns := fileUnder s.target
          (fileUnder column s.text ((filed? s.target c.columns).getD [])) c.columns } := by
  obtain ⟨hkind, hcolumn⟩ := CommentOn.onColumn_iff.mp h
  simp [add, hkind, hcolumn]

theorem add_of_not_documents (c : Comments) (h : s.documents = false) : c.add s = c := by
  obtain ⟨htable, hcolumn⟩ := Bool.or_eq_false_iff.mp h
  rw [add, if_neg (Bool.not_eq_true _ ▸ htable)]
  split
  · rename_i column hkind hsome
    rw [hkind, hsome] at hcolumn
    cases hcolumn
  · rfl

/-- The text filed for a column under a name. -/
def column? (c : Comments) (n : ObjectName) (column : String) : Option (Option String) :=
  (filed? n c.columns).bind (filed? column)

/-- Something is filed under a name. -/
def mentions (c : Comments) (n : ObjectName) : Bool :=
  (filed? n c.tables).isSome || (filed? n c.columns).isSome

/-- Under each name the columns that are commented on are distinct. -/
def DistinctColumns (c : Comments) : Prop :=
  ∀ n pairs, filed? n c.columns = some pairs → (pairs.map Prod.fst).Nodup

theorem table?_add (c : Comments) (s : CommentOn) (n : ObjectName) :
    filed? n (c.add s).tables
      = if s.onTable && s.target == n then some s.text else filed? n c.tables := by
  rcases s.cases with htable | ⟨column, hcolumn⟩ | hother
  · rw [add_of_onTable c htable, filed?_fileUnder, htable, Bool.true_and]
  · rw [add_of_onColumn c hcolumn, CommentOn.onTable_of_onColumn hcolumn]
    rfl
  · rw [add_of_not_documents c hother, (Bool.or_eq_false_iff.mp hother).1]
    rfl

theorem column?_add (c : Comments) (s : CommentOn) (n : ObjectName) (column : String) :
    (c.add s).column? n column
      = if s.onColumn column && s.target == n then some s.text else c.column? n column := by
  rcases s.cases with htable | ⟨other, hother⟩ | hneither
  · rw [add_of_onTable c htable, CommentOn.onColumn_of_onTable htable]
    rfl
  · rw [add_of_onColumn c hother, column?, filed?_fileUnder, column?]
    obtain ⟨hkind, hcolumn⟩ := CommentOn.onColumn_iff.mp hother
    by_cases hn : s.target = n
    · subst hn
      rw [if_pos BEq.rfl, Option.bind_some, filed?_fileUnder]
      cases filed? s.target c.columns <;> simp [CommentOn.onColumn, hkind, hcolumn, filed?]
    · simp [hn]
  · rw [add_of_not_documents c hneither]
    by_cases hcolumn : s.onColumn column = true
    · rw [CommentOn.documents_of_onColumn hcolumn] at hneither
      cases hneither
    · simp [hcolumn]

theorem mentions_add (c : Comments) (s : CommentOn) (n : ObjectName) :
    (c.add s).mentions n = (s.documents && s.target == n || c.mentions n) := by
  rcases s.cases with htable | ⟨column, hcolumn⟩ | hother
  · rw [add_of_onTable c htable, mentions, filed?_fileUnder, CommentOn.documents, htable, mentions]
    by_cases hn : s.target = n <;> simp [hn]
  · rw [add_of_onColumn c hcolumn, mentions, filed?_fileUnder,
      CommentOn.documents_of_onColumn hcolumn, mentions]
    by_cases hn : s.target = n <;> simp [hn]
  · rw [add_of_not_documents c hother, hother, Bool.false_and, Bool.false_or]

theorem distinctColumns_add {c : Comments} (hc : c.DistinctColumns) (s : CommentOn) :
    (c.add s).DistinctColumns := by
  rcases s.cases with htable | ⟨column, hcolumn⟩ | hother
  · rw [add_of_onTable c htable]
    exact hc
  · rw [add_of_onColumn c hcolumn]
    intro n pairs hpairs
    rw [filed?_fileUnder] at hpairs
    split at hpairs
    · cases hpairs
      refine nodup_fileUnder ?_
      cases hothers : filed? s.target c.columns with
      | none => exact List.nodup_nil
      | some others => exact hc s.target others hothers
    · exact hc n pairs hpairs
  · rwa [add_of_not_documents c hother]

end Comments

/-! ## 4. All comments -/

/-- The comment that a statement is. -/
def Statement.comment? : Statement → Option CommentOn
  | commentOn s => some s
  | _ => none

/-- The last comment that satisfies `p`. -/
def lastComment? (p : CommentOn → Bool) (comments : List CommentOn) : Option CommentOn :=
  (comments.filter p).getLast?

/-- The text of the last comment among statements that satisfies `p`: none if there is no such
comment, or if it removes one. -/
def lastText (p : CommentOn → Bool) (statements : List Statement) : Option String :=
  (lastComment? p (statements.filterMap Statement.comment?)).bind (·.text)

/-- There are comments on the table of a name, or on its columns, that are written with the name. -/
def IsCommentedOn (statements : List Statement) (n : ObjectName) : Prop :=
  ∃ c ∈ statements.filterMap Statement.comment?, c.documents = true ∧ c.target = n

instance (statements : List Statement) (n : ObjectName) : Decidable (IsCommentedOn statements n) :=
  inferInstanceAs (Decidable (∃ c ∈ statements.filterMap Statement.comment?, _))

theorem lastComment?_append_singleton (p : CommentOn → Bool) (cs : List CommentOn) (c : CommentOn) :
    lastComment? p (cs ++ [c]) = if p c then some c else lastComment? p cs := by
  rw [lastComment?, List.filter_append, List.getLast?_append]
  by_cases h : p c = true
  · rw [List.filter_cons_of_pos h, if_pos h]
    rfl
  · rw [List.filter_cons_of_neg h, if_neg h]
    rfl

theorem lastText_eq_none {p : CommentOn → Bool} {statements : List Statement}
    (h : ∀ c ∈ statements.filterMap Statement.comment?, p c = false) :
    lastText p statements = none := by
  rw [lastText, lastComment?, List.filter_eq_nil_iff.mpr fun c hc => Bool.not_eq_true _ ▸ h c hc]
  rfl

theorem lastText_congr {p q : CommentOn → Bool} {statements : List Statement}
    (h : ∀ c ∈ statements.filterMap Statement.comment?, p c = q c) :
    lastText p statements = lastText q statements := by
  rw [lastText, lastText, lastComment?, lastComment?, List.filter_congr h]

namespace Comments

theorem ofStatements_eq (statements : List Statement) :
    ofStatements statements = (statements.filterMap Statement.comment?).foldl add {} := by
  rw [ofStatements, List.foldl_filterMap]
  congr 1
  funext c s
  cases s <;> rfl

theorem table?_ofStatements (statements : List Statement) (n : ObjectName) :
    (filed? n (ofStatements statements).tables).join
      = lastText (fun c => c.onTable && c.target == n) statements := by
  rw [ofStatements_eq, lastText]
  induction statements.filterMap Statement.comment? using List.reverseRecOn with
  | nil => rfl
  | append_singleton cs c ih =>
    rw [List.foldl_append, List.foldl_cons, List.foldl_nil, table?_add,
      lastComment?_append_singleton]
    split
    · rfl
    · exact ih

theorem column?_ofStatements (statements : List Statement) (n : ObjectName) (column : String) :
    ((ofStatements statements).column? n column).join
      = lastText (fun c => c.onColumn column && c.target == n) statements := by
  rw [ofStatements_eq, lastText]
  induction statements.filterMap Statement.comment? using List.reverseRecOn with
  | nil => rfl
  | append_singleton cs c ih =>
    rw [List.foldl_append, List.foldl_cons, List.foldl_nil, column?_add,
      lastComment?_append_singleton]
    split
    · rfl
    · exact ih

theorem mentions_ofStatements (statements : List Statement) (n : ObjectName) :
    (ofStatements statements).mentions n = true ↔ IsCommentedOn statements n := by
  rw [ofStatements_eq, IsCommentedOn]
  induction statements.filterMap Statement.comment? using List.reverseRecOn with
  | nil => simp [mentions, filed?]
  | append_singleton cs c ih =>
    rw [List.foldl_append, List.foldl_cons, List.foldl_nil, mentions_add, Bool.or_eq_true, ih,
      Bool.and_eq_true, beq_iff_eq]
    simp [or_and_right, exists_or, or_comm]

theorem distinctColumns_ofStatements (statements : List Statement) :
    (ofStatements statements).DistinctColumns := by
  rw [ofStatements_eq]
  induction statements.filterMap Statement.comment? using List.reverseRecOn with
  | nil => intro n pairs h; cases h
  | append_singleton cs c ih =>
    rw [List.foldl_append, List.foldl_cons, List.foldl_nil]
    exact distinctColumns_add ih c

/-- Comments that were removed are left out, the others keep their texts. -/
theorem columns_ofTable {c : Comments} (hc : c.DistinctColumns) (n : ObjectName) (column : String) :
    filed? column (c.ofTable n).columns.reverse = (c.column? n column).join := by
  cases hpairs : filed? n c.columns with
  | none =>
    rw [column?, ofTable, hpairs]
    rfl
  | some pairs =>
    have hcolumns : (c.ofTable n).columns = valued pairs := by
      rw [ofTable, hpairs]
      rfl
    have hnodup := hc n pairs hpairs
    rw [hcolumns, filed?_reverse (nodup_valued hnodup), filed?_valued hnodup, column?, hpairs,
      Option.bind_some]

theorem contains_keys (c : Comments) (n : ObjectName) : c.keys.contains n = c.mentions n := by
  rw [Bool.eq_iff_iff, List.contains_iff_mem, mentions, Bool.or_eq_true, isSome_filed?,
    isSome_filed?, keys, List.mem_append, List.mem_filter]
  by_cases h : n ∈ c.tables.map Prod.fst <;> simp [h]

end Comments

/-- The spelling of a table under which the comments on it are looked for: that of its key if there
are comments under it, else its alias. -/
def spellingOf (statements : List Statement) (key : TableKey) : ObjectName :=
  if IsCommentedOn statements key then key else key.alias?.getD key

theorem spellingOf_denoted (statements : List Statement) (key : TableKey) :
    (spellingOf statements key).denoted = key.denoted := by
  rw [spellingOf]
  split
  · rfl
  · cases halias : key.alias? with
    | none => rfl
    | some other => exact ObjectName.denoted_eq_iff.mpr (Or.inr halias)

theorem Documentation.filed?_ofStatements (statements : List Statement) (n : ObjectName) :
    filed? n (Documentation.ofStatements statements)
      = if IsCommentedOn statements n then some ((Comments.ofStatements statements).ofTable n)
        else none := by
  rw [ofStatements, filed?_map]
  exact if_congr (by rw [Comments.contains_keys, Comments.mentions_ofStatements]) rfl rfl

/-- The comments on a table are those under one spelling of it. -/
theorem Documentation.ofTable?_ofStatements (statements : List Statement) (key : TableKey) :
    (Documentation.ofStatements statements).ofTable? key
      = if IsCommentedOn statements (spellingOf statements key) then
          some ((Comments.ofStatements statements).ofTable (spellingOf statements key))
        else none := by
  rw [ofTable?, filed?_ofStatements, spellingOf]
  by_cases hkey : IsCommentedOn statements key
  · simp only [if_pos hkey]
  · simp only [if_neg hkey]
    cases halias : key.alias? with
    | none => simp [hkey]
    | some other => simp [filed?_ofStatements]

/-! ## 5. Documented catalogs -/

/-- The metadata of a table have no comments. -/
def TableMetadata.Undocumented (m : TableMetadata) : Prop :=
  m.documentation = none ∧ m.columnDocumentation = []

instance (m : TableMetadata) : Decidable m.Undocumented := inferInstanceAs (Decidable (_ ∧ _))

/-- A table and its columns have the texts of the last comments on them, of those with a target that
satisfies `p`. -/
structure TableMetadata.DocumentedBy (m : TableMetadata) (statements : List Statement)
    (p : ObjectName → Bool) : Prop where
  table : m.documentation = lastText (fun c => c.onTable && p c.target) statements
  columns : ∀ column, m.documentationOf? column
    = lastText (fun c => c.onColumn column && p c.target) statements

/-- What is asked of the targets matters for comments on tables and columns only. -/
theorem TableMetadata.DocumentedBy.congr {m : TableMetadata} {statements : List Statement}
    {p q : ObjectName → Bool} (hm : m.DocumentedBy statements p)
    (h : ∀ c ∈ statements.filterMap Statement.comment?, c.documents = true →
      p c.target = q c.target) : m.DocumentedBy statements q where
  table := by
    rw [hm.table]
    refine lastText_congr fun c hc => ?_
    cases htable : c.onTable with
    | false => rfl
    | true => rw [h c hc (CommentOn.documents_of_onTable htable)]
  columns column := by
    rw [hm.columns]
    refine lastText_congr fun c hc => ?_
    cases hcolumn : c.onColumn column with
    | false => rfl
    | true => rw [h c hc (CommentOn.documents_of_onColumn hcolumn)]

theorem TableMetadata.Undocumented.documentationOf?_eq_none {m : TableMetadata}
    (h : m.Undocumented) (column : String) : m.documentationOf? column = none := by
  rw [documentationOf?, h.2]
  rfl

/-- Where there are no comments, these are the last ones on nothing. -/
theorem TableMetadata.Undocumented.documentedBy {m : TableMetadata} (h : m.Undocumented)
    (statements : List Statement) : m.DocumentedBy statements fun _ => false where
  table := by
    rw [h.1, lastText_eq_none]
    simp
  columns column := by
    rw [h.documentationOf?_eq_none, lastText_eq_none]
    simp

/-- All comments on a table and its columns are written with one spelling of the table. -/
def SpelledOnce (statements : List Statement) (key : TableKey) : Prop :=
  ∀ n n', IsCommentedOn statements n → IsCommentedOn statements n' →
    n.denoted = key.denoted → n'.denoted = key.denoted → n = n'

/-- An entry with the comments on its table. -/
def TableEntry.document (e : TableEntry) (docs : Documentation) : TableEntry :=
  match docs.ofTable? e.key with
  | some doc => { e with metadata := e.metadata.document doc }
  | none => e

theorem TableEntry.key_document (e : TableEntry) (docs : Documentation) :
    (e.document docs).key = e.key := by
  rw [document]
  split <;> rfl

/-- In the documented catalog a table is found where it was. -/
theorem Catalog.entry?_document (c : Catalog) (docs : Documentation) (key : TableKey) :
    Catalog.entry? (c.document docs) key = (c.entry? key).map (·.document docs) := by
  let sortKey (e : TableEntry) : TableSortKey := e.key.sortKey
  have hkeys (e : TableEntry) : sortKey (e.document docs) = sortKey e :=
    congrArg ObjectName.sortKey (e.key_document docs)
  change sortedFind? sortKey tableBefore key.sortKey (c.entries.map (·.document docs))
    = (sortedFind? sortKey tableBefore key.sortKey c.entries).map _
  exact sortedFind?_map hkeys key.sortKey c.entries

/-- The comments attached to a table without any are the last ones under one spelling of it. -/
theorem TableEntry.documentedBy_document {e : TableEntry} (he : e.metadata.Undocumented)
    (statements : List Statement) :
    (e.document (Documentation.ofStatements statements)).metadata.DocumentedBy statements
      (· == spellingOf statements e.key) := by
  rw [document, Documentation.ofTable?_ofStatements]
  by_cases hcommented : IsCommentedOn statements (spellingOf statements e.key)
  · rw [if_pos hcommented]
    constructor
    · rw [← Comments.table?_ofStatements]
      exact (TableMetadata.documentation_document ..).trans (by rw [he.1, Option.or_none]; rfl)
    · intro column
      rw [← Comments.column?_ofStatements, TableMetadata.documentationOf?_document,
        he.documentationOf?_eq_none, Option.or_none,
        Comments.columns_ofTable (Comments.distinctColumns_ofStatements statements)]
  · rw [if_neg hcommented]
    refine (he.documentedBy statements).congr fun c hc hdocuments => ?_
    exact (beq_eq_false_iff_ne.mpr fun htarget => hcommented ⟨c, hc, hdocuments, htarget⟩).symm

theorem SpelledOnce.eq_spellingOf {statements : List Statement} {key : TableKey}
    (h : SpelledOnce statements key) {n : ObjectName} (hn : IsCommentedOn statements n)
    (hdenoted : n.denoted = key.denoted) : n = spellingOf statements key := by
  rw [spellingOf]
  split
  · rename_i hkey
    exact h n key hn hkey hdenoted rfl
  · rename_i hkey
    rcases ObjectName.denoted_eq_iff.mp hdenoted with rfl | halias
    · exact absurd hn hkey
    · rw [halias, Option.getD_some]

/-- Where all comments on a table are written with one spelling of it, the last ones under that
spelling are the last ones on the table. -/
theorem TableMetadata.DocumentedBy.of_spelledOnce {m : TableMetadata} {statements : List Statement}
    {key : TableKey} (hm : m.DocumentedBy statements (· == spellingOf statements key))
    (h : SpelledOnce statements key) :
    m.DocumentedBy statements fun n => n.denoted == key.denoted := by
  refine hm.congr fun c hc hdocuments => ?_
  rw [Bool.eq_iff_iff, beq_iff_eq, beq_iff_eq]
  constructor
  · intro heq
    rw [heq, spellingOf_denoted]
  · exact h.eq_spellingOf ⟨c, hc, hdocuments, rfl⟩

namespace Builder

variable {b : Builder}

/-- The documented catalog has metadata for every table of the builder, with the last comments under
one spelling of the table. -/
theorem exists_metadata_document (hb : b.DistinctTables)
    (hnew : ∀ e ∈ b.entries, e.metadata.Undocumented) (statements : List Statement) {t : Table}
    (ht : t ∈ b.tables) :
    ∃ m, (b.freeze.document (Documentation.ofStatements statements)).view.metadata t = .ok m
      ∧ m.DocumentedBy statements (· == spellingOf statements t.key) := by
  obtain ⟨e, he, rfl⟩ := List.mem_map.mp ht
  let documented := b.freeze.document (Documentation.ofStatements statements)
  have hfound : documented.view.entry? e.table.key
      = some (e.document (Documentation.ofStatements statements)) := by
    change Catalog.entry? _ e.key = _
    rw [Catalog.entry?_document, entry?_freeze, entry?_of_mem hb.nodup_keys he, Option.map_some]
  refine ⟨_, ?_, TableEntry.documentedBy_document (hnew e he) statements⟩
  rw [CatalogView.metadata, hfound]

/-- When comments are attached to a catalog of distinct tables without any, each table and each
column has the text of the last comment on it, of those under one spelling of the table: that of its
key if there are comments on the table or its columns under it, else the other one. If all comments
on the table and its columns are under one spelling, these are the last comments however it is
spelled. -/
theorem document_last_comments (hb : b.DistinctTables)
    (hnew : ∀ e ∈ b.entries, e.metadata.Undocumented) (statements : List Statement) {t : Table}
    (ht : t ∈ b.tables) :
    ∃ m, (b.freeze.document (Documentation.ofStatements statements)).view.metadata t = .ok m
      ∧ m.DocumentedBy statements (· == spellingOf statements t.key)
      ∧ (SpelledOnce statements t.key →
          m.DocumentedBy statements fun n => n.denoted == t.key.denoted) := by
  obtain ⟨m, hm, hdocumented⟩ := exists_metadata_document hb hnew statements ht
  exact ⟨m, hm, hdocumented, hdocumented.of_spelledOnce⟩

/-- A table that was declared without its schema has comments under the name with the schema only, the
last of which removes that on the column. -/
theorem document_last_comments_of_alias :
    let b := (initial "shop").run
      [.createTable { name := ⟨"t", none⟩, columns := [{ name := "x", dataType := "int" }] }]
    let t : Table := { name := "t" }
    let target : ObjectName := ⟨"t", some "public"⟩
    let statements : List Statement :=
      [.commentOn { objectKind := "TABLE", target, text := some "a" },
        .commentOn { objectKind := "COLUMN", target, column := some "x", text := some "b" },
        .commentOn { objectKind := "TABLE", target, text := some "c" },
        .commentOn { objectKind := "COLUMN", target, column := some "x" }]
    b.DistinctTables ∧ (∀ e ∈ b.entries, e.metadata.Undocumented) ∧ t ∈ b.tables
      ∧ SpelledOnce statements t.key
      ∧ ∃ m, (b.freeze.document (Documentation.ofStatements statements)).view.metadata t = .ok m
        ∧ m.documentation = some "c" ∧ m.documentationOf? "x" = none := by
  intro b t target statements
  have hdistinct : b.DistinctTables := by decide +kernel
  have hnew : ∀ e ∈ b.entries, e.metadata.Undocumented := by decide +kernel
  have ht : t ∈ b.tables := by decide +kernel
  have htargets : ∀ c ∈ statements.filterMap Statement.comment?, c.target = target := by decide
  have honce : SpelledOnce statements t.key := by
    rintro n n' ⟨c, hc, -, rfl⟩ ⟨c', hc', -, rfl⟩ - -
    rw [htargets c hc, htargets c' hc']
  obtain ⟨m, hm, -, hlast⟩ := document_last_comments hdistinct hnew statements ht
  refine ⟨hdistinct, hnew, ht, honce, m, hm, ?_, ?_⟩
  · exact (hlast honce).table.trans (by decide +kernel)
  · exact ((hlast honce).columns "x").trans (by decide +kernel)

/-- A later comment on a table is overlooked if an earlier one is written as the table was declared
and it is not. -/
theorem later_comment_overlooked :
    ¬ ∀ (name : String) (declared comments : List Statement),
      (∀ s ∈ declared, s.Parsed) → (∀ s ∈ comments, s.Parsed) →
      ((initial name).run declared).DistinctTables →
      (∀ e ∈ ((initial name).run declared).entries, e.metadata.Undocumented) →
        ∀ t ∈ ((initial name).run declared).tables,
          ∃ m, (((initial name).run declared).freeze.document
              (Documentation.ofStatements comments)).view.metadata t = .ok m
            ∧ m.DocumentedBy comments fun n => n.denoted == t.key.denoted := by
  intro h
  let declared := Script.statements "CREATE TABLE t (x int)"
  let comments := Script.statements
    "COMMENT ON TABLE t IS 'a'; COMMENT ON TABLE public.t IS 'b'"
  let t : Table := { name := "t" }
  obtain ⟨hdistinct, hnew, ht⟩ : ((initial "shop").run declared).DistinctTables
      ∧ (∀ e ∈ ((initial "shop").run declared).entries, e.metadata.Undocumented)
      ∧ t ∈ ((initial "shop").run declared).tables := by decide +kernel
  have hdiffer : lastText (fun c => c.onTable && c.target == spellingOf comments t.key) comments
      ≠ lastText (fun c => c.onTable && c.target.denoted == t.key.denoted) comments := by
    decide +kernel
  obtain ⟨m, hm, hlast⟩ := h "shop" declared comments (fun _ => Statement.Parsed.of_text)
    (fun _ => Statement.Parsed.of_text) hdistinct hnew t ht
  obtain ⟨m', hm', hspelled⟩ := exists_metadata_document hdistinct hnew comments ht
  obtain rfl : m = m' := Except.ok.inj (hm.symm.trans hm')
  exact hdiffer (hspelled.table.symm.trans hlast.table)

end Builder

end SchemaCatalog
