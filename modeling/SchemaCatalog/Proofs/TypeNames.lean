import SchemaCatalog.Check.Classification
import SchemaCatalog.Proofs.Folding

/-!
# Spellings of data types

Two spellings of a type are one type to the catalog if they have one canonical spelling. Most of
what decides whether a type is a text is forgotten in it: whatever `isTextual` reads of a spelling
it reads of the canonical one as well, the schema of the built-in types apart, which `normalize`
takes off a name and `isTextual` does not (`isTextual_eq_iff`). With that exception types of one
canonical spelling are interchangeable in every check on the length of a text
(`texts_respect_spellings`).

A known type and an unknown one never have the same canonical spelling. That is since a canonical
spelling, array marks after it or not, is itself a spelling of a known type, the same one
(`base_normalize`), and since an unknown type is spelled as it was written, blanks around it aside,
to which `base` is blind (`base_strip`).
-/

namespace SchemaCatalog

namespace DataType

open Text

/-! ## 1. Base names -/

/-- The base of a type does not depend on the blanks around it. -/
theorem base_strip (t : String) : base (strip t) = base t := by
  rw [base, base, foldBlanks_strip]

/-- So many array marks. -/
def marks (n : Nat) : List Char := (List.replicate n ['[', ']']).flatten

theorem marks_succ (n : Nat) : marks (n + 1) = marks n ++ ['[', ']'] := by
  simp [marks, List.replicate_succ']

theorem not_blank_of_mem_marks {n : Nat} {c : Char} (h : c ∈ marks n) : isBlank c = false := by
  obtain ⟨mark, hmark, hc⟩ := List.mem_flatten.mp h
  rw [List.eq_of_mem_replicate hmark] at hc
  rcases (by simpa using hc : c = '[' ∨ c = ']') with rfl | rfl
  · rfl
  · rfl

theorem toList_join_marks (n : Nat) : (String.join (List.replicate n "[]")).toList = marks n := by
  rw [String.toList_join, List.flatMap, List.map_replicate]
  rfl

/-- What comes before array marks stays, if it ends in none itself. -/
theorem dropBrackets_marks {rest : List Char} (hblank : dropBlanks rest = rest)
    (hrest : rest.head? ≠ some ']') (n count : Nat) :
    dropBrackets count ((marks n).reverse ++ rest) = (rest, count + n) := by
  induction n generalizing count with
  | zero =>
    refine dropBrackets.eq_2 count rest fun cs hcs => hrest ?_
    rw [hcs]
    rfl
  | succ n ih =>
    have hstay : dropBlanks ((marks n).reverse ++ rest) = (marks n).reverse ++ rest := by
      cases n with
      | zero => exact hblank
      | succ n => simp [marks_succ, dropBlanks, isBlank]
    have hstep : dropBrackets count ((marks (n + 1)).reverse ++ rest)
        = dropBrackets (count + 1) ((marks n).reverse ++ rest) := by
      rw [marks_succ, List.reverse_append]
      change dropBrackets count (']' :: '[' :: ((marks n).reverse ++ rest)) = _
      rw [dropBrackets.eq_1, hstay]
    rw [hstep, ih, Nat.add_right_comm, Nat.add_assoc]

/-- The name stands for itself: it is words parted by single spaces, without parentheses, and ends
neither in an array mark nor in the word for arrays. -/
structure IsPlain (name : String) : Prop where
  folded : Text.folded true name.toList = true
  unmarked : name.toList.reverse.head? ≠ some ']'
  noModifier : '(' ∉ name.toList
  noArray : (upper name).endsWith arrayWord = false

theorem dropModifiers_of_not_mem {cs : List Char} (h : '(' ∉ cs) : dropModifiers cs = cs := by
  induction cs with
  | nil => rw [dropModifiers.eq_def]
  | cons c cs ih =>
    have hnone : afterModifier? (dropBlanks (c :: cs)) = none := by
      unfold afterModifier?
      split
      · rename_i rest heq
        have hmem : '(' ∈ dropBlanks (c :: cs) := heq ▸ List.mem_cons_self
        exact absurd ((List.dropWhile_sublist isBlank).subset hmem) h
      · rfl
    rw [dropModifiers.eq_def]
    simp only [hnone, ih fun hmem => h (List.mem_cons_of_mem c hmem)]

/-- The base of a plain name with array marks is the name, with so many marks. -/
theorem IsPlain.base_marks {name : String} (h : IsPlain name) (n : Nat) :
    base (name ++ String.join (List.replicate n "[]")) = (name, n) := by
  have hfolded : Text.folded true (name ++ String.join (List.replicate n "[]")).toList = true := by
    rw [String.toList_append, toList_join_marks]
    exact folded_append h.folded fun c => not_blank_of_mem_marks
  have hblank : dropBlanks name.toList.reverse = name.toList.reverse := by
    exact List.reverse_eq_iff.mp (dropBlanksRight_of_folded h.folded)
  have hbrackets : dropBrackets 0 (name ++ String.join (List.replicate n "[]")).toList.reverse
      = (name.toList.reverse, n) := by
    rw [String.toList_append, toList_join_marks, List.reverse_append,
      dropBrackets_marks hblank h.unmarked, Nat.zero_add]
  have hstrip : stripChars (dropModifiers name.toList) = name.toList := by
    rw [dropModifiers_of_not_mem h.noModifier, stripChars, dropBlanks_of_folded h.folded,
      dropBlanksRight_of_folded h.folded]
  simp only [base, foldBlanks_of_folded hfolded, hbrackets, List.reverse_reverse,
    String.ofList_toList, h.noArray, Bool.false_eq_true, if_false, hstrip]

/-! ## 2. Canonical spellings -/

/-- The canonical spelling of the base of a type, if the base is known. -/
def known? (t : String) : Option String := canonical? (dropBuiltinSchema (baseKey (base t).1))

/-- The base of the type is written with the schema of the built-in types. -/
def isQualified (t : String) : Bool := (baseKey (base t).1).startsWith builtinSchema

theorem known?_strip (t : String) : known? (strip t) = known? t := by
  rw [known?, known?, base_strip]

theorem isTextual_strip (t : String) : isTextual (strip t) = isTextual t := by
  unfold isTextual
  rw [base_strip]

theorem normalize_of_known {t c : String} (h : known? t = some c) :
    normalize t = c ++ String.join (List.replicate (base t).2 "[]") := by
  unfold known? at h
  unfold normalize
  generalize base t = b at *
  simp only [h]

theorem normalize_of_unknown {t : String} (h : known? t = none) : normalize t = strip t := by
  unfold known? at h
  unfold normalize
  generalize base t = b at *
  simp only [h]

theorem exists_of_canonical? {key c : String} (h : canonical? key = some c) :
    (key, c) ∈ canonicalSpellings := by
  obtain ⟨entry, hfind, rfl⟩ := Option.map_eq_some_iff.mp h
  have hkey : entry.1 = key := by simpa using List.find?_some hfind
  exact hkey ▸ List.mem_of_find?_eq_some hfind

/-- Each canonical spelling is plain and its own canonical spelling. -/
theorem isPlain_of_mem : ∀ entry ∈ canonicalSpellings,
    IsPlain entry.2 ∧ canonical? (dropBuiltinSchema (baseKey entry.2)) = some entry.2 := by
  have hplain : ∀ entry ∈ canonicalSpellings, Text.folded true entry.2.toList = true
      ∧ entry.2.toList.reverse.head? ≠ some ']' ∧ '(' ∉ entry.2.toList
      ∧ (upper entry.2).endsWith arrayWord = false
      ∧ canonical? (dropBuiltinSchema (baseKey entry.2)) = some entry.2 := by
    decide +kernel
  intro entry hentry
  obtain ⟨hfolded, hunmarked, hmodifier, harray, hself⟩ := hplain entry hentry
  exact ⟨⟨hfolded, hunmarked, hmodifier, harray⟩, hself⟩

/-- The canonical spelling of a known type, with its array marks, is read as that type. -/
theorem base_normalize {t c : String} (h : known? t = some c) :
    base (normalize t) = (c, (base t).2) := by
  rw [normalize_of_known h]
  exact (isPlain_of_mem _ (exists_of_canonical? h)).1.base_marks (base t).2

theorem known?_normalize (t : String) : known? (normalize t) = known? t := by
  cases h : known? t with
  | none => rw [normalize_of_unknown h, known?_strip, h]
  | some c =>
    rw [known?, base_normalize h]
    exact (isPlain_of_mem _ (exists_of_canonical? h)).2

/-- Types of one canonical spelling are known alike, and as the same one. -/
theorem known?_eq_of_normalize {t u : String} (h : normalize t = normalize u) :
    known? t = known? u := by
  rw [← known?_normalize t, h, known?_normalize]

/-! ## 3. Texts -/

/-- The canonical spellings of the known texts. -/
def knownTexts : List String := ["TEXT", "VARCHAR", "CHAR"]

/-- A type is a text if its base, taken as it is written, is the name of one. -/
theorem isTextual_iff {t : String} : isTextual t = true ↔ (base t).2 = 0
    ∧ (canonical? (baseKey (base t).1)).getD (baseKey (base t).1) ∈ textualTypes := by
  unfold isTextual
  generalize base t = b
  simp

/-- The names of texts are without a schema, and those that are known have a spelling of their own
among the canonical ones. -/
theorem not_qualified_of_mem :
    (∀ entry ∈ canonicalSpellings, entry.1.startsWith builtinSchema = false)
      ∧ (∀ name ∈ textualTypes, name.startsWith builtinSchema = false)
      ∧ ∀ entry ∈ canonicalSpellings, entry.2 ∈ textualTypes ↔ entry.2 ∈ knownTexts := by
  decide +kernel

/-- A type that is written with the schema of the built-in types is taken for no text. -/
theorem isTextual_of_qualified {t : String} (h : isQualified t = true) : isTextual t = false := by
  obtain ⟨hkeys, htexts, -⟩ := not_qualified_of_mem
  rw [isQualified] at h
  rw [← Bool.not_eq_true, isTextual_iff]
  rintro ⟨-, hmem⟩
  cases hcanonical : canonical? (baseKey (base t).1) with
  | some c =>
    rw [hkeys _ (exists_of_canonical? hcanonical)] at h
    cases h
  | none =>
    rw [hcanonical, Option.getD_none] at hmem
    rw [htexts _ hmem] at h
    cases h

/-- A known type has a canonical spelling of a text if that of its base is one and it is no array. -/
theorem normalize_mem_knownTexts {t c : String} (h : known? t = some c) :
    normalize t ∈ knownTexts ↔ (base t).2 = 0 ∧ c ∈ knownTexts := by
  rw [normalize_of_known h]
  cases (base t).2 with
  | zero => simp [String.join]
  | succ n =>
    have hends : ']' ∈ (c ++ String.join (List.replicate (n + 1) "[]")).toList := by
      rw [String.toList_append, toList_join_marks, marks_succ]
      simp
    have htexts : ∀ text ∈ knownTexts, ']' ∉ text.toList := by decide
    constructor
    · intro hmem
      exact absurd hends (htexts _ hmem)
    · rintro ⟨hzero, -⟩
      cases hzero

theorem isTextual_of_known {t c : String} (h : known? t = some c) (hq : isQualified t = false) :
    isTextual t = true ↔ normalize t ∈ knownTexts := by
  obtain ⟨-, -, htexts⟩ := not_qualified_of_mem
  have hcanonical : canonical? (baseKey (base t).1) = some c := by
    unfold isQualified at hq
    unfold known? dropBuiltinSchema at h
    generalize base t = b at *
    simpa [hq] using h
  rw [isTextual_iff, normalize_mem_knownTexts h, hcanonical, Option.getD_some,
    htexts _ (exists_of_canonical? hcanonical)]

/-- What is canonically spelled like a known text is known. -/
theorem isSome_known?_of_mem {t : String} (h : normalize t ∈ knownTexts) :
    (known? t).isSome = true := by
  have htexts : ∀ text ∈ knownTexts, (known? text).isSome = true := by decide +kernel
  rw [← known?_normalize]
  exact htexts _ h

/-- Types of one canonical spelling are both texts or both none, except for a known text that only
one of them writes with the schema of the built-in types. -/
theorem isTextual_eq_iff {t u : String} (h : normalize t = normalize u) :
    isTextual t = isTextual u ↔ (normalize t ∈ knownTexts → isQualified t = isQualified u) := by
  have hknown : known? t = known? u := known?_eq_of_normalize h
  cases ht : known? t with
  | none =>
    have hstrip : strip t = strip u := by
      rw [← normalize_of_unknown ht, ← normalize_of_unknown (hknown ▸ ht), h]
    have hunknown : normalize t ∉ knownTexts := fun hmem => by
      simpa [ht] using isSome_known?_of_mem hmem
    rw [← isTextual_strip t, hstrip, isTextual_strip]
    simp [hunknown]
  | some c =>
    -- A known type is a text just when it is spelled like one and not qualified.
    have htext {t : String} (ht : known? t = some c) :
        isTextual t = (decide (normalize t ∈ knownTexts) && !isQualified t) := by
      cases hq : isQualified t with
      | true => simp [isTextual_of_qualified hq]
      | false => rw [Bool.eq_iff_iff, isTextual_of_known ht hq]; simp
    rw [htext ht, htext (hknown ▸ ht), h]
    by_cases hmem : normalize u ∈ knownTexts
    · simp [hmem]
    · simp [hmem]

end DataType

/-! ## 4. Checks -/

/-- The types of the columns are spelled otherwise, those of texts with the schema of the built-in
types as before or without it as before, and the table is the same to its checks. -/
structure TableMetadata.Respells (m m' : TableMetadata) : Prop where
  checks : m.checks = m'.checks
  columns : List.Forall₂ (fun c c' => c.name = c'.name
    ∧ DataType.normalize c.dataType = DataType.normalize c'.dataType
    ∧ (DataType.normalize c.dataType ∈ DataType.knownTexts →
      DataType.isQualified c.dataType = DataType.isQualified c'.dataType)) m.columns m'.columns

namespace TableMetadata.Respells

variable {m m' : TableMetadata}

theorem column?_isTextual (h : m.Respells m') (name : String) :
    (m.column? name).map Column.isTextual = (m'.column? name).map Column.isTextual := by
  have hcolumns := h.columns
  unfold column?
  generalize m.columns = columns at *
  generalize m'.columns = columns' at *
  induction hcolumns with
  | nil => rfl
  | cons hc _ ih =>
    obtain ⟨hname, htype, hqualified⟩ := hc
    rw [List.find?_cons, List.find?_cons, hname]
    split
    · exact congrArg some ((DataType.isTextual_eq_iff htype).mpr hqualified)
    · exact ih

theorem isText_eq (h : m.Respells m') (k : CheckConstraint) : k.isText m = k.isText m' := by
  funext name
  have hcolumn := h.column?_isTextual name
  unfold CheckConstraint.isText CheckConstraint.column?
  by_cases hname : k.columnNames.contains name = true
  · rw [if_pos hname, if_pos hname]
    cases hm : m.column? name <;> cases hm' : m'.column? name <;> simp_all
  · rw [if_neg hname, if_neg hname]

/-- The bound that the checks set together. The induction is on how many columns it may still be
looked for. -/
theorem lengthBound_eq (h : m.Respells m') (side : BoundSide) (unvisited : List String)
    (column : String) :
    m.lengthBound side unvisited column = m'.lengthBound side unvisited column := by
  induction hlength : unvisited.length generalizing unvisited column with
  | zero =>
    obtain rfl := List.eq_nil_of_length_eq_zero hlength
    rw [lengthBound, lengthBound, dif_neg List.not_mem_nil, dif_neg List.not_mem_nil]
  | succ n ih =>
    rw [lengthBound, lengthBound]
    split
    · rename_i hmem
      have hless : (unvisited.erase column).length = n := by
        rw [List.length_erase_of_mem hmem, hlength, Nat.add_sub_cancel]
      have hboundOf : m.lengthBound side (unvisited.erase column)
          = m'.lengthBound side (unvisited.erase column) :=
        funext fun other => ih (unvisited.erase column) other hless
      simp only [hboundOf, h.checks, h.isText_eq]
    · rfl

/-- A check sets the same bound. -/
theorem checkBound_eq (h : m.Respells m') (k : CheckConstraint) (side : BoundSide) :
    k.lengthBound m side = k.lengthBound m' side := by
  have hcolumns : k.boundColumns m = k.boundColumns m' := by
    rw [CheckConstraint.boundColumns, CheckConstraint.boundColumns, h.checks]
  have hboundOf : m.lengthBound side (k.boundColumns m)
      = m'.lengthBound side (k.boundColumns m') :=
    funext fun column => hcolumns ▸ h.lengthBound_eq side (k.boundColumns m) column
  rw [CheckConstraint.lengthBound, CheckConstraint.lengthBound, hboundOf, h.isText_eq]

end TableMetadata.Respells

/-- Two spellings of one type are both texts or both none, except for a known text that only one of
them writes with the schema of the built-in types. Where there is no such exception, every check
demands a text that is not empty, and bounds the length of texts, under the one as under the
other. -/
theorem DataType.texts_respect_spellings {t u : String} (h : normalize t = normalize u) :
    (isTextual t = isTextual u ↔ (normalize t ∈ knownTexts → isQualified t = isQualified u))
    ∧ ∀ m m' : TableMetadata, m.Respells m' → ∀ k : CheckConstraint,
      k.isNotEmptyText m = k.isNotEmptyText m'
        ∧ k.lowerBound m = k.lowerBound m' ∧ k.upperBound m = k.upperBound m' := by
  refine ⟨isTextual_eq_iff h, fun m m' hm k => ?_⟩
  refine ⟨?_, hm.checkBound_eq k .lower, hm.checkBound_eq k .upper⟩
  rw [CheckConstraint.isNotEmptyText, CheckConstraint.isNotEmptyText, hm.isText_eq]

/-- A modifier, letter case, blanks and a schema that stays make no difference. -/
theorem DataType.texts_respect_spellings_of_modifier :
    let plain : Column := { table := ⟨"t", none⟩, name := "a", dataType := "varchar" }
    let written := { plain with dataType := " Character  VARYING (9)" }
    let check : CheckConstraint :=
      { table := ⟨"t", none⟩, columnNames := ["a"]
        expression := ⟨"length(a) > 3",
          .compare .gt (.call ["length"] [.column [] "a"]) (.literal (.number "3"))⟩ }
    normalize plain.dataType = normalize written.dataType
      ∧ (isTextual plain.dataType = isTextual written.dataType
        ↔ (normalize plain.dataType ∈ knownTexts →
          isQualified plain.dataType = isQualified written.dataType))
      ∧ check.lowerBound { columns := [plain], checks := [check] }
        = check.lowerBound { columns := [written], checks := [check] } := by
  intro plain written check
  have hsame : normalize plain.dataType = normalize written.dataType := by decide +kernel
  obtain ⟨htextual, hchecks⟩ := texts_respect_spellings hsame
  have hrespells : TableMetadata.Respells { columns := [plain], checks := [check] }
      { columns := [written], checks := [check] } :=
    ⟨rfl, .cons ⟨rfl, hsame, fun _ => by decide +kernel⟩ .nil⟩
  exact ⟨hsame, htextual, (hchecks _ _ hrespells check).2.1⟩

/-- The schema of the built-in types is forgotten in the canonical spelling of a text, but with it
the type is taken for none. -/
theorem DataType.qualified_text_is_none :
    normalize "pg_catalog.text" = normalize "text"
      ∧ isTextual "text" = true ∧ isTextual "pg_catalog.text" = false := by
  decide +kernel

end SchemaCatalog
