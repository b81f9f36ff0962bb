import SchemaCatalog.Proofs.TypeNames

/-!
# Ways of writing a data type

A known type is written in many ways: in any letter case, with any blanks around and between its
words, with modifiers in parentheses after them, with or without the schema of the built-in types
and quotes, and as an array by marks or by a word. `Writes` is the grammar of them all.
`normalize_settles` says that each of them has the spelling filed for the type, and that the
canonical spelling of any type, known or not, is its own.

The grammar is told what a gap is. Folding turns a type that is written with any gaps into one with
single spaces (`Writes.foldBlanks`). That one is taken apart from the end: marks, the word for
arrays, modifiers; what is left is the name in some letter case (`base_of_written`).
-/

namespace SchemaCatalog

namespace DataType

open Text

/-! ## 1. Written types -/

section Written

variable (gap : List Char → Prop)

/-- Modifiers: groups in parentheses, with a gap before each or none. -/
inductive Modifiers : List Char → Prop
  | none : Modifiers []
  | more {bs inside cs : List Char} : (bs = [] ∨ gap bs) → ')' ∉ inside → Modifiers cs →
      Modifiers (bs ++ '(' :: (inside ++ ')' :: cs))

/-- The words of a name in any letter case, with gaps between them and modifiers after each. -/
inductive WritesName : List (List Char) → List Char → Prop
  | last {word cs mods : List Char} : InAnyCase word cs → Modifiers gap mods →
      WritesName [word] (cs ++ mods)
  | more {word cs mods bs rest : List Char} {words : List (List Char)} : InAnyCase word cs →
      Modifiers gap mods → gap bs → WritesName words rest →
      WritesName (word :: words) (cs ++ (mods ++ (bs ++ rest)))

/-- So many array marks, with a gap before each or none. -/
inductive WritesMarks : Nat → List Char → Prop
  | none : WritesMarks 0 []
  | more {n : Nat} {bs cs : List Char} : (bs = [] ∨ gap bs) → WritesMarks n cs →
      WritesMarks (n + 1) (bs ++ '[' :: ']' :: cs)

/-- An array suffix that stands for so many marks: marks alone, or the word for arrays, which stands
for one, and marks after it. -/
inductive WritesArray : Nat → List Char → Prop
  | marks {n : Nat} {cs : List Char} : WritesMarks gap n cs → WritesArray n cs
  | word {n : Nat} {bs word cs : List Char} : gap bs → InAnyCase "array".toList word →
      WritesMarks gap n cs → WritesArray (n + 1) (bs ++ (word ++ cs))

end Written

/-- The text is the type of the name with so many array marks, with blanks around it. -/
inductive Writes (name : List Char) (n : Nat) : String → Prop
  | mk {front cs suffix back : List Char} : (∀ b ∈ front, isBlank b = true) →
      WritesName IsGap (wordsFrom [] name) cs → WritesArray IsGap n suffix →
      (∀ b ∈ back, isBlank b = true) →
      Writes name n (String.ofList (front ++ (cs ++ (suffix ++ back))))

/-! ## 2. Folded types -/

/-- The only gap in a folded text. -/
abbrev IsSpace (bs : List Char) : Prop := bs = [' ']

theorem isBlank_of_optional {bs : List Char} (h : bs = [] ∨ IsSpace bs) :
    ∀ b ∈ bs, isBlank b = true := by
  rcases h with rfl | rfl
  · exact List.forall_mem_nil _
  · exact List.forall_mem_singleton.mpr (by decide)

theorem squeeze_optional {bs : List Char} (h : bs = [] ∨ IsGap bs) :
    ∃ bs', (bs' = [] ∨ IsSpace bs') ∧ ∀ c cs, isBlank c = false →
      squeeze [] (bs ++ c :: cs) = bs' ++ c :: squeeze [] cs := by
  rcases h with rfl | hgap
  · exact ⟨[], Or.inl rfl, fun c cs hc => squeeze_cons_of_not hc [] cs⟩
  · refine ⟨[' '], Or.inr rfl, fun c cs hc => ?_⟩
    rw [squeeze_gap hgap, squeeze_cons_of_not hc]

/-- The inside of a group stays without the parenthesis that closes it. -/
theorem exists_squeeze_inside {inside : List Char} (h : ')' ∉ inside) (before : List Char)
    (hbefore : ')' ∉ before) :
    ∃ inside', ')' ∉ inside' ∧ ∀ after,
      squeeze before (inside ++ ')' :: after) = inside' ++ ')' :: squeeze [] after := by
  induction inside generalizing before with
  | nil => exact ⟨before, hbefore, fun after => squeeze_cons_of_not (by decide) before after⟩
  | cons c cs ih =>
    rw [List.mem_cons, not_or] at h
    cases hc : isBlank c with
    | true =>
      obtain ⟨inside', hinside', hsqueeze⟩ := ih h.2 [' '] (by decide)
      refine ⟨inside', hinside', fun after => ?_⟩
      rw [List.cons_append, squeeze, if_pos hc, hsqueeze]
    | false =>
      obtain ⟨inside', hinside', hsqueeze⟩ := ih h.2 [] List.not_mem_nil
      refine ⟨before ++ c :: inside', by simp [hbefore, h.1, hinside'], fun after => ?_⟩
      rw [List.cons_append, squeeze_cons_of_not hc, hsqueeze]
      simp

theorem Modifiers.squeeze {mods : List Char} (h : Modifiers IsGap mods) :
    ∃ mods', Modifiers IsSpace mods' ∧ ∀ after,
      squeeze [] (mods ++ after) = mods' ++ squeeze [] after := by
  induction h with
  | none => exact ⟨[], .none, fun after => rfl⟩
  | @more bs inside cs hbs hinside _ ih =>
    obtain ⟨bs', hbs', hgap⟩ := squeeze_optional hbs
    obtain ⟨inside', hinside', hgroup⟩ := exists_squeeze_inside hinside [] List.not_mem_nil
    obtain ⟨mods', hmods', hrest⟩ := ih
    refine ⟨_, .more hbs' hinside' hmods', fun after => ?_⟩
    rw [List.append_assoc, List.cons_append, hgap '(' _ (by decide), List.append_assoc,
      List.cons_append, hgroup, hrest]
    simp

/-- The words of a name may be written: they have signs. -/
def Writable (words : List (List Char)) : Prop :=
  ∀ word ∈ words, word ≠ [] ∧ ∀ a ∈ word, isNameSign a = true

/-- A written name begins with a letter of its first word. -/
theorem WritesName.exists_cons {gap : List Char → Prop} {words : List (List Char)} {cs : List Char}
    (h : WritesName gap words cs) (hwords : Writable words) :
    ∃ c ds, cs = c :: ds ∧ isBlank c = false ∧ c ≠ '(' := by
  obtain ⟨word, letters, after, hmem, hword, rfl⟩ :
      ∃ word letters after, word ∈ words ∧ InAnyCase word letters ∧ cs = letters ++ after := by
    cases h with
    | last hword _ => exact ⟨_, _, _, List.mem_cons_self, hword, rfl⟩
    | more hword _ _ _ => exact ⟨_, _, _, List.mem_cons_self, hword, rfl⟩
  obtain ⟨hsome, hsigns⟩ := hwords word hmem
  obtain ⟨hletters, hstay⟩ := hword.word_letters hsome hsigns
  obtain ⟨c, ds, rfl⟩ := List.exists_cons_of_ne_nil hletters
  exact ⟨c, ds ++ after, rfl, hstay c List.mem_cons_self⟩

theorem WritesName.dropBlanks {gap : List Char → Prop} {words : List (List Char)} {cs : List Char}
    (h : WritesName gap words cs) (hwords : Writable words) (after : List Char) :
    dropBlanks (cs ++ after) = cs ++ after := by
  obtain ⟨c, ds, rfl, hblank, -⟩ := h.exists_cons hwords
  exact dropBlanks_cons_of_not hblank (ds ++ after)

theorem WritesName.squeeze {words : List (List Char)} {cs : List Char}
    (h : WritesName IsGap words cs) (hwords : Writable words) :
    ∃ cs', WritesName IsSpace words cs' ∧ ∀ before after,
      squeeze before (cs ++ after) = before ++ (cs' ++ squeeze [] after) := by
  induction h with
  | @last word cs mods hword hmods =>
    obtain ⟨hsome, hsigns⟩ := hwords word List.mem_cons_self
    obtain ⟨mods', hmods', hsqueeze⟩ := hmods.squeeze
    refine ⟨cs ++ mods', .last hword hmods', fun before after => ?_⟩
    rw [List.append_assoc, hword.squeeze_append hsome hsigns, hsqueeze, List.append_assoc]
  | @more word cs mods bs rest words hword hmods hbs _ ih =>
    obtain ⟨⟨hsome, hsigns⟩, hothers⟩ := List.forall_mem_cons.mp hwords
    obtain ⟨mods', hmods', hsqueeze⟩ := hmods.squeeze
    obtain ⟨rest', hrest', hrest⟩ := ih hothers
    refine ⟨_, .more hword hmods' rfl hrest', fun before after => ?_⟩
    simp only [List.append_assoc]
    rw [hword.squeeze_append hsome hsigns, hsqueeze, squeeze_gap hbs, hrest]

theorem WritesMarks.squeeze {n : Nat} {cs : List Char} (h : WritesMarks IsGap n cs) :
    ∃ cs', WritesMarks IsSpace n cs' ∧ ∀ after,
      squeeze [] (cs ++ after) = cs' ++ squeeze [] after := by
  induction h with
  | none => exact ⟨[], .none, fun after => rfl⟩
  | more hbs _ ih =>
    obtain ⟨bs', hbs', hgap⟩ := squeeze_optional hbs
    obtain ⟨cs', hcs', hrest⟩ := ih
    refine ⟨_, .more hbs' hcs', fun after => ?_⟩
    rw [List.append_assoc, List.cons_append, hgap '[' _ (by decide), List.cons_append,
      squeeze_cons_of_not (by decide), hrest]
    simp

theorem isNameSign_of_mem_array : ∀ a ∈ "array".toList, isNameSign a = true :=
  List.all_eq_true.mp (by decide)

theorem WritesArray.squeeze {n : Nat} {cs : List Char} (h : WritesArray IsGap n cs) :
    ∃ cs', WritesArray IsSpace n cs' ∧ ∀ after,
      squeeze [] (cs ++ after) = cs' ++ squeeze [] after := by
  cases h with
  | marks hmarks =>
    obtain ⟨cs', hcs', hsqueeze⟩ := hmarks.squeeze
    exact ⟨cs', .marks hcs', hsqueeze⟩
  | word hbs hword hmarks =>
    obtain ⟨cs', hcs', hsqueeze⟩ := hmarks.squeeze
    refine ⟨_, .word rfl hword hcs', fun after => ?_⟩
    simp only [List.append_assoc]
    rw [squeeze_gap hbs, hword.squeeze_append (by decide) isNameSign_of_mem_array, hsqueeze]

/-- A written type is folded to one that is written with single spaces and no blanks around it. -/
theorem Writes.foldBlanks {name : List Char} {t : String} {n : Nat} (h : Writes name n t)
    (hwords : Writable (wordsFrom [] name)) :
    ∃ cs suffix, (foldBlanks t).toList = cs ++ suffix
      ∧ WritesName IsSpace (wordsFrom [] name) cs ∧ WritesArray IsSpace n suffix := by
  obtain ⟨hfront, hname, hsuffix, hback⟩ := h
  obtain ⟨cs', hcs', hcs⟩ := hname.squeeze hwords
  obtain ⟨suffix', hsuffix', hsuffix⟩ := hsuffix.squeeze
  refine ⟨cs', suffix', ?_, hcs', hsuffix'⟩
  rw [toList_foldBlanks, String.toList_ofList, Text.dropBlanks,
    List.dropWhile_append_of_pos hfront]
  change squeeze [] (Text.dropBlanks _) = _
  rw [hname.dropBlanks hwords, hcs, hsuffix, squeeze_of_blanks hback, List.append_nil]
  rfl

/-! ## 3. Bases -/

/-- Marks are taken off one by one, with the gaps before them. -/
theorem WritesMarks.dropBrackets {n : Nat} {cs : List Char} (h : WritesMarks IsSpace n cs)
    {rest : List Char} (hrest : Text.dropBlanks rest = rest) (count : Nat) :
    dropBrackets count (cs.reverse ++ rest) = dropBrackets (count + n) rest := by
  induction h generalizing rest count with
  | none => rfl
  | @more n bs cs hbs _ ih =>
    have hblanks : ∀ b ∈ bs.reverse, isBlank b = true := fun b hb =>
      isBlank_of_optional hbs b (List.mem_reverse.mp hb)
    have hnext : Text.dropBlanks (']' :: '[' :: (bs.reverse ++ rest))
        = ']' :: '[' :: (bs.reverse ++ rest) := dropBlanks_cons_of_not (by decide) _
    have hgap : Text.dropBlanks (bs.reverse ++ rest) = rest := by
      rw [Text.dropBlanks, List.dropWhile_append_of_pos hblanks]
      exact hrest
    have hsplit : (bs ++ '[' :: ']' :: cs).reverse ++ rest
        = cs.reverse ++ ']' :: '[' :: (bs.reverse ++ rest) := by simp
    rw [hsplit, ih hnext, DataType.dropBrackets.eq_1, hgap, Nat.add_assoc]

/-- A group in parentheses is dropped, and the blanks before it. -/
theorem dropModifiers_group {bs inside : List Char} (hbs : ∀ b ∈ bs, isBlank b = true)
    (hinside : ')' ∉ inside) (after : List Char) :
    dropModifiers (bs ++ '(' :: (inside ++ ')' :: after)) = dropModifiers after := by
  have hgroup : afterModifier? ('(' :: (inside ++ ')' :: after)) = some after := by
    have hstay : ∀ c ∈ inside, (c != ')') = true := by
      intro c hc
      simpa using fun h : c = ')' => hinside (h ▸ hc)
    simp [afterModifier?, List.dropWhile_append_of_pos hstay]
  have hopen : Text.dropBlanks (bs ++ '(' :: (inside ++ ')' :: after))
      = '(' :: (inside ++ ')' :: after) := by
    rw [Text.dropBlanks, List.dropWhile_append_of_pos hbs]
    exact dropBlanks_cons_of_not (by decide) _
  obtain ⟨d, ds, hcons⟩ := List.exists_cons_of_ne_nil
    (show bs ++ '(' :: (inside ++ ')' :: after) ≠ [] by simp)
  have hshorter : after.length ≤ ds.length := by
    have hlength := congrArg List.length hcons
    simp only [List.length_append, List.length_cons] at hlength
    omega
  rw [hcons] at hopen ⊢
  rw [dropModifiers.eq_def]
  simp only [hopen, hgroup]
  exact if_pos hshorter

theorem Modifiers.dropModifiers {mods : List Char} (h : Modifiers IsSpace mods)
    (after : List Char) : dropModifiers (mods ++ after) = dropModifiers after := by
  induction h with
  | none => rfl
  | @more bs inside cs hbs hinside _ ih =>
    rw [List.append_assoc, List.cons_append, List.append_assoc, List.cons_append,
      dropModifiers_group (isBlank_of_optional hbs) hinside, ih]

/-- What is no blank and opens no group stays, with the space before it. -/
theorem dropModifiers_cons {c : Char} (hc : isBlank c = false ∧ c ≠ '(') (cs : List Char) :
    dropModifiers (c :: cs) = c :: dropModifiers cs
      ∧ dropModifiers (' ' :: c :: cs) = ' ' :: c :: dropModifiers cs := by
  have hnone : afterModifier? (c :: cs) = none := by
    unfold afterModifier?
    split
    · rename_i heq
      exact absurd (List.cons.inj heq).1 hc.2
    · rfl
  have hstay := dropBlanks_cons_of_not hc.1 cs
  have hword : dropModifiers (c :: cs) = c :: dropModifiers cs := by
    rw [dropModifiers.eq_def]
    simp only [hstay, hnone]
  have hspace : Text.dropBlanks (' ' :: c :: cs) = c :: cs := by
    rw [dropBlanks_cons_of_isBlank (by decide), hstay]
  refine ⟨hword, ?_⟩
  rw [dropModifiers.eq_def]
  simp only [hspace, hnone, hword]

theorem dropModifiers_word {cs : List Char} (h : ∀ c ∈ cs, isBlank c = false ∧ c ≠ '(')
    (after : List Char) : dropModifiers (cs ++ after) = cs ++ dropModifiers after := by
  induction cs with
  | nil => rfl
  | cons c cs ih =>
    obtain ⟨hc, hcs⟩ := List.forall_mem_cons.mp h
    rw [List.cons_append, (dropModifiers_cons hc _).1, ih hcs, List.cons_append]

/-- Without its modifiers a written name is the name, in some letter case. -/
theorem WritesName.dropModifiers {words : List (List Char)} {cs : List Char}
    (h : WritesName IsSpace words cs) (hwords : Writable words) :
    InAnyCase ([' '].intercalate words) (dropModifiers cs)
      ∧ folded true (dropModifiers cs) = true := by
  induction h with
  | @last word cs mods hword hmods =>
    obtain ⟨hsome, hsigns⟩ := hwords word List.mem_cons_self
    obtain ⟨hletters, hstay⟩ := hword.word_letters hsome hsigns
    have hplain : DataType.dropModifiers (cs ++ mods) = cs ++ [] := by
      rw [dropModifiers_word hstay, ← List.append_nil mods, hmods.dropModifiers,
        dropModifiers.eq_def]
    rw [hplain]
    constructor
    · simpa using hword
    · rw [folded_word hletters fun c hc => (hstay c hc).1]
      rfl
  | @more word cs mods bs rest words hword hmods hbs hrest ih =>
    obtain ⟨⟨hsome, hsigns⟩, hothers⟩ := List.forall_mem_cons.mp hwords
    obtain ⟨hletters, hstay⟩ := hword.word_letters hsome hsigns
    obtain ⟨hcase, hfolded⟩ := ih hothers
    have hplain : DataType.dropModifiers (cs ++ (mods ++ (bs ++ rest)))
        = cs ++ ([' '] ++ DataType.dropModifiers rest) := by
      obtain ⟨c, ds, rfl, hc⟩ := hrest.exists_cons hothers
      obtain ⟨hkept, hspace⟩ := dropModifiers_cons hc ds
      rw [dropModifiers_word hstay, hmods.dropModifiers, hbs, hkept]
      exact congrArg (cs ++ ·) hspace
    have hmore : words ≠ [] := by
      rintro rfl
      cases hrest
    rw [hplain]
    constructor
    · rw [List.intercalate_cons_of_ne_nil hmore, List.append_assoc]
      have hspace : InAnyCase [' '] [' '] := .cons (by decide) .nil
      exact hword.append (hspace.append hcase)
    · rw [folded_word hletters fun c hc => (hstay c hc).1, List.singleton_append, folded]
      simpa [isBlank] using hfolded

/-- A modifier ends in the parenthesis that closes it. -/
theorem Modifiers.exists_concat {mods : List Char} (h : Modifiers IsSpace mods) :
    mods = [] ∨ ∃ front, mods = front ++ [')'] := by
  induction h with
  | none => exact Or.inl rfl
  | @more bs inside cs _ _ _ ih =>
    right
    rcases ih with rfl | ⟨front, rfl⟩
    · exact ⟨bs ++ '(' :: inside, by simp⟩
    · exact ⟨bs ++ '(' :: (inside ++ ')' :: front), by simp⟩

/-- A written name ends in a parenthesis or as its last word does. -/
theorem WritesName.exists_concat {words : List (List Char)} {cs : List Char}
    (h : WritesName IsSpace words cs) (hwords : Writable words) :
    ∃ front c, cs = front ++ [c] ∧ isBlank c = false ∧ c ≠ ']'
      ∧ (c = ')'
        ∨ ∃ a ∈ words.flatten.getLast?, isNameSign a = true ∧ upperChar c = upperChar a) := by
  induction h with
  | @last word cs mods hword hmods =>
    obtain ⟨hsome, hsigns⟩ := hwords word List.mem_cons_self
    rcases hmods.exists_concat with rfl | ⟨front, rfl⟩
    · obtain ⟨as, a, ds, d, rfl, rfl, hd⟩ := hword.exists_concat hsome
      have ha : isNameSign a = true := hsigns a (by simp)
      obtain ⟨hblank, -, hbracket, hupper⟩ := sign_of_lowerChar hd ha
      exact ⟨ds, d, by simp, hblank, hbracket, Or.inr ⟨a, by simp, ha, hupper⟩⟩
    · exact ⟨cs ++ front, ')', by simp, by decide, by decide, Or.inl rfl⟩
  | @more word cs mods bs rest words _ _ _ hrest ih =>
    obtain ⟨front, c, rfl, hblank, hbracket, hend⟩ := ih (List.forall_mem_cons.mp hwords).2
    refine ⟨cs ++ (mods ++ (bs ++ front)), c, by simp, hblank, hbracket, ?_⟩
    refine hend.imp_right fun ⟨a, ha, hsign⟩ => ⟨a, ?_, hsign⟩
    rw [List.flatten_cons]
    exact List.mem_getLast?_append_of_mem_getLast? ha

theorem endsWith_arrayWord_iff (cs : List Char) :
    (upper (String.ofList cs)).endsWith arrayWord = true
      ↔ arrayWord.toList <:+ cs.flatMap upperChar := by
  rw [String.endsWith_eq_endsWith_toSlice, String.Slice.endsWith_string_iff, String.copy_toSlice]
  simp [upper]

/-- The word for arrays is seen in any letter case, and taken off as it is. -/
theorem endsWith_arrayWord {word : List Char} (h : InAnyCase "array".toList word)
    (cs : List Char) :
    (upper (String.ofList (cs ++ ' ' :: word))).endsWith arrayWord = true
      ∧ (cs ++ ' ' :: word).take ((cs ++ ' ' :: word).length - arrayWord.length) = cs := by
  constructor
  · rw [endsWith_arrayWord_iff, List.flatMap_append, List.flatMap_cons,
      h.flatMap_upperChar isNameSign_of_mem_array]
    exact List.suffix_append _ _
  · have hlength : word.length = 5 := (List.Forall₂.length_eq h).symm
    rw [show arrayWord.length = 6 by decide, List.length_append, List.length_cons, hlength]
    simp

/-- A written name does not end in the word for arrays, since no name ends in its last letter. -/
theorem WritesName.not_endsWith_arrayWord {words : List (List Char)} {cs : List Char}
    (h : WritesName IsSpace words cs) (hwords : Writable words)
    (hlast : words.flatten.getLast?.map upperChar ≠ some ['Y']) :
    (upper (String.ofList cs)).endsWith arrayWord = false := by
  obtain ⟨front, c, rfl, -, -, hend⟩ := h.exists_concat hwords
  obtain ⟨u, hupper, hu⟩ : ∃ u, upperChar c = [u] ∧ u ≠ 'Y' := by
    rcases hend with rfl | ⟨a, ha, hsign, hupper⟩
    · exact ⟨')', by decide, by decide⟩
    · have hascii : a.toNat < 128 := by
        simp only [isNameSign, Bool.and_eq_true, decide_eq_true_eq] at hsign
        exact hsign.1.2
      rw [ha, Option.map_some, upperChar, if_pos hascii] at hlast
      rw [hupper, upperChar, if_pos hascii]
      exact ⟨_, rfl, fun hY => hlast (congrArg (some [·]) hY)⟩
  rw [← Bool.not_eq_true, endsWith_arrayWord_iff, List.flatMap_append]
  rintro ⟨pre, hpre⟩
  have hends := congrArg List.getLast? hpre
  rw [show arrayWord.toList = " ARRA".toList ++ ['Y'] by decide] at hends
  have hsame : 'Y' = u := by simpa [hupper] using hends
  exact hu hsame.symm

/-- Marks at the end are taken off, and the rest stays. -/
theorem dropBrackets_concat {n : Nat} {front suffix : List Char} {c : Char}
    (h : WritesMarks IsSpace n suffix) (hblank : isBlank c = false) (hbracket : c ≠ ']') :
    dropBrackets 0 ((front ++ [c]) ++ suffix).reverse = ((front ++ [c]).reverse, n) := by
  have hstay : Text.dropBlanks (front ++ [c]).reverse = (front ++ [c]).reverse := by
    rw [List.reverse_append]
    exact dropBlanks_cons_of_not hblank _
  have hrest : (front ++ [c]).reverse.head? ≠ some ']' := by simpa using hbracket
  rw [List.reverse_append, h.dropBrackets hstay, Nat.zero_add]
  exact dropBrackets_marks hstay hrest 0 n

/-- The base of a written type is its name in some letter case, with its number of array marks. -/
theorem base_of_written {words : List (List Char)} {cs suffix : List Char} {n : Nat} {t : String}
    (hfold : (foldBlanks t).toList = cs ++ suffix) (hname : WritesName IsSpace words cs)
    (hsuffix : WritesArray IsSpace n suffix) (hwords : Writable words)
    (hlast : words.flatten.getLast?.map upperChar ≠ some ['Y']) :
    base t = (String.ofList (dropModifiers cs), n) := by
  have hplain : stripChars (dropModifiers cs) = dropModifiers cs := by
    obtain ⟨-, hfolded⟩ := hname.dropModifiers hwords
    rw [stripChars, dropBlanks_of_folded hfolded, dropBlanksRight_of_folded hfolded]
  have hnoArray := hname.not_endsWith_arrayWord hwords hlast
  obtain ⟨front, c, hcs, hblank, hbracket, -⟩ := hname.exists_concat hwords
  cases hsuffix with
  | marks hmarks =>
    have hbrackets : dropBrackets 0 (cs ++ suffix).reverse = (cs.reverse, n) := by
      rw [hcs]
      exact dropBrackets_concat hmarks hblank hbracket
    simp only [base, hfold, hbrackets, List.reverse_reverse, hnoArray, Bool.false_eq_true, if_false,
      hplain]
  | @word n bs word marks hbs hword hmarks =>
    have hbrackets : dropBrackets 0 (cs ++ (bs ++ (word ++ marks))).reverse
        = ((cs ++ ' ' :: word).reverse, n) := by
      obtain ⟨as, a, ds, d, has, rfl, hd⟩ := hword.exists_concat (by decide)
      obtain ⟨hend, -, hmark, -⟩ :=
        sign_of_lowerChar hd (isNameSign_of_mem_array a (by simp [has]))
      have hdrop : dropBrackets 0 ((cs ++ ' ' :: ds ++ [d]) ++ marks).reverse
          = ((cs ++ ' ' :: ds ++ [d]).reverse, n) := dropBrackets_concat hmarks hend hmark
      rw [hbs]
      simpa using hdrop
    obtain ⟨hArray, htake⟩ := endsWith_arrayWord hword cs
    simp only [base, hfold, hbrackets, List.reverse_reverse, hArray, if_true, htake, hplain]

/-! ## 4. Known types -/

/-- The names of a known type: its key, also with the schema of the built-in types, and either of
them also in quotes. -/
def writtenNames (key : String) : List (List Char) :=
  [key.toList, builtinSchema.toList ++ key.toList].flatMap fun name => [name, '"' :: name ++ ['"']]

theorem writable_of_mem : ∀ entry ∈ canonicalSpellings, ∀ name ∈ writtenNames entry.1,
    [' '].intercalate (wordsFrom [] name) = name ∧ Writable (wordsFrom [] name)
      ∧ (wordsFrom [] name).flatten.getLast?.map upperChar ≠ some ['Y'] ∧ 'σ' ∉ name := by
  simp only [Writable, ← List.all_eq_true]
  decide +kernel

theorem dropBuiltinSchema_append (key : String) :
    dropBuiltinSchema (builtinSchema ++ key) = key := by
  have hstarts : (builtinSchema ++ key).startsWith builtinSchema = true := by
    rw [String.startsWith_eq_startsWith_toSlice, String.Slice.startsWith_string_iff,
      String.copy_toSlice, String.toList_append]
    exact List.prefix_append _ _
  rw [dropBuiltinSchema, if_pos hstarts, String.toList_append, ← String.length_toList,
    List.drop_left, String.ofList_toList]

/-- Without quotes and the schema a name of a known type is its key. -/
theorem canonical?_of_mem_writtenNames {entry : String × String}
    (hentry : entry ∈ canonicalSpellings) {name : List Char} (hname : name ∈ writtenNames entry.1) :
    canonical? (dropBuiltinSchema (stripChar '"' (String.ofList name))) = some entry.2 := by
  have hkeys : ∀ entry ∈ canonicalSpellings, canonical? entry.1 = some entry.2
      ∧ dropBuiltinSchema entry.1 = entry.1 := by
    decide +kernel
  have hquotes : ∀ entry ∈ canonicalSpellings, ∀ name ∈ writtenNames entry.1,
      ((name.dropWhile (· == '"')).reverse.dropWhile (· == '"')).reverse
        ∈ [entry.1.toList, builtinSchema.toList ++ entry.1.toList] := by
    decide +kernel
  obtain ⟨hknown, hbare⟩ := hkeys entry hentry
  have hstrip := hquotes entry hentry name hname
  rw [stripChar, String.toList_ofList]
  rcases List.mem_pair.mp hstrip with hkey | hkey
  · rw [hkey, String.ofList_toList, hbare, hknown]
  · rw [hkey, ← String.toList_append, String.ofList_toList, dropBuiltinSchema_append, hknown]

/-- A written name of a known type is that type, with its array marks. -/
theorem known?_of_writes {entry : String × String} (hentry : entry ∈ canonicalSpellings)
    {name : List Char} {t : String} {n : Nat} (hname : name ∈ writtenNames entry.1)
    (h : Writes name n t) : known? t = some entry.2 ∧ (base t).2 = n := by
  obtain ⟨hjoin, hwords, hlast, hsigma⟩ := writable_of_mem entry hentry name hname
  obtain ⟨cs, suffix, hfold, hcs, hsuffix⟩ := h.foldBlanks hwords
  have hbase := base_of_written hfold hcs hsuffix hwords hlast
  have hlower : lower (String.ofList (DataType.dropModifiers cs)) = String.ofList name := by
    obtain ⟨hcase, -⟩ := hcs.dropModifiers hwords
    rw [hjoin] at hcase
    rw [lower, String.toList_ofList, hcase.lowerFrom_eq hsigma]
  rw [known?, hbase, baseKey, hlower]
  exact ⟨canonical?_of_mem_writtenNames hentry hname, rfl⟩

/-- A spelling is settled: it is spelled as itself. -/
theorem normalize_normalize (t : String) : normalize (normalize t) = normalize t := by
  cases h : known? t with
  | none =>
    have hsettled : known? (normalize t) = none := by rw [known?_normalize, h]
    rw [normalize_of_unknown hsettled, normalize_of_unknown h, strip_strip]
  | some c =>
    have hsettled : known? (normalize t) = some c := by rw [known?_normalize, h]
    rw [normalize_of_known hsettled, base_normalize h, ← normalize_of_known h]

/-- The canonical spelling of a type is its own, and one of a known type is the one filed under its
key, whatever the letter case, the blanks, the modifiers, the schema of the built-in types and the
way of writing the array marks. -/
theorem normalize_settles :
    (∀ t, normalize (normalize t) = normalize t)
      ∧ ∀ entry ∈ canonicalSpellings, ∀ name ∈ writtenNames entry.1, ∀ n t, Writes name n t →
        normalize t = entry.2 ++ String.join (List.replicate n "[]") := by
  refine ⟨normalize_normalize, fun entry hentry name hname n t h => ?_⟩
  obtain ⟨hknown, hmarks⟩ := known?_of_writes hentry hname h
  rw [normalize_of_known hknown, hmarks]

/-- Capitals, a tab, two modifiers, the schema, the word for arrays and a mark after it. -/
theorem normalize_settles_of_zone :
    let key := "timestamp with time zone"
    let written := " Pg_Catalog.Timestamp (3)\tWITH  time zone(6) array []"
    (key, key) ∈ canonicalSpellings ∧ builtinSchema.toList ++ key.toList ∈ writtenNames key
      ∧ Writes (builtinSchema.toList ++ key.toList) 2 written
      ∧ normalize written = "timestamp with time zone[][]" := by
  intro key written
  have hkey : (key, key) ∈ canonicalSpellings := by decide
  have hname : builtinSchema.toList ++ key.toList ∈ writtenNames key := by decide
  have hwritten : Writes (builtinSchema.toList ++ key.toList) 2 written := by
    have hwords : wordsFrom [] (builtinSchema.toList ++ key.toList)
        = ["pg_catalog.timestamp".toList, "with".toList, "time".toList, "zone".toList] := by decide
    have hcase : InAnyCase "pg_catalog.timestamp".toList "Pg_Catalog.Timestamp".toList
        ∧ InAnyCase "with".toList "WITH".toList ∧ InAnyCase "time".toList "time".toList
        ∧ InAnyCase "zone".toList "zone".toList ∧ InAnyCase "array".toList "array".toList := by
      unfold InAnyCase
      decide
    obtain ⟨htimestamp, hwith, htime, hzone, harray⟩ := hcase
    have hspace : IsGap [' '] := ⟨by decide, List.all_eq_true.mp (by decide)⟩
    have hspaces : IsGap [' ', ' '] := ⟨by decide, List.all_eq_true.mp (by decide)⟩
    have htab : IsGap ['\t'] := ⟨by decide, List.all_eq_true.mp (by decide)⟩
    have hthree : Modifiers IsGap (" ".toList ++ '(' :: ("3".toList ++ ')' :: [])) :=
      .more (Or.inr hspace) (by decide) .none
    have hsix : Modifiers IsGap ([] ++ '(' :: ("6".toList ++ ')' :: [])) :=
      .more (Or.inl rfl) (by decide) .none
    have hcs := WritesName.more htimestamp hthree htab
      (.more hwith .none hspaces (.more htime .none hspace (.last hzone hsix)))
    have hsuffix := WritesArray.word hspace harray (.more (Or.inr hspace) .none)
    rw [← hwords] at hcs
    have htext := Writes.mk hspace.2 hcs hsuffix (List.forall_mem_nil _)
    rwa [show String.ofList _ = written by decide] at htext
  exact ⟨hkey, hname, hwritten, normalize_settles.2 _ hkey _ hname 2 written hwritten⟩

end DataType

end SchemaCatalog
