import Mathlib.Data.List.DropRight
import Mathlib.Data.List.Forall2
import SchemaCatalog.Proofs.LowerCase
import SchemaCatalog.Text.Blank

/-!
# Folding blanks and letter case

A text whose blanks are folded is cut into words and joined again. `squeeze` says the same in one
run along the characters (`toList_foldBlanks`), so that the parts of a text can be folded one after
the other. Texts that are folded already stay as they are (`foldBlanks_of_folded`).

A character whose small letter is a sign of ASCII, `k` aside, is of ASCII itself. So it is no blank
or parenthesis if its small letter is none, and both have one capital (`sign_of_lowerChar`). Words
in any letter case are lists of such characters (`InAnyCase`).
-/

namespace SchemaCatalog

namespace Text

/-! ## 1. Blanks -/

theorem dropBlanks_cons_of_isBlank {c : Char} (h : isBlank c = true) (cs : List Char) :
    dropBlanks (c :: cs) = dropBlanks cs := by
  simp [dropBlanks, h]

theorem dropBlanks_cons_of_not {c : Char} (h : isBlank c = false) (cs : List Char) :
    dropBlanks (c :: cs) = c :: cs := by
  simp [dropBlanks, h]

theorem wordsFrom_dropBlanks (cs : List Char) : wordsFrom [] (dropBlanks cs) = wordsFrom [] cs := by
  induction cs with
  | nil => rfl
  | cons c cs ih =>
    cases hc : isBlank c with
    | true => rw [dropBlanks_cons_of_isBlank hc, ih]; simp [wordsFrom, hc]
    | false => rw [dropBlanks_cons_of_not hc]

/-- Blanks at the end are in no word. -/
theorem wordsFrom_append_of_blanks {bs : List Char} (h : ∀ b ∈ bs, isBlank b = true)
    (run cs : List Char) : wordsFrom run (cs ++ bs) = wordsFrom run cs := by
  induction cs generalizing run with
  | nil =>
    rw [List.nil_append]
    induction bs generalizing run with
    | nil => rfl
    | cons b bs ih =>
      obtain ⟨hb, hbs⟩ := List.forall_mem_cons.mp h
      cases run with
      | nil => simpa [wordsFrom, hb] using ih hbs []
      | cons r run => simpa [wordsFrom, hb] using ih hbs []
  | cons c cs ih => simp [wordsFrom, ih]

/-- What is cut off at the end is blank. -/
theorem exists_append_dropBlanksRight (cs : List Char) :
    ∃ bs, (∀ b ∈ bs, isBlank b = true) ∧ cs = dropBlanksRight cs ++ bs := by
  refine ⟨(cs.reverse.takeWhile isBlank).reverse, ?_, ?_⟩
  · intro b hb
    exact List.all_eq_true.mp List.all_takeWhile b (List.mem_reverse.mp hb)
  · rw [dropBlanksRight, dropBlanks, ← List.reverse_append, List.takeWhile_append_dropWhile,
      List.reverse_reverse]

/-- The words of a text do not depend on the blanks around it. -/
theorem words_strip (s : String) : words (strip s) = words s := by
  obtain ⟨bs, hblank, hsplit⟩ := exists_append_dropBlanksRight (dropBlanks s.toList)
  rw [words, words, strip, String.toList_ofList, stripChars,
    ← wordsFrom_append_of_blanks hblank [] (dropBlanksRight _), ← hsplit, wordsFrom_dropBlanks]

theorem foldBlanks_strip (s : String) : foldBlanks (strip s) = foldBlanks s := by
  rw [foldBlanks, foldBlanks, words_strip]

/-- What begins with no blank begins with none after the blanks at its end are cut off. -/
theorem dropBlanks_dropBlanksRight {cs : List Char} (h : dropBlanks cs = cs) :
    dropBlanks (dropBlanksRight cs) = dropBlanksRight cs := by
  obtain ⟨bs, -, hsplit⟩ := exists_append_dropBlanksRight cs
  cases hright : dropBlanksRight cs with
  | nil => rfl
  | cons c ds =>
    have hhead := List.head?_dropWhile_not isBlank cs
    rw [show cs.dropWhile isBlank = cs from h, hsplit, hright] at hhead
    exact dropBlanks_cons_of_not (by simpa using hhead) ds

theorem strip_strip (s : String) : strip (strip s) = strip s := by
  have hleft : dropBlanks (dropBlanks s.toList) = dropBlanks s.toList :=
    List.dropWhile_idempotent isBlank s.toList
  have hright : dropBlanksRight (dropBlanksRight (dropBlanks s.toList))
      = dropBlanksRight (dropBlanks s.toList) := List.rdropWhile_idempotent isBlank _
  rw [strip, strip, String.toList_ofList, stripChars, stripChars, dropBlanks_dropBlanksRight hleft,
    hright]

/-! ## 2. Folding -/

/-- Blanks between words. -/
def IsGap (bs : List Char) : Prop := bs ≠ [] ∧ ∀ b ∈ bs, isBlank b = true

/-- The characters with one space for each run of blanks, those at the end left out; `before` comes
in front of the first character that is not blank, for what came before. -/
def squeeze (before : List Char) : List Char → List Char
  | [] => []
  | c :: cs => if isBlank c then squeeze [' '] cs else before ++ c :: squeeze [] cs

theorem squeeze_cons_of_not {c : Char} (h : isBlank c = false) (before cs : List Char) :
    squeeze before (c :: cs) = before ++ c :: squeeze [] cs := by
  simp [squeeze, h]

theorem squeeze_gap {bs : List Char} (h : IsGap bs) (before cs : List Char) :
    squeeze before (bs ++ cs) = squeeze [' '] cs := by
  obtain ⟨hsome, hblank⟩ := h
  induction bs generalizing before with
  | nil => exact absurd rfl hsome
  | cons b bs ih =>
    obtain ⟨hb, hbs⟩ := List.forall_mem_cons.mp hblank
    rw [List.cons_append, squeeze, if_pos hb]
    cases bs with
    | nil => rfl
    | cons b' bs => exact ih [' '] (List.cons_ne_nil b' bs) hbs

theorem squeeze_of_blanks {bs : List Char} (h : ∀ b ∈ bs, isBlank b = true) (before : List Char) :
    squeeze before bs = [] := by
  induction bs generalizing before with
  | nil => rfl
  | cons b bs ih =>
    obtain ⟨hb, hbs⟩ := List.forall_mem_cons.mp h
    rw [squeeze, if_pos hb, ih hbs]

/-- A word stays as it is. -/
theorem squeeze_word {cs : List Char} (hsome : cs ≠ []) (h : ∀ c ∈ cs, isBlank c = false)
    (before after : List Char) :
    squeeze before (cs ++ after) = before ++ (cs ++ squeeze [] after) := by
  induction cs generalizing before with
  | nil => exact absurd rfl hsome
  | cons c cs ih =>
    obtain ⟨hc, hcs⟩ := List.forall_mem_cons.mp h
    rw [List.cons_append, squeeze_cons_of_not hc]
    cases cs with
    | nil => rfl
    | cons d ds =>
      rw [ih (List.cons_ne_nil d ds) hcs []]
      rfl

/-- Words that are joined are squeezed, after a word that has been begun or after blanks. -/
theorem intercalate_wordsFrom_eq (cs : List Char) :
    (∀ run, run ≠ [] → [' '].intercalate (wordsFrom run cs) = run.reverse ++ squeeze [] cs)
      ∧ squeeze [' '] cs = if (wordsFrom [] cs).isEmpty then []
        else ' ' :: [' '].intercalate (wordsFrom [] cs) := by
  induction cs with
  | nil =>
    constructor
    · intro run hrun
      simp [wordsFrom, squeeze, hrun]
    · rfl
  | cons c cs ih =>
    obtain ⟨hword, hblank⟩ := ih
    cases hc : isBlank c with
    | true =>
      constructor
      · intro run hrun
        rw [wordsFrom, if_pos hc, if_neg (by simpa using hrun), squeeze, if_pos hc, hblank]
        cases hwords : wordsFrom [] cs with
        | nil => simp
        | cons word words => simp
      · simpa [squeeze, wordsFrom, hc] using hblank
    | false =>
      constructor
      · intro run hrun
        rw [wordsFrom, if_neg (by simp [hc]), hword (c :: run) (List.cons_ne_nil c run),
          squeeze_cons_of_not hc]
        simp
      · have hjoin := hword [c] (List.cons_ne_nil c [])
        have hsome : wordsFrom [c] cs ≠ [] := by
          intro hnone
          rw [hnone] at hjoin
          simp at hjoin
        have hwords : wordsFrom [] (c :: cs) = wordsFrom [c] cs := by simp [wordsFrom, hc]
        rw [squeeze_cons_of_not hc, hwords, if_neg (by simpa using hsome), hjoin]
        rfl

theorem toList_foldBlanks (s : String) :
    (foldBlanks s).toList = squeeze [] (dropBlanks s.toList) := by
  have hfold : (foldBlanks s).toList = [' '].intercalate (wordsFrom [] s.toList) := by
    rw [foldBlanks, String.toList_intercalate, words, List.map_map]
    simp [Function.comp_def]
  rw [hfold, ← wordsFrom_dropBlanks]
  cases hrest : dropBlanks s.toList with
  | nil => rfl
  | cons c cs =>
    have hc : isBlank c = false := by
      have hhead := List.head?_dropWhile_not isBlank s.toList
      rw [show s.toList.dropWhile isBlank = c :: cs from hrest] at hhead
      simpa using hhead
    rw [wordsFrom, if_neg (by simp [hc]),
      (intercalate_wordsFrom_eq cs).1 [c] (List.cons_ne_nil c []), squeeze_cons_of_not hc]
    rfl

/-! ## 3. Folded texts -/

/-- The characters are words parted by single spaces; `starts` says whether a word must start here. -/
def folded (starts : Bool) : List Char → Bool
  | [] => !starts
  | c :: cs => if isBlank c then c == ' ' && !starts && folded true cs else folded false cs

theorem folded_append {cs ds : List Char} {starts : Bool} (hcs : folded starts cs = true)
    (hds : ∀ d ∈ ds, isBlank d = false) : folded starts (cs ++ ds) = true := by
  induction cs generalizing starts with
  | nil =>
    have hend : starts = false := by simpa [folded] using hcs
    clear hcs
    induction ds generalizing starts with
    | nil => simp [folded, hend]
    | cons d ds ih =>
      obtain ⟨hd, hds⟩ := List.forall_mem_cons.mp hds
      simpa [folded, hd] using ih hds rfl
  | cons c cs ih =>
    cases hc : isBlank c with
    | true =>
      simp only [folded, hc, if_true, Bool.and_eq_true] at hcs
      simp [folded, hc, hcs.1, ih hcs.2]
    | false =>
      simp only [folded, hc, Bool.false_eq_true, if_false] at hcs
      simp [folded, hc, ih hcs]

theorem folded_word {cs : List Char} (hsome : cs ≠ []) (h : ∀ c ∈ cs, isBlank c = false)
    (starts : Bool) (after : List Char) : folded starts (cs ++ after) = folded false after := by
  induction cs generalizing starts with
  | nil => exact absurd rfl hsome
  | cons c cs ih =>
    obtain ⟨hc, hcs⟩ := List.forall_mem_cons.mp h
    rw [List.cons_append, folded, if_neg (by simp [hc])]
    cases cs with
    | nil => rfl
    | cons d ds => exact ih (List.cons_ne_nil d ds) hcs false

/-- Such characters end in one that is not blank. -/
theorem not_blank_of_folded_concat {cs : List Char} {c : Char} {starts : Bool}
    (h : folded starts (cs ++ [c]) = true) : isBlank c = false := by
  induction cs generalizing starts with
  | nil =>
    cases hc : isBlank c with
    | true => simp [folded, hc] at h
    | false => rfl
  | cons d ds ih =>
    cases hd : isBlank d with
    | true =>
      simp only [List.cons_append, folded, hd, if_true, Bool.and_eq_true] at h
      exact ih h.2
    | false =>
      simp only [List.cons_append, folded, hd, Bool.false_eq_true, if_false] at h
      exact ih h

theorem dropBlanksRight_of_folded {cs : List Char} {starts : Bool} (h : folded starts cs = true) :
    dropBlanksRight cs = cs := by
  rcases List.eq_nil_or_concat cs with rfl | ⟨ds, c, rfl⟩
  · rfl
  · rw [List.concat_eq_append] at h ⊢
    rw [dropBlanksRight, List.reverse_append, List.reverse_singleton, List.singleton_append,
      dropBlanks_cons_of_not (not_blank_of_folded_concat h)]
    simp

theorem dropBlanks_of_folded {cs : List Char} (h : folded true cs = true) : dropBlanks cs = cs := by
  cases cs with
  | nil => rfl
  | cons c cs =>
    cases hc : isBlank c with
    | true => simp [folded, hc] at h
    | false => exact dropBlanks_cons_of_not hc cs

/-- There is nothing to squeeze where words are parted by single spaces. -/
theorem squeeze_of_folded (cs : List Char) :
    (folded true cs = true → ∀ before, squeeze before cs = before ++ cs)
      ∧ (folded false cs = true → squeeze [] cs = cs) := by
  induction cs with
  | nil =>
    constructor
    · intro h
      cases h
    · exact fun _ => rfl
  | cons c cs ih =>
    obtain ⟨hstart, hword⟩ := ih
    cases hc : isBlank c with
    | true =>
      constructor
      · intro h
        simp [folded, hc] at h
      · intro h
        simp only [folded, hc, if_true, Bool.and_eq_true, beq_iff_eq] at h
        rw [squeeze, if_pos hc, hstart h.2, h.1.1]
        rfl
    | false =>
      have hrest (starts : Bool) (h : folded starts (c :: cs) = true) (before : List Char) :
          squeeze before (c :: cs) = before ++ c :: cs := by
        simp only [folded, hc, Bool.false_eq_true, if_false] at h
        rw [squeeze_cons_of_not hc, hword h]
      exact ⟨hrest true, fun h => hrest false h []⟩

theorem foldBlanks_of_folded {s : String} (h : folded true s.toList = true) : foldBlanks s = s := by
  rw [← String.toList_inj, toList_foldBlanks, dropBlanks_of_folded h]
  exact (squeeze_of_folded s.toList).1 h []

/-! ## 4. Letters in any case -/

/-- The sign may stand in the name of a known type. Those of ASCII may, but for blanks, parentheses
and brackets, and for the one small letter with a capital outside ASCII. -/
def isNameSign (a : Char) : Bool :=
  0x21 ≤ a.toNat && a.toNat < 128 && !(['(', ']', 'k'].contains a)

/-- The characters are the signs, in any letter case. -/
def InAnyCase (signs cs : List Char) : Prop := List.Forall₂ (fun a c => lowerChar c = [a]) signs cs

/-- The letters outside ASCII have no small letter in ASCII, `k` aside. -/
theorem lowerRuns_misses_ascii :
    (lowerRuns.all fun run =>
      CaseRun.misses run (0, 0x6a, 1, 0) && CaseRun.misses run (0x6c, 0x7f, 1, 0)) = true := by
  decide +kernel

theorem ascii_of_lowerChar {a c : Char} (h : lowerChar c = [a]) (ha : isNameSign a = true) :
    c.toNat < 128 := by
  have hsign : 0x21 ≤ a.toNat ∧ a.toNat < 128 ∧ a ≠ 'k' := by
    simp only [isNameSign, Bool.and_eq_true, decide_eq_true_eq] at ha
    exact ⟨ha.1.1, ha.1.2, by rintro rfl; simp at ha⟩
  by_contra hc
  rw [lowerChar, if_neg hc, mapByRuns] at h
  cases hexpansion : lowerExpansions.find? (·.1 == c.toNat) with
  | some expansion =>
    rw [List.mem_singleton.mp (List.mem_of_find?_eq_some hexpansion)] at hexpansion
    simp only [hexpansion] at h
    cases h
  | none =>
    simp only [hexpansion] at h
    split at h
    · rename_i first last step distance hrun
      have hfound := List.find?_some hrun
      have hcovers : CaseRun.covers (first, last, step, distance) c.toNat = true := hfound
      have hmisses := List.all_eq_true.mp lowerRuns_misses_ascii _ (List.mem_of_find?_eq_some hrun)
      rw [Bool.and_eq_true] at hmisses
      have hbelow := CaseRun.covers_image hmisses.1 hcovers
      have habove := CaseRun.covers_image hmisses.2 hcovers
      have himage : Char.ofNat (CaseRun.image (first, last, step, distance) c.toNat) = a :=
        List.singleton_inj.mp h
      generalize CaseRun.image (first, last, step, distance) c.toNat = n at *
      have hn : a.toNat = n := by
        by_cases hvalid : n.isValidChar
        · rw [← himage, show Char.ofNat n = Char.ofNatAux n hvalid from dif_pos hvalid]
          rfl
        · rw [← himage, show Char.ofNat n = Char.ofNat 0 from dif_neg hvalid] at hsign
          exact absurd hsign.1 (by decide)
      have hk : n = 0x6b := by
        simp [CaseRun.covers, Nat.mod_one] at hbelow habove
        omega
      exact hsign.2.2 (by rw [← himage, hk])
    · rw [List.singleton_inj.mp h] at hc
      exact hc hsign.2.1

/-- What a character of ASCII is like, its small letter is like. -/
theorem lowerChar_ascii : ∀ n < 128, (lowerChar (Char.ofNat n)).all isNameSign = true →
    isBlank (Char.ofNat n) = false ∧ Char.ofNat n ≠ '(' ∧ Char.ofNat n ≠ ']'
      ∧ upperChar (Char.ofNat n) = (lowerChar (Char.ofNat n)).flatMap upperChar := by
  decide +kernel

theorem sign_of_lowerChar {a c : Char} (h : lowerChar c = [a]) (ha : isNameSign a = true) :
    isBlank c = false ∧ c ≠ '(' ∧ c ≠ ']' ∧ upperChar c = upperChar a := by
  have hascii := lowerChar_ascii c.toNat (ascii_of_lowerChar h ha)
  rw [Char.ofNat_toNat, h] at hascii
  simpa using hascii (by simpa using ha)

namespace InAnyCase

variable {signs cs : List Char}

theorem not_special (h : InAnyCase signs cs) (hsigns : ∀ a ∈ signs, isNameSign a = true) :
    ∀ c ∈ cs, isBlank c = false ∧ c ≠ '(' ∧ c ≠ ']' := by
  induction h with
  | nil => exact List.forall_mem_nil _
  | cons hc _ ih =>
    obtain ⟨ha, has⟩ := List.forall_mem_cons.mp hsigns
    obtain ⟨hblank, hopen, hbracket, -⟩ := sign_of_lowerChar hc ha
    exact List.forall_mem_cons.mpr ⟨⟨hblank, hopen, hbracket⟩, ih has⟩

/-- A word in any letter case has letters, none of which is blank or opens a group. -/
theorem word_letters (h : InAnyCase signs cs) (hsome : signs ≠ [])
    (hsigns : ∀ a ∈ signs, isNameSign a = true) :
    cs ≠ [] ∧ ∀ c ∈ cs, isBlank c = false ∧ c ≠ '(' := by
  constructor
  · rintro rfl
    cases h
    exact hsome rfl
  · intro c hc
    obtain ⟨hblank, hopen, -⟩ := h.not_special hsigns c hc
    exact ⟨hblank, hopen⟩

theorem squeeze_append (h : InAnyCase signs cs) (hsome : signs ≠ [])
    (hsigns : ∀ a ∈ signs, isNameSign a = true) (before after : List Char) :
    squeeze before (cs ++ after) = before ++ (cs ++ squeeze [] after) := by
  obtain ⟨hletters, hstay⟩ := h.word_letters hsome hsigns
  exact squeeze_word hletters (fun c hc => (hstay c hc).1) before after

theorem flatMap_upperChar (h : InAnyCase signs cs) (hsigns : ∀ a ∈ signs, isNameSign a = true) :
    cs.flatMap upperChar = signs.flatMap upperChar := by
  induction h with
  | nil => rfl
  | cons hc _ ih =>
    obtain ⟨ha, has⟩ := List.forall_mem_cons.mp hsigns
    rw [List.flatMap_cons, List.flatMap_cons, (sign_of_lowerChar hc ha).2.2.2, ih has]

/-- Context does not matter, since none of the characters is a sigma. -/
theorem lowerFrom_eq (h : InAnyCase signs cs) (hsigma : 'σ' ∉ signs) (before : List Char) :
    lowerFrom before cs = signs := by
  induction h generalizing before with
  | nil => rfl
  | @cons a c as cs hc _ ih =>
    rw [List.mem_cons, not_or] at hsigma
    have hcapital : c ≠ capitalSigma := by
      rintro rfl
      have hsmall : lowerChar capitalSigma = ['σ'] := by decide +kernel
      exact hsigma.1 (List.singleton_inj.mp (hsmall.symm.trans hc))
    rw [lowerFrom, lowerCharIn, if_neg (by simpa using hcapital), hc, ih hsigma.2]
    rfl

theorem exists_concat (h : InAnyCase signs cs) (hsome : signs ≠ []) :
    ∃ as a ds d, signs = as ++ [a] ∧ cs = ds ++ [d] ∧ lowerChar d = [a] := by
  obtain ⟨as, a, rfl⟩ := (List.eq_nil_or_concat signs).resolve_left hsome
  have hreversed := List.forall₂_reverse_iff.mpr h
  rw [List.concat_eq_append, List.reverse_append] at hreversed
  obtain ⟨d, ds, hd, -, hcs⟩ := List.forall₂_cons_left_iff.mp hreversed
  have hsplit : cs = ds.reverse ++ [d] := by
    rw [← List.reverse_reverse cs, hcs, List.reverse_cons]
  exact ⟨as, a, ds.reverse, d, List.concat_eq_append, hsplit, hd⟩

theorem append {signs' cs' : List Char} (h : InAnyCase signs cs) (h' : InAnyCase signs' cs') :
    InAnyCase (signs ++ signs') (cs ++ cs') := List.rel_append h h'

end InAnyCase

end Text

end SchemaCatalog
