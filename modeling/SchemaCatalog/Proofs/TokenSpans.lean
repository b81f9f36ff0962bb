import Mathlib.Data.List.DropRight
import SchemaCatalog.Sql.Lexer

/-!
# Where tokens stand

The tokens of a text stand in it one after the other, whatever the text (`Placed.words`). A phrase is
split into its words as if one blank parted them. The first word stands where it is written; the
second stands `gap.length - 1` characters too far to the left, where `gap` is what parts the two. So
it is what is written there just if one blank parts them, and if more do, the text of a run that ends
in it is cut short by as many characters (`tokenize_places`).

The invariant of the lexer is that the text from its position on is what it has still to read: a
phrase that a step finds at the front of the rest is then in the text at that position.

A token may span nothing of the text: the text after a command word stands where its last piece
starts, and if that is a blank, the token stops right before it (`Token.Spans`).
-/

namespace SchemaCatalog.Sql

/-! ## 1. Phrases -/

/-- The words of the pair, in any letter case, with blanks between them. -/
structure Writes (pair : String × String) (first gap second : List Char) : Prop where
  firstUpper : first.flatMap Text.upperChar = pair.1.toList
  secondUpper : second.flatMap Text.upperChar = pair.2.toList
  firstLength : first.length = pair.1.toList.length
  secondLength : second.length = pair.2.toList.length
  parted : gap ≠ []
  blank : ∀ c ∈ gap, Text.isBlank c = true

theorem exists_of_afterWord? {word cs tail : List Char} (h : afterWord? word cs = some tail) :
    ∃ written, cs = written ++ tail ∧ written.flatMap Text.upperChar = word
      ∧ written.length = word.length := by
  induction word generalizing cs with
  | nil =>
    obtain rfl : cs = tail := by simpa [afterWord?] using h
    exact ⟨[], rfl, rfl, rfl⟩
  | cons p word ih =>
    cases cs with
    | nil => simp [afterWord?] at h
    | cons c cs =>
      rw [afterWord?] at h
      split at h
      · rename_i hc
        obtain ⟨written, rfl, hupper, hlength⟩ := ih h
        refine ⟨c :: written, rfl, ?_, by simp [hlength]⟩
        rw [List.flatMap_cons, eq_of_beq hc, hupper]
        rfl
      · cases h

/-- A phrase that is found at the front of a text is written there. -/
theorem exists_of_phraseLength? {pair : String × String} {cs : List Char} {n : Nat}
    (h : phraseLength? pair.1 pair.2 cs = some n) :
    ∃ first gap second, Writes pair first gap second ∧ first ++ gap ++ second <+: cs
      ∧ n = (first ++ gap ++ second).length := by
  unfold phraseLength? at h
  split at h
  · cases h
  · rename_i rest hfirst
    obtain ⟨first, rfl, hupper, hlength⟩ := exists_of_afterWord? hfirst
    simp only at h
    split at h
    · cases h
    · rename_i hparted
      split at h
      · cases h
      · rename_i tail hsecond
        obtain ⟨second, hrest, hupper', hlength'⟩ := exists_of_afterWord? hsecond
        have hsplit : rest = rest.takeWhile Text.isBlank ++ (second ++ tail) := by
          rw [← hrest, Text.dropBlanks, List.takeWhile_append_dropWhile]
        refine ⟨first, rest.takeWhile Text.isBlank, second,
          ⟨hupper, hupper', hlength, hlength', ?_, ?_⟩, ?_, ?_⟩
        · intro hnone
          rw [hnone, List.nil_append, ← hrest] at hsplit
          exact hparted (by rw [← hsplit]; simp)
        · exact List.all_eq_true.mp List.all_takeWhile
        · exact ⟨tail, by rw [List.append_assoc, List.append_assoc, ← hsplit]⟩
        · obtain ⟨-, hn⟩ := Option.ite_none_right_eq_some.mp h
          have hrestLength := congrArg List.length hsplit
          simp only [List.length_append, Option.some.injEq] at hn hrestLength ⊢
          omega

/-! ## 2. Steps -/

/-- The step moves on, its token starts in what it reads, and that is no phrase. -/
structure Step.IsPlain (s : Step) : Prop where
  advances : 0 < s.length
  starts : s.offset ≤ s.length
  noPhrase : ∀ text, s.piece ≠ .token .phrase text

/-- The step moves on at the front of the text, its token starts in what it reads, and a phrase is
one of the pairs of words, found there. -/
structure Step.Reads (s : Step) (cs : List Char) : Prop where
  advances : 0 < s.length
  starts : s.offset ≤ s.length
  phrase : ∀ text, s.piece = .token .phrase text → ∃ pair ∈ phrases,
    phraseLength? pair.1 pair.2 cs = some s.length ∧ text = pair.1 ++ " " ++ pair.2

theorem Step.IsPlain.reads {s : Step} (h : s.IsPlain) (cs : List Char) : s.Reads cs :=
  ⟨h.advances, h.starts, fun text htext => absurd htext (h.noPhrase text)⟩

theorem stringStep_isPlain {kind : TokenKind} {opening : Nat} {closing : String}
    {body : Option (List Char × Nat)} {s : Step} (hkind : kind ≠ .phrase) (hopening : 0 < opening)
    (h : stringStep kind opening closing body = .ok s) : s.IsPlain := by
  cases body with
  | none => cases h
  | some body =>
    cases h
    refine ⟨?_, Nat.zero_le _, ?_⟩
    · show 0 < opening + body.2
      omega
    · intro text htext
      cases htext
      exact hkind rfl

theorem digitsStep_isPlain {base : Nat} {body : Option (List Char × Nat)} {s : Step}
    (h : digitsStep base body = .ok s) : s.IsPlain := by
  unfold digitsStep at h
  split at h
  · split at h
    · cases h
      refine ⟨?_, Nat.zero_le _, by simp⟩
      simp only
      omega
    · cases h
  · cases h

theorem markedNumberStep_isPlain (base : Nat) (cs : List Char) :
    (markedNumberStep base ('0' :: cs)).IsPlain := by
  refine ⟨?_, Nat.zero_le _, ?_⟩
  · have hzero : inMarkedNumber '0' = true := by decide
    simp [markedNumberStep, hzero]
  · intro text
    unfold markedNumberStep
    simp only
    split <;> simp

theorem decimal_isPlain (afterParameter : Bool) (cs : List Char) :
    (numberStep.decimal afterParameter cs).IsPlain := by
  refine ⟨?_, Nat.zero_le _, by simp [numberStep.decimal]⟩
  simp only [numberStep.decimal]
  omega

theorem numberStep_isPlain (afterParameter : Bool) (cs : List Char) :
    (numberStep afterParameter cs).IsPlain := by
  unfold numberStep
  split
  · split
    · exact markedNumberStep_isPlain 2 _
    · split
      · exact markedNumberStep_isPlain 16 _
      · exact decimal_isPlain afterParameter _
  · exact decimal_isPlain afterParameter _

theorem commentStep_isPlain {opening closing : String} {body : List Char} {s : Step}
    (hopening : 0 < opening.length) (h : commentStep opening closing body = .ok s) :
    s.IsPlain := by
  unfold commentStep at h
  split at h
  · cases h
    refine ⟨?_, Nat.zero_le _, by simp⟩
    simp only
    omega
  · cases h

theorem dollarStep_isPlain {cs : List Char} {s : Step} (h : dollarStep cs = .ok s) :
    s.IsPlain := by
  have hsymbol (text : String) {n : Nat} (hn : 0 < n) :
      (⟨.token .symbol text, n, 0⟩ : Step).IsPlain :=
    ⟨hn, Nat.zero_le n, by simp⟩
  unfold dollarStep at h
  split at h
  · cases h
  · exact stringStep_isPlain (by decide) (by decide) h
  · split at h
    · cases h
    · cases h
      exact hsymbol _ (by decide)
    · split at h
      · cases h
        exact hsymbol _ (by decide)
      · split at h
        · cases h
          exact hsymbol _ (by decide)
        · exact stringStep_isPlain (by decide) (by simp) h

theorem plainStep_reads (c : Char) (cs : List Char) : (plainStep c cs).Reads (c :: cs) := by
  unfold plainStep
  split
  · rename_i op hop
    have hlength : ∀ op ∈ operators, 0 < op.length := by decide
    exact Step.IsPlain.reads ⟨hlength op (List.mem_of_find?_eq_some hop), Nat.zero_le _, by simp⟩ _
  · split
    · exact Step.IsPlain.reads ⟨by simp, Nat.zero_le _, by simp⟩ _
    · split
      · rename_i text n hphrase
        obtain ⟨pair, hpair, hfound⟩ := List.exists_of_findSome?_eq_some hphrase
        obtain ⟨m, hm, heq⟩ := Option.map_eq_some_iff.mp hfound
        obtain ⟨rfl, rfl⟩ := Prod.mk.inj heq
        refine ⟨?_, Nat.zero_le _, ?_⟩
        · obtain ⟨first, gap, second, hwrites, -, rfl⟩ := exists_of_phraseLength? hm
          have hgap := List.length_pos_iff.mpr hwrites.parted
          simp only [List.length_append]
          omega
        · rintro text htext
          cases htext
          exact ⟨pair, hpair, hm, rfl⟩
      · refine Step.IsPlain.reads ⟨?_, Nat.zero_le _, by simp⟩ _
        simp only
        omega

theorem step_reads {afterParameter : Bool} {c : Char} {cs : List Char} {s : Step}
    (h : step afterParameter c cs = .ok s) : s.Reads (c :: cs) := by
  unfold step at h
  split at h
  · cases h
    refine Step.IsPlain.reads ⟨?_, Nat.le_refl _, by simp⟩ _
    simp only
    omega
  · split at h
    · cases h
      exact Step.IsPlain.reads ⟨by simp, Nat.zero_le _, by simp⟩ _
    · split at h
      · cases h
        exact (numberStep_isPlain afterParameter _).reads _
      · split at h
        · exact (stringStep_isPlain (by decide) (by decide) h).reads _
        · exact (stringStep_isPlain (by decide) (by decide) h).reads _
        · exact (dollarStep_isPlain h).reads _
        · cases h
          refine Step.IsPlain.reads ⟨?_, Nat.zero_le _, by simp⟩ _
          simp only
          omega
        · exact (commentStep_isPlain (by decide) h).reads _
        · exact (commentStep_isPlain (by decide) h).reads _
        · exact (stringStep_isPlain (by decide) (by decide) h).reads _
        · exact (stringStep_isPlain (by decide) (by decide) h).reads _
        · repeat' split at h
          · exact (stringStep_isPlain (by decide) (by decide) h).reads _
          · exact (stringStep_isPlain (by decide) (by decide) h).reads _
          · exact (digitsStep_isPlain h).reads _
          · exact (digitsStep_isPlain h).reads _
          · cases h
            exact plainStep_reads c _
        · cases h
          exact plainStep_reads c _

/-! ## 3. The whole text -/

/-- The tokens stand one after the other, from the position on; a token may span nothing. -/
inductive Successive : Nat → List Token → Prop where
  | nil (pos : Nat) : Successive pos []
  | cons {pos : Nat} {t : Token} {ts : List Token} (lower : pos ≤ t.start)
      (span : t.start ≤ t.stop + 1) (rest : Successive (t.stop + 1) ts) : Successive pos (t :: ts)

/-- The token spans some of the text, or it is the text after a command word and spans nothing;
`before` holds the tokens before it, last first. -/
def Token.Spans (before : List Token) (t : Token) : Prop :=
  t.start ≤ t.stop ∨ t.kind = .literal ∧ t.start = t.stop + 1 ∧ opensCommand before = true

theorem Token.Spans.le {before : List Token} {t : Token} (h : t.Spans before) :
    t.start ≤ t.stop + 1 := by
  rcases h with hsome | ⟨-, hnone, -⟩
  · omega
  · omega

/-- The token is a phrase that is written in the text where the token stands. -/
structure Token.Spells (sql : List Char) (t : Token) (pair : String × String)
    (first gap second : List Char) : Prop where
  mem : pair ∈ phrases
  text : t.text = pair.1 ++ " " ++ pair.2
  writes : Writes pair first gap second
  place : first ++ gap ++ second <+: sql.drop t.start
  stop : t.stop + 1 = t.start + (first ++ gap ++ second).length

theorem Successive.of_le {pos pos' : Nat} {ts : List Token} (h : Successive pos ts)
    (hpos : pos' ≤ pos) : Successive pos' ts := by
  cases h with
  | nil => exact .nil pos'
  | cons lower span rest => exact .cons (Nat.le_trans hpos lower) span rest

theorem Successive.pairwise {pos : Nat} {ts : List Token} (h : Successive pos ts) :
    ts.Pairwise (fun t u => t.stop < u.start) ∧ ∀ t ∈ ts, pos ≤ t.start := by
  induction h with
  | nil => simp
  | cons lower span rest ih =>
    obtain ⟨hpairwise, hstart⟩ := ih
    refine ⟨List.pairwise_cons.mpr ⟨fun u hu => hstart u hu, hpairwise⟩, ?_⟩
    intro u hu
    rcases List.mem_cons.mp hu with rfl | hu
    · exact lower
    · have := hstart u hu
      omega

theorem commandExtent_bounds {pos last : Nat} {afterParameter : Bool} {cs : List Char}
    {after start : Nat} (h : commandExtent pos last afterParameter cs = .ok (after, start))
    (hlast : last ≤ pos) : pos ≤ after ∧ last ≤ start ∧ start ≤ after := by
  fun_induction commandExtent pos last afterParameter cs with
  | case1 =>
    cases h
    omega
  | case2 => cases h
  | case3 pos last afterParameter c cs s hstep rest here hend =>
    have hstarts := (step_reads hstep).starts
    simp only [Except.ok.injEq, Prod.mk.injEq] at h
    omega
  | case4 pos last afterParameter c cs s hstep rest here hend ih =>
    have hstarts := (step_reads hstep).starts
    have := ih h (by omega)
    omega

/-- What is left of the text after a step. -/
theorem drop_step {sql cs : List Char} {c : Char} {pos n : Nat} (h : sql.drop pos = c :: cs)
    (hn : 0 < n) : sql.drop (pos + n) = cs.drop (n - 1) := by
  obtain ⟨n, rfl⟩ := Nat.exists_eq_add_one.mpr hn
  rw [← List.drop_drop, h]
  rfl

/-- The tokens stand in the text one after the other, from the position on and after those in `read`
(last first). The phrases are written where they stand, and only the text after a command word spans
nothing. -/
structure Placed (sql : List Char) (read : List Token) (pos : Nat) (ts : List Token) : Prop where
  successive : Successive pos ts
  spans : ∀ before t after, ts = before ++ t :: after → t.Spans (before.reverse ++ read)
  spelled : ∀ t ∈ ts, t.kind = .phrase →
    ∃ pair first gap second, t.Spells sql pair first gap second

theorem Placed.nil (sql : List Char) (read : List Token) (pos : Nat) : Placed sql read pos [] :=
  ⟨.nil pos, by simp, by simp⟩

theorem Placed.cons {sql : List Char} {read : List Token} {pos : Nat} {t : Token} {ts : List Token}
    (lower : pos ≤ t.start) (span : t.Spans read)
    (spelled : t.kind = .phrase → ∃ pair first gap second, t.Spells sql pair first gap second)
    (rest : Placed sql (t :: read) (t.stop + 1) ts) : Placed sql read pos (t :: ts) := by
  refine ⟨.cons lower span.le rest.successive, ?_,
    List.forall_mem_cons.mpr ⟨spelled, rest.spelled⟩⟩
  intro before u after hsplit
  cases before with
  | nil =>
    obtain ⟨rfl, -⟩ := List.cons.inj hsplit
    exact span
  | cons t' before =>
    obtain ⟨rfl, htail⟩ := List.cons.inj hsplit
    rw [List.reverse_cons, List.append_assoc]
    exact rest.spans before u after htail

theorem Placed.of_le {sql : List Char} {read : List Token} {pos pos' : Nat} {ts : List Token}
    (h : Placed sql read pos ts) (hpos : pos' ≤ pos) : Placed sql read pos' ts :=
  ⟨h.successive.of_le hpos, h.spans, h.spelled⟩

/-- The token that a step reads stands where the step begins. -/
theorem Step.Reads.placed {sql cs : List Char} {read : List Token} {pos : Nat} {s : Step}
    {kind : TokenKind} {text : String} {ts : List Token} (h : s.Reads cs) (hpos : sql.drop pos = cs)
    (hpiece : s.piece = .token kind text)
    (rest : Placed sql (⟨kind, text, pos, pos + s.length - 1⟩ :: read) (pos + s.length) ts) :
    Placed sql read pos (⟨kind, text, pos, pos + s.length - 1⟩ :: ts) := by
  have hadvances := h.advances
  refine .cons (Nat.le_refl _) (.inl (by simp only; omega)) ?_ ?_
  · intro hkind
    obtain rfl : kind = .phrase := hkind
    obtain ⟨pair, hmem, hlength, htext⟩ := h.phrase text hpiece
    obtain ⟨first, gap, second, hwrites, hplace, hn⟩ := exists_of_phraseLength? hlength
    exact ⟨pair, first, gap, second, hmem, htext, hwrites, hpos ▸ hplace, by simp only; omega⟩
  · rwa [show pos + s.length - 1 + 1 = pos + s.length by omega]

/-- The tokens that are read from a position on are placed there. -/
theorem lexFrom_placed {sql cs : List Char} {pos : Nat} {read tokens : List Token}
    (h : lexFrom pos read cs = .ok tokens) (hpos : sql.drop pos = cs) :
    ∃ more, tokens = read.reverse ++ more ∧ Placed sql read pos more := by
  fun_induction lexFrom pos read cs with
  | case1 pos read =>
    cases h
    exact ⟨[], by simp, .nil sql read pos⟩
  | case2 => cases h
  | case3 pos read c cs s hstep rest here hpiece ih =>
    have hreads := step_reads hstep
    obtain ⟨more, heq, hmore⟩ := ih h (drop_step hpos hreads.advances)
    exact ⟨more, heq, hmore.of_le (Nat.le_add_right _ _)⟩
  | case4 => cases h
  | case5 pos read c cs s hstep rest here kind text hpiece read' hopens after start hextent
      command read'' ih =>
    have hreads := step_reads hstep
    have hhere : sql.drop here = rest := drop_step hpos hreads.advances
    obtain ⟨hafter, hstart, hend⟩ := commandExtent_bounds hextent (Nat.le_refl _)
    have hrest : sql.drop after = rest.drop (after - here) := by
      rw [← hhere, List.drop_drop, Nat.add_sub_cancel' hafter]
    have hword : opensCommand read' = true := (Bool.and_eq_true_iff.mp hopens).1
    obtain ⟨more, heq, hmore⟩ := ih h hrest
    by_cases hcommand : command.isEmpty = true
    · simp only [read'', hcommand, dif_pos, read'] at heq hmore
      refine ⟨⟨kind, text, pos, here - 1⟩ :: more, by simpa using heq, ?_⟩
      exact hreads.placed hpos hpiece (hmore.of_le hafter)
    · have hsome : here < after := by
        refine Nat.lt_of_le_of_ne hafter fun hnone => hcommand ?_
        simp only [command, hnone, Nat.sub_self, List.take_zero]
        rfl
      simp only [read'', hcommand, read'] at heq hmore
      refine ⟨⟨kind, text, pos, here - 1⟩ :: ⟨.literal, String.ofList command, start, after - 1⟩
        :: more, by simpa using heq, ?_⟩
      refine hreads.placed hpos hpiece (.cons hstart ?_ (by simp) ?_)
      · rcases Nat.lt_or_ge start after with hlt | hge
        · exact .inl (by simp only; omega)
        · exact .inr ⟨rfl, by simp only; omega, hword⟩
      · rwa [show after - 1 + 1 = after by omega]
  | case6 pos read c cs s hstep rest here kind text hpiece read' hopens ih =>
    have hreads := step_reads hstep
    obtain ⟨more, heq, hmore⟩ := ih h (drop_step hpos hreads.advances)
    exact ⟨⟨kind, text, pos, here - 1⟩ :: more, by simpa [read'] using heq,
      hreads.placed hpos hpiece hmore⟩

/-- The tokens of a text, phrases as one, are placed in it. -/
theorem lex_placed {sql : List Char} {read : List Token} (h : lex sql = .ok read) :
    Placed sql [] 0 read := by
  obtain ⟨more, heq, hmore⟩ := lexFrom_placed h (List.drop_zero)
  rw [heq]
  exact hmore

/-! ## 4. The words of phrases -/

/-- The words of the pairs are there, and hold no blank. -/
theorem not_blank_of_mem_phrases : ∀ pair ∈ phrases,
    (pair.1.toList ≠ [] ∧ ∀ c ∈ pair.1.toList, (c != ' ') = true)
      ∧ pair.2.toList ≠ [] ∧ ∀ c ∈ pair.2.toList, Text.isBlank c = false := by
  have hall : (phrases.all fun pair => !pair.1.toList.isEmpty && pair.1.toList.all (· != ' ')
      && (!pair.2.toList.isEmpty && pair.2.toList.all (!Text.isBlank ·))) = true := by
    decide +kernel
  intro pair hpair
  simpa using List.all_eq_true.mp hall pair hpair

/-- The numbers of the blanks. -/
def blankNumbers : List Nat :=
  (List.range 5).map (· + 9) ++ (List.range 5).map (· + 0x1c) ++ [0x85, 0xa0, 0x1680]
    ++ (List.range 11).map (· + 0x2000) ++ [0x2028, 0x2029, 0x202f, 0x205f, 0x3000]

/-- No blank has a case. -/
theorem upperChar_of_isBlank {c : Char} (h : Text.isBlank c = true) : Text.upperChar c = [c] := by
  have hnumbers : ∀ n ∈ blankNumbers, Text.upperChar (Char.ofNat n) = [Char.ofNat n] := by
    decide +kernel
  have hmem : c.toNat ∈ blankNumbers := by
    simp [Text.isBlank] at h
    simp [blankNumbers, List.range_succ]
    omega
  simpa using hnumbers _ hmem

theorem upperChar_flatMap_of_blanks {cs : List Char} (h : ∀ c ∈ cs, Text.isBlank c = true) :
    cs.flatMap Text.upperChar = cs := by
  induction cs with
  | nil => rfl
  | cons c cs ih =>
    obtain ⟨hc, hcs⟩ := List.forall_mem_cons.mp h
    rw [List.flatMap_cons, upperChar_of_isBlank hc, ih hcs]
    rfl

/-- What stands in a text after other characters is what their places span. -/
theorem sliceChars_of_prefix {sql cs : List Char} {start : Nat} (before : List Char)
    (h : before ++ cs <+: sql.drop start) :
    sliceChars sql (start + before.length) (start + before.length + cs.length) = cs := by
  obtain ⟨after, hafter⟩ := h
  rw [sliceChars, ← List.drop_drop, ← hafter]
  simp

/-- To end a part of a text earlier is to cut it at its end. -/
theorem sliceChars_sub {sql : List Char} {stop : Nat} (h : stop ≤ sql.length) (start n : Nat) :
    sliceChars sql start (stop - n) = (sliceChars sql start stop).rdrop n := by
  have hlength : (sliceChars sql start stop).length = stop - start := by
    simp only [sliceChars, List.length_take, List.length_drop]
    omega
  rw [List.rdrop, hlength, sliceChars, sliceChars, List.take_take]
  congr 1
  omega

/-- The source of a run goes to where its last token stops. -/
theorem sourceText_concat (sql : List Char) (t last : Token) (run : List Token) :
    sourceText sql (t :: run ++ [last])
      = String.ofList (sliceChars sql t.start (last.stop + 1)) := by
  have hlast : (t :: (run ++ [last])).getLast? = some last := List.getLast?_concat (l := t :: run)
  simp [sourceText, hlast]

namespace Token.Spells

variable {sql : List Char} {t : Token} {pair : String × String} {first gap second : List Char}

theorem words (h : t.Spells sql pair first gap second) (hkind : t.kind = .phrase) :
    t.words = [⟨.word, pair.1, t.start, t.start + first.length - 1⟩,
      ⟨.word, pair.2, t.start + first.length + 1, t.start + first.length + second.length⟩] := by
  obtain ⟨⟨-, hspace⟩, -⟩ := not_blank_of_mem_phrases pair h.mem
  have htext : t.text.toList = pair.1.toList ++ ' ' :: pair.2.toList := by
    simp [h.text]
  have htake : t.text.toList.takeWhile (· != ' ') = pair.1.toList := by
    rw [htext, List.takeWhile_append_of_pos hspace]
    simp
  have hdrop : t.text.toList.dropWhile (· != ' ') = ' ' :: pair.2.toList := by
    rw [htext, List.dropWhile_append_of_pos hspace]
    simp
  rw [Token.words, if_pos (by simp [hkind]), htake, hdrop, h.writes.firstLength,
    h.writes.secondLength]
  simp [String.length_toList]

theorem first_pos (h : t.Spells sql pair first gap second) : 0 < first.length := by
  obtain ⟨⟨hsome, -⟩, -⟩ := not_blank_of_mem_phrases pair h.mem
  rw [h.writes.firstLength]
  exact List.length_pos_iff.mpr hsome

theorem second_pos (h : t.Spells sql pair first gap second) : 0 < second.length := by
  obtain ⟨-, hsome, -⟩ := not_blank_of_mem_phrases pair h.mem
  rw [h.writes.secondLength]
  exact List.length_pos_iff.mpr hsome

theorem gap_pos (h : t.Spells sql pair first gap second) : 0 < gap.length :=
  List.length_pos_iff.mpr h.writes.parted

/-- The words of a phrase stand in its place, the one after the other. -/
theorem words_successive {ts : List Token} (h : t.Spells sql pair first gap second)
    (hkind : t.kind = .phrase) (rest : Successive (t.stop + 1) ts) :
    Successive t.start (t.words ++ ts) := by
  have hfirst := h.first_pos
  have hsecond := h.second_pos
  have hgap := h.gap_pos
  have hstop := h.stop
  simp only [List.length_append] at hstop
  rw [h.words hkind]
  refine .cons (Nat.le_refl _) ?_ (.cons ?_ ?_ (rest.of_le ?_))
  · simp only
    omega
  · simp only
    omega
  · simp only
    omega
  · simp only
    omega

/-- The words of a phrase span some of the text. -/
theorem words_span (h : t.Spells sql pair first gap second) (hkind : t.kind = .phrase) :
    ∀ w ∈ t.words, w.start ≤ w.stop := by
  have hfirst := h.first_pos
  have hsecond := h.second_pos
  rw [h.words hkind]
  simp only [List.forall_mem_cons, List.not_mem_nil, false_imp_iff, implies_true, and_true]
  omega

/-- The first word of a phrase is written where it stands. -/
theorem source_first (h : t.Spells sql pair first gap second) :
    sliceChars sql t.start (t.start + first.length) = first := by
  have hplace := h.place
  rw [List.append_assoc] at hplace
  exact sliceChars_of_prefix [] ((List.prefix_append _ _).trans hplace)

theorem stop_le (h : t.Spells sql pair first gap second) : t.stop + 1 ≤ sql.length := by
  have hlength := h.place.length_le
  have hfirst := h.first_pos
  rw [List.length_drop] at hlength
  simp only [h.stop, List.length_append] at hlength ⊢
  omega

end Token.Spells

/-- Tokens stand one after the other when phrases are split into words. -/
theorem Placed.words {sql : List Char} {read : List Token} {pos : Nat} {ts : List Token}
    (h : Placed sql read pos ts) : Successive pos (ts.flatMap Token.words) := by
  obtain ⟨hsuccessive, -, hspelled⟩ := h
  induction hsuccessive with
  | nil pos => exact .nil pos
  | @cons pos t ts lower span rest ih =>
    obtain ⟨hfirst, hrest⟩ := List.forall_mem_cons.mp hspelled
    rw [List.flatMap_cons]
    by_cases hkind : t.kind = .phrase
    · obtain ⟨pair, first, gap, second, hspells⟩ := hfirst hkind
      exact (hspells.words_successive hkind (ih hrest)).of_le lower
    · rw [Token.words, if_neg (by simpa using hkind)]
      exact .cons lower span (ih hrest)

/-- Of the tokens with their phrases split only the text after a command word spans nothing. -/
theorem Placed.words_span {sql : List Char} {pos : Nat} {read : List Token}
    (h : Placed sql [] pos read) : ∀ t ∈ read.flatMap Token.words,
      t.start ≤ t.stop ∨ t.kind = .literal ∧ t.start = t.stop + 1
        ∧ ∃ before after, read = before ++ t :: after ∧ opensCommand before.reverse = true := by
  intro t ht
  obtain ⟨p, hp, ht⟩ := List.mem_flatMap.mp ht
  by_cases hkind : p.kind = .phrase
  · obtain ⟨pair, first, gap, second, hspells⟩ := h.spelled p hp hkind
    exact .inl (hspells.words_span hkind t ht)
  · rw [Token.words, if_neg (by simpa using hkind), List.mem_singleton] at ht
    subst ht
    obtain ⟨before, after, hsplit⟩ := List.append_of_mem hp
    have hspans := h.spans before t after hsplit
    rw [List.append_nil] at hspans
    exact hspans.imp_right fun ⟨hliteral, hnone, hopens⟩ =>
      ⟨hliteral, hnone, before, after, hsplit, hopens⟩

/-- What the second word of a phrase spans is that word just if one blank parts the two: if more do,
it starts with one of them. -/
theorem Token.Spells.upper_source_second_iff {sql : List Char} {t : Token}
    {pair : String × String} {first gap second : List Char}
    (h : t.Spells sql pair first gap second) :
    (sliceChars sql (t.start + first.length + 1)
        (t.start + first.length + second.length + 1)).flatMap Text.upperChar = pair.2.toList
      ↔ gap.length = 1 := by
  obtain ⟨blank, gap, rfl⟩ := List.exists_cons_of_ne_nil h.writes.parted
  have hplace : first ++ [blank] ++ (gap ++ second) <+: sql.drop t.start := by
    simpa using h.place
  cases gap with
  | nil =>
    have hsecond := sliceChars_of_prefix _ hplace
    simp only [List.length_append, List.length_singleton, List.nil_append] at hsecond
    rw [Nat.add_right_comm _ second.length, Nat.add_assoc t.start, hsecond, h.writes.secondUpper]
    simp
  | cons blank' gap =>
    -- The first character of the span is the second of the gap, which is in no word.
    have hblank : Text.isBlank blank' = true := h.writes.blank blank' (by simp)
    obtain ⟨-, -, hword⟩ := not_blank_of_mem_phrases pair h.mem
    obtain ⟨n, hn⟩ := Nat.exists_eq_add_one.mpr h.second_pos
    obtain ⟨after, hafter⟩ := hplace
    have hdrop : sql.drop (t.start + first.length + 1) = blank' :: (gap ++ second ++ after) := by
      rw [Nat.add_assoc, ← List.drop_drop, ← hafter,
        show first.length + 1 = (first ++ [blank]).length by simp, List.append_assoc,
        List.drop_left]
      simp
    rw [sliceChars, hdrop, show t.start + first.length + second.length + 1
        - (t.start + first.length + 1) = n + 1 by omega, List.take_succ_cons, List.flatMap_cons,
      upperChar_of_isBlank hblank]
    constructor
    · intro heq
      have hmem : blank' ∈ pair.2.toList := heq ▸ List.mem_cons_self
      rw [hword blank' hmem] at hblank
      cases hblank
    · intro hone
      simp at hone

/-- The tokens of a text stand in it one after the other. Each spans some of it, unless it is the text
after a command word, which may stop right before it starts. The first word of a phrase is what it
spans, in any letter case. The second one is so if and only if one blank parts the two, and the text
of a run that ends in it lacks at its end as many characters as there are more blanks. -/
theorem tokenize_places {sql : List Char} {read : List Token} (h : lex sql = .ok read) :
    tokenize sql = .ok (read.flatMap Token.words)
    ∧ (read.flatMap Token.words).Pairwise (fun t u => t.stop < u.start)
    ∧ (∀ t ∈ read.flatMap Token.words,
        t.start ≤ t.stop ∨ t.kind = .literal ∧ t.start = t.stop + 1
          ∧ ∃ before after, read = before ++ t :: after ∧ opensCommand before.reverse = true)
    ∧ ∀ p ∈ read, p.kind = .phrase → ∃ (w w' : Token) (gap : List Char), p.words = [w, w']
      ∧ gap ≠ [] ∧ (∀ c ∈ gap, Text.isBlank c = true)
      ∧ (Text.upper (sourceText sql [p])).toList = w.text.toList ++ gap ++ w'.text.toList
      ∧ Text.upper (sourceText sql [w]) = w.text
      ∧ (Text.upper (sourceText sql [w']) = w'.text ↔ gap.length = 1)
      ∧ ∀ (t : Token) (run : List Token), (sourceText sql (t :: run ++ [w'])).toList
          = (sourceText sql (t :: run ++ [p])).toList.rdrop (gap.length - 1) := by
  have hplaced := lex_placed h
  refine ⟨by rw [tokenize, h]; rfl, hplaced.words.pairwise.1, hplaced.words_span, ?_⟩
  intro p hp hkind
  obtain ⟨pair, first, gap, second, hspells⟩ := hplaced.spelled p hp hkind
  have hfirst := hspells.first_pos
  have hstop := hspells.stop
  simp only [List.length_append] at hstop
  refine ⟨_, _, gap, hspells.words hkind, hspells.writes.parted, hspells.writes.blank,
    ?_, ?_, ?_, ?_⟩
  · have hsource : sliceChars sql p.start (p.stop + 1) = first ++ gap ++ second := by
      rw [hspells.stop]
      exact sliceChars_of_prefix [] hspells.place
    have hgap := upperChar_flatMap_of_blanks hspells.writes.blank
    simp [sourceText, Text.upper, hsource, hgap, hspells.writes.firstUpper,
      hspells.writes.secondUpper]
  · have hsource := hspells.source_first
    rw [← String.toList_inj]
    simp [sourceText, Text.upper, Nat.sub_add_cancel (Nat.le_add_left_of_le hfirst), hsource,
      hspells.writes.firstUpper]
  · rw [← hspells.upper_source_second_iff, ← String.toList_inj]
    simp [Text.upper, sourceText]
  · intro t run
    rw [sourceText_concat, sourceText_concat, String.toList_ofList, String.toList_ofList,
      ← sliceChars_sub hspells.stop_le]
    have hgap := hspells.gap_pos
    congr 1
    simp only
    omega

example : tokenize "CALL f ; x".toList = .ok [⟨.word, "CALL", 0, 3⟩, ⟨.literal, "f", 7, 6⟩,
    ⟨.symbol, ";", 7, 7⟩, ⟨.word, "x", 9, 9⟩] := by
  decide +kernel

/-- The words of a key that is written with one blank. -/
theorem tokenize_places_of_key :
    let sql := "a PRIMARY KEY".toList
    let key : Token := ⟨.phrase, "PRIMARY KEY", 2, 12⟩
    lex sql = .ok [⟨.word, "a", 0, 0⟩, key]
      ∧ ∃ (w w' : Token) (gap : List Char), key.words = [w, w'] ∧ gap ≠ []
        ∧ (Text.upper (sourceText sql [w']) = w'.text ↔ gap.length = 1) := by
  intro sql key
  have hlex : lex sql = .ok [⟨.word, "a", 0, 0⟩, key] := by decide +kernel
  obtain ⟨-, -, -, hphrase⟩ := tokenize_places hlex
  obtain ⟨w, w', gap, hwords, hgap, -, -, -, hiff, -⟩ := hphrase key (by simp) rfl
  exact ⟨hlex, w, w', gap, hwords, hgap, hiff⟩

/-- With a second blank between the words, the second token is a blank and the word less its last
letter, and so ends the text. -/
theorem wide_key_is_cut :
    let sql := "PRIMARY  KEY".toList
    let key : Token := ⟨.word, "KEY", 8, 10⟩
    tokenize sql = .ok [⟨.word, "PRIMARY", 0, 6⟩, key]
      ∧ sourceText sql [key] = " KE"
      ∧ sourceText sql [⟨.word, "PRIMARY", 0, 6⟩, key] = "PRIMARY  KE" := by
  decide +kernel

end SchemaCatalog.Sql
