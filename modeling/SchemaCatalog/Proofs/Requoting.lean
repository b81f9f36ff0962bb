import SchemaCatalog.Proofs.ReaderLanguage

/-!
# Texts that differ in their quoted names

Two texts are read side by side. Their tokens come in pairs, and the tokens of a pair are alike: they
are of one kind and have one text, unless they are quoted names, and then a mark that the one
consists of is the text of the other too (`Token.Alike`). Two readers `Agree` if from any two places
with paired tokens to come both fail, or both answer, with answers that are related and paired tokens
left.

Agreement is carried by the ways in which readers are put together, so that a reader that is put
together from readers that agree with themselves does so as well. What a reader may look at in a
token is what `Token.Alike` keeps; what it may look at in a part of the text is `ReadAlike`.
-/

namespace SchemaCatalog

open Sql

namespace Sql

/-! ## 1. Pairs of tokens -/

/-- The marks that readers tell by the text of a token. -/
def textMarks : List String := ["(", ",", ".", "*", "-", "=", ":", ":=", ";"]

/-- Tokens of one kind with one text, or two quoted names: a mark that one of them consists of is the
other, and one of them writes a number if the other does. -/
structure Token.Alike (t u : Token) : Prop where
  kind : t.kind = u.kind
  text : t.kind ≠ .quoted → t.text = u.text
  mark : ∀ symbol ∈ textMarks, t.text = symbol ↔ u.text = symbol
  number : (Text.readDecimal? t.text).isSome = (Text.readDecimal? u.text).isSome

namespace Token.Alike

instance (t u : Token) : Decidable (t.Alike u) :=
  decidable_of_iff (t.kind = u.kind ∧ (t.kind ≠ .quoted → t.text = u.text)
    ∧ (∀ symbol ∈ textMarks, t.text = symbol ↔ u.text = symbol)
    ∧ (Text.readDecimal? t.text).isSome = (Text.readDecimal? u.text).isSome)
    ⟨fun ⟨hkind, htext, hmark, hnumber⟩ => ⟨hkind, htext, hmark, hnumber⟩,
      fun h => ⟨h.kind, h.text, h.mark, h.number⟩⟩

variable {t u : Token}

theorem refl (t : Token) : t.Alike t := ⟨rfl, fun _ => rfl, fun _ _ => Iff.rfl, rfl⟩

theorem symm (h : t.Alike u) : u.Alike t :=
  ⟨h.kind.symm, fun hu => (h.text (h.kind ▸ hu)).symm, fun symbol hs => (h.mark symbol hs).symm,
    h.number.symm⟩

theorem isString_eq (h : t.Alike u) : t.isString = u.isString := by
  rw [Token.isString, Token.isString, h.kind]

theorem isWord_eq (h : t.Alike u) : t.isWord = u.isWord := by
  cases hword : t.kind == .word with
  | true => rw [Token.isWord, Token.isWord, ← h.kind, h.text (by simp at hword; simp [hword])]
  | false => rw [Token.isWord, Token.isWord, ← h.kind, hword, Bool.false_and, Bool.false_and]

theorem isName_eq (h : t.Alike u) : t.isName = u.isName := by
  rw [Token.isName, Token.isName, h.isWord_eq, h.kind]

theorem isSymbol_eq (h : t.Alike u) (symbol : String) : t.isSymbol symbol = u.isSymbol symbol := by
  cases hsymbol : t.kind == .symbol with
  | true => rw [Token.isSymbol, Token.isSymbol, ← h.kind, h.text (by simp at hsymbol; simp [hsymbol])]
  | false => rw [Token.isSymbol, Token.isSymbol, ← h.kind, hsymbol, Bool.false_and, Bool.false_and]

theorem reads_eq (h : t.Alike u) {symbol : String} (hs : symbol ∈ textMarks) :
    t.reads symbol = u.reads symbol := by
  rw [Token.reads, Token.reads, h.isString_eq, Bool.eq_iff_iff]
  simp [h.mark symbol hs]

theorem reads (h : t.Alike u) {symbol : String} (ht : t.reads symbol = true)
    (hs : symbol ∈ textMarks) : u.reads symbol = true := h.reads_eq hs ▸ ht

theorem isOpen_eq (h : t.Alike u) : t.isOpen = u.isOpen := h.isSymbol_eq "("

theorem isClose_eq (h : t.Alike u) : t.isClose = u.isClose := h.isSymbol_eq ")"

theorem isComma_eq (h : t.Alike u) : t.isComma = u.isComma := h.isSymbol_eq ","

theorem isSemicolon_eq (h : t.Alike u) : t.isSemicolon = u.isSemicolon := h.isSymbol_eq ";"

theorem nesting_eq (h : t.Alike u) : t.nesting = u.nesting := by
  rw [Token.nesting, Token.nesting, h.isOpen_eq, h.isClose_eq]

/-- A bare word is the same in both. -/
theorem text_of_isWord (h : t.Alike u) (ht : t.isWord = true) : t.text = u.text := by
  refine h.text fun hquoted => ?_
  simp [Token.isWord, hquoted] at ht

theorem spells_eq (h : t.Alike u) (word : String) : t.spells word = u.spells word := by
  cases ht : t.isWord with
  | true => rw [Token.spells, Token.spells, ← h.isWord_eq, h.text_of_isWord ht]
  | false => rw [Token.spells, Token.spells, ← h.isWord_eq, ht, Bool.false_and, Bool.false_and]

end Token.Alike

/-- The part of the text from one token to another. -/
def textFromTo (sql : List Char) (t t' : Token) : String :=
  String.ofList (sliceChars sql t.start (t'.stop + 1))

/-- Both texts are empty or neither is, and both or neither are read as expressions. -/
structure ReadAlike (s s' : String) : Prop where
  isEmpty : s.isEmpty = s'.isEmpty
  parses : (Expression.parse s).isOk = (Expression.parse s').isOk

theorem ReadAlike.refl (s : String) : ReadAlike s s := ⟨rfl, rfl⟩

-- Equal texts are told without reading them.
instance (s s' : String) : Decidable (ReadAlike s s') :=
  if h : s = s' then .isTrue (h ▸ .refl s)
  else decidable_of_iff (s.isEmpty = s'.isEmpty
      ∧ (Expression.parse s).isOk = (Expression.parse s').isOk)
    ⟨fun ⟨hempty, hparses⟩ => ⟨hempty, hparses⟩, fun h => ⟨h.isEmpty, h.parses⟩⟩

theorem ReadAlike.symm {s s' : String} (h : ReadAlike s s') : ReadAlike s' s :=
  ⟨h.isEmpty.symm, h.parses.symm⟩

end Sql

/-- Two texts and the pairs of their tokens. The parts of the two texts between tokens of two pairs
are read alike. -/
structure Requoting where
  sql : List Char
  sql' : List Char
  pairs : Token → Token → Prop
  alike {t u : Token} : pairs t u → t.Alike u
  texts {t u t' u' : Token} : pairs t u → pairs t' u' →
    ReadAlike (textFromTo sql t t') (textFromTo sql' u u')

namespace Requoting

variable {q : Requoting} {ts us : List Token}

/-- The same pairs, with the texts the other way round. -/
def symm (q : Requoting) : Requoting where
  sql := q.sql'
  sql' := q.sql
  pairs := flip q.pairs
  alike h := (q.alike h).symm
  texts h h' := (q.texts h h').symm

/-- Runs of tokens that are paired in order. -/
abbrev Runs (q : Requoting) : List Token → List Token → Prop := List.Forall₂ q.pairs

theorem Runs.reverse (h : q.Runs ts us) : q.Runs ts.reverse us.reverse :=
  List.forall₂_reverse_iff.mpr h

theorem Runs.isEmpty_eq (h : q.Runs ts us) : ts.isEmpty = us.isEmpty := by
  cases h <;> rfl

/-- The texts that paired runs span are read alike. -/
theorem Runs.sourceText (h : q.Runs ts us) :
    ReadAlike (Sql.sourceText q.sql ts) (Sql.sourceText q.sql' us) := by
  cases h with
  | nil => exact .refl _
  | @cons t u ts us hfirst hrest =>
    have hreverse : q.Runs (t :: ts).reverse (u :: us).reverse := Runs.reverse (.cons hfirst hrest)
    cases hts : (t :: ts).reverse with
    | nil => simp at hts
    | cons last others =>
      rw [hts] at hreverse
      cases hus : (u :: us).reverse with
      | nil => simp at hus
      | cons last' others' =>
        rw [hus] at hreverse
        cases hreverse with
        | cons hlast _ =>
          simp only [Sql.sourceText, List.getLast?_eq_head?_reverse, hts, hus, List.head?_cons]
          exact q.texts hfirst hlast

theorem Runs.startsWithWords_eq (h : q.Runs ts us) (words : List String) :
    startsWithWords words ts = startsWithWords words us := by
  induction words generalizing ts us with
  | nil => rfl
  | cons word words ih =>
    cases h with
    | nil => rfl
    | cons hfirst hrest =>
      rw [startsWithWords_cons, startsWithWords_cons, (q.alike hfirst).spells_eq, ih hrest]

/-- Two runs and what is left after each, paired. -/
def Splits (q : Requoting) (split split' : List Token × List Token) : Prop :=
  q.Runs split.1 split'.1 ∧ q.Runs split.2 split'.2

theorem Runs.closeGroup (h : q.Runs ts us) (depth : Nat) {read read' : List Token}
    (hread : q.Runs read read') :
    Option.Rel q.Splits (closeGroup depth read ts) (closeGroup depth read' us) := by
  induction h generalizing depth read read' with
  | nil => exact .none
  | @cons t u ts us hfirst hrest ih =>
    have halike := q.alike hfirst
    rw [Sql.closeGroup, Sql.closeGroup, halike.isOpen_eq, halike.isClose_eq]
    split
    · split
      · exact .some ⟨hread.reverse, hrest⟩
      · exact ih _ (.cons hfirst hread)
    · split
      · exact ih _ (.cons hfirst hread)
      · exact ih _ (.cons hfirst hread)

theorem Runs.spanTop (h : q.Runs ts us) {stops : Token → Bool}
    (hstops : ∀ t u, q.pairs t u → stops t = stops u) (depth : Int) {read read' : List Token}
    (hread : q.Runs read read') :
    q.Splits (spanTop stops depth read ts) (spanTop stops depth read' us) := by
  induction h generalizing depth read read' with
  | nil => exact ⟨hread.reverse, .nil⟩
  | @cons t u ts us hfirst hrest ih =>
    rw [Sql.spanTop, Sql.spanTop, hstops t u hfirst, (q.alike hfirst).nesting_eq]
    split
    · exact ⟨hread.reverse, .cons hfirst hrest⟩
    · exact ih _ (.cons hfirst hread)

/-- The parts of paired runs between their commas are paired. -/
theorem Runs.splitCommas (h : q.Runs ts us) :
    List.Forall₂ q.Runs (splitCommas ts) (splitCommas us) := by
  suffices hparts : ∀ (depth : Int) (current current' : List Token), q.Runs current current' →
      List.Forall₂ q.Runs (commaPartsFrom depth current ts) (commaPartsFrom depth current' us) from
    hparts 0 [] [] .nil
  induction h with
  | nil =>
    intro depth current current' hcurrent
    rw [commaPartsFrom, commaPartsFrom, hcurrent.isEmpty_eq]
    split
    · exact .nil
    · exact .cons hcurrent.reverse .nil
  | @cons t u ts us hfirst hrest ih =>
    intro depth current current' hcurrent
    have halike := q.alike hfirst
    rw [commaPartsFrom, commaPartsFrom, halike.isComma_eq, halike.nesting_eq, hcurrent.isEmpty_eq]
    split
    · split
      · exact ih _ _ _ .nil
      · exact .cons hcurrent.reverse (ih _ _ _ .nil)
    · exact ih _ _ _ (.cons hfirst hcurrent)

/-! ## 2. Readers that agree -/

/-- Places in the two texts with paired tokens to come. -/
structure Places (q : Requoting) (c c' : Cursor) : Prop where
  sql : c.sql = q.sql
  sql' : c'.sql = q.sql'
  rest : q.Runs c.rest c'.rest

/-- Both have failed, or both have answered, what is related, and stand at paired places. -/
inductive Outcomes {α : Type} (q : Requoting) (S : α → α → Prop) :
    Except SyntaxError (α × Cursor) → Except SyntaxError (α × Cursor) → Prop
  | ok {a a' : α} {c c' : Cursor} : S a a' → q.Places c c' →
      Outcomes q S (.ok (a, c)) (.ok (a', c'))
  | error (e e' : SyntaxError) : Outcomes q S (.error e) (.error e')

/-- From paired places both readers fail, or both answer, what is related, and leave paired tokens. -/
def Agree {α : Type} (q : Requoting) (r r' : Reader α) (S : α → α → Prop) : Prop :=
  ∀ c c', q.Places c c' → q.Outcomes S (r c) (r' c')

/-- Any two answers are related. -/
def Any {α : Type} (_ _ : α) : Prop := True

variable {α β : Type} {r r' : Reader α} {S S' : α → α → Prop} {T : β → β → Prop}

namespace Outcomes

variable {x y : Except SyntaxError (α × Cursor)}

theorem isOk_eq (h : q.Outcomes S x y) : x.isOk = y.isOk := by
  cases h <;> rfl

/-- An error stays one, and after an answer both go on to related ones. -/
theorem bind (h : q.Outcomes S x y) {k k' : α → Reader β}
    (hk : ∀ a a' c c', S a a' → q.Places c c' → q.Outcomes T (k a c) (k' a' c')) :
    q.Outcomes T (match (motive := _ → Except SyntaxError (β × Cursor)) x with
        | .error e => .error e
        | .ok (a, c) => k a c)
      (match (motive := _ → Except SyntaxError (β × Cursor)) y with
        | .error e => .error e
        | .ok (a, c) => k' a c) := by
  cases h with
  | ok ha hplaces => exact hk _ _ _ _ ha hplaces
  | error e e' => exact .error e e'

end Outcomes

namespace Agree

theorem mono (h : q.Agree r r' S) (hS : ∀ a a', S a a' → S' a a') : q.Agree r r' S' := by
  intro c c' hc
  have houtcomes := h c c' hc
  revert houtcomes
  generalize r c = x
  generalize r' c' = y
  rintro (⟨ha, hplaces⟩ | ⟨e, e'⟩)
  · exact .ok (hS _ _ ha) hplaces
  · exact .error e e'

theorem any (h : q.Agree r r' S) : q.Agree r r' Any := h.mono fun _ _ _ => True.intro

theorem pure {a a' : α} (h : S a a') : q.Agree (Pure.pure a) (Pure.pure a') S :=
  fun _ _ hc => .ok h hc

theorem done (a a' : α) : q.Agree (Pure.pure a) (Pure.pure a') Any := .pure True.intro

theorem bind {f f' : α → Reader β} (hr : q.Agree r r' S)
    (hf : ∀ a a', S a a' → q.Agree (f a) (f' a') T) : q.Agree (r >>= f) (r' >>= f') T :=
  fun c c' hc => (hr c c' hc).bind fun a a' c₁ c₁' ha hplaces => hf a a' ha c₁ c₁' hplaces

/-- After the same answer both go on the same way. -/
theorem next {f f' : α → Reader β} (hr : q.Agree r r' Eq) (hf : ∀ a, q.Agree (f a) (f' a) T) :
    q.Agree (r >>= f) (r' >>= f') T := by
  refine hr.bind fun a a' h => ?_
  subst h
  exact hf a

theorem ite {p : Prop} [Decidable p] {r₁ r₁' : Reader α} (h : q.Agree r r' S)
    (h₁ : q.Agree r₁ r₁' S) : q.Agree (if p then r else r₁) (if p then r' else r₁') S := by
  split
  · exact h
  · exact h₁

/-- A choice by a condition that is the same for both. -/
theorem choose {b b' : Bool} {r₁ r₁' : Reader α} (hb : b = b') (h : q.Agree r r' S)
    (h₁ : q.Agree r₁ r₁' S) :
    q.Agree (if b then r else r₁) (if b' then r' else r₁') S := by
  subst hb
  exact .ite h h₁

/-- A choice by what a reader answers. -/
theorem branch {test test' : Reader Bool} {r₁ r₁' : Reader α} (hr : q.Agree test test' Eq)
    (h : q.Agree r r' S) (h₁ : q.Agree r₁ r₁' S) :
    q.Agree (test >>= fun b => if b then r else r₁) (test' >>= fun b => if b then r' else r₁') S :=
  hr.next fun _ => .ite h h₁

/-- A choice by what a reader answers, after which both branches go on alike. -/
theorem join {test test' : Reader Bool} {r₁ r₁' : Reader α} {k k' : α → Reader β}
    (ht : q.Agree test test' Eq) (h : q.Agree r r' S) (h₁ : q.Agree r₁ r₁' S)
    (hk : ∀ a a', S a a' → q.Agree (k a) (k' a') T) :
    q.Agree (test >>= fun b => if b then r >>= k else r₁ >>= k)
      (test' >>= fun b => if b then r' >>= k' else r₁' >>= k') T :=
  .branch ht (.bind h hk) (.bind h₁ hk)

/-- A reader that is run if a test succeeds, and what comes after it. -/
theorem onSuccess {test test' : Reader Bool} {k k' : Reader β} (ht : q.Agree test test' Eq)
    (h : q.Agree r r' S) (hk : q.Agree k k' T) :
    q.Agree (test >>= fun b => if b then r >>= fun _ => k else k)
      (test' >>= fun b => if b then r' >>= fun _ => k' else k') T :=
  .branch ht (.bind h fun _ _ _ => hk) hk

/-- A reader that is run if a test fails, and what comes after it. -/
theorem onFailure {test test' : Reader Bool} {k k' : Reader β} (ht : q.Agree test test' Eq)
    (h : q.Agree r r' S) (hk : q.Agree k k' T) :
    q.Agree (test >>= fun b => if b then k else r >>= fun _ => k)
      (test' >>= fun b => if b then k' else r' >>= fun _ => k') T :=
  .branch ht hk (.bind h fun _ _ _ => hk)

theorem or {x x' y y' : Reader Bool} (hx : q.Agree x x' Eq) (hy : q.Agree y y' Eq) :
    q.Agree (x <||> y) (x' <||> y') Eq := by
  rw [Reader.orM_eq, Reader.orM_eq]
  exact .branch hx (.pure rfl) hy

theorem and {x x' y y' : Reader Bool} (hx : q.Agree x x' Eq) (hy : q.Agree y y' Eq) :
    q.Agree (x <&&> y) (x' <&&> y') Eq := by
  unfold andM
  refine hx.next fun b => ?_
  cases b with
  | true => exact hy
  | false => exact .pure rfl

/-- A reader whose answer is only put into a larger one. -/
theorem bindPure {g g' : α → β} (hr : q.Agree r r' S) :
    q.Agree (r >>= fun a => Pure.pure (g a)) (r' >>= fun a => Pure.pure (g' a)) Any :=
  hr.bind fun a a' _ => .done (g a) (g' a')

/-- A reader whose answer is put into a value that is there. -/
theorem bindSome {g g' : α → β} (hr : q.Agree r r' S) :
    q.Agree (r >>= fun a => Pure.pure (some (g a))) (r' >>= fun a => Pure.pure (some (g' a)))
      (Option.Rel Any) :=
  hr.bind fun _ _ _ => .pure (.some True.intro)

theorem map {g g' : α → β} (hr : q.Agree r r' S) : q.Agree (g <$> r) (g' <$> r') Any :=
  hr.bind fun a a' _ => .done (g a) (g' a')

theorem complain (complaint complaint' : Complaint) :
    q.Agree (Reader.complain complaint : Reader α) (Reader.complain complaint') S :=
  fun _ _ _ => .error _ _

theorem expected (what what' : String) :
    q.Agree (Reader.expected what : Reader α) (Reader.expected what') S := .complain _ _

theorem unexpected (what what' : String) :
    q.Agree (Reader.unexpected what : Reader α) (Reader.unexpected what') S := .complain _ _

theorem failWith (e e' : SyntaxError) :
    q.Agree (Reader.failWith e : Reader α) (Reader.failWith e') S := fun _ _ _ => .error _ _

/-! ### Words and marks -/

theorem cursor : q.Agree Reader.cursor Reader.cursor q.Places := fun _ _ hc => .ok hc hc

theorem atEnd : q.Agree Reader.atEnd Reader.atEnd Eq := fun _ _ hc => .ok hc.rest.isEmpty_eq hc

theorem word?_eq {c c' : Cursor} (h : q.Places c c') : c.word? = c'.word? := by
  obtain ⟨sql, statement, rest⟩ := c
  obtain ⟨sql', statement', rest'⟩ := c'
  simp only [Cursor.word?]
  cases h.rest with
  | nil => rfl
  | @cons t u ts us hfirst hrest =>
    have halike := q.alike hfirst
    cases ht : t.isWord with
    | true => simp [ht, ← halike.isWord_eq, halike.text_of_isWord ht]
    | false => simp [ht, ← halike.isWord_eq]

theorem word? : q.Agree Reader.word? Reader.word? Eq := fun _ _ hc => .ok (word?_eq hc) hc

theorem atWords (words : List String) :
    q.Agree (Reader.atWords words) (Reader.atWords words) Eq :=
  fun _ _ hc => .ok (hc.rest.startsWithWords_eq words) hc

theorem accept (words : List String) : q.Agree (Reader.accept words) (Reader.accept words) Eq := by
  intro c c' hc
  rw [Reader.accept, Reader.accept, hc.rest.startsWithWords_eq words]
  split
  · exact .ok rfl ⟨hc.sql, hc.sql', List.forall₂_drop _ hc.rest⟩
  · exact .ok rfl hc

theorem acceptAny (phrases : List (List String)) :
    q.Agree (Reader.acceptAny phrases) (Reader.acceptAny phrases) Eq := by
  induction phrases with
  | nil => exact .pure rfl
  | cons words others ih => exact .or (.accept words) ih

theorem expect (words : List String) : q.Agree (Reader.expect words) (Reader.expect words) Eq :=
  .branch (.accept words) (.pure rfl) (.expected _ _)

theorem acceptSymbol {symbol : String} (hs : symbol ∈ textMarks) :
    q.Agree (Reader.acceptSymbol symbol) (Reader.acceptSymbol symbol) Eq := by
  rintro ⟨sql, statement, rest⟩ ⟨sql', statement', rest'⟩ ⟨hsql, hsql', hrest⟩
  cases hrest with
  | nil => exact .ok rfl ⟨hsql, hsql', .nil⟩
  | cons hfirst hrest =>
    simp only [Reader.acceptSymbol, (q.alike hfirst).reads_eq hs]
    split
    · exact .ok rfl ⟨hsql, hsql', hrest⟩
    · exact .ok rfl ⟨hsql, hsql', .cons hfirst hrest⟩

theorem atSymbol {symbol : String} (hs : symbol ∈ textMarks) :
    q.Agree (Reader.atSymbol symbol) (Reader.atSymbol symbol) Eq := by
  rintro ⟨sql, statement, rest⟩ ⟨sql', statement', rest'⟩ ⟨hsql, hsql', hrest⟩
  cases hrest with
  | nil => exact .ok rfl ⟨hsql, hsql', .nil⟩
  | cons hfirst hrest =>
    exact .ok ((q.alike hfirst).reads_eq hs) ⟨hsql, hsql', .cons hfirst hrest⟩

theorem expectSymbol {symbol : String} (hs : symbol ∈ textMarks) :
    q.Agree (Reader.expectSymbol symbol) (Reader.expectSymbol symbol) Eq :=
  .branch (.acceptSymbol hs) (.pure rfl) (.expected _ _)

/-! ### Single tokens -/

theorem advance : q.Agree Reader.advance Reader.advance q.pairs := by
  rintro ⟨sql, statement, rest⟩ ⟨sql', statement', rest'⟩ ⟨hsql, hsql', hrest⟩
  cases hrest with
  | nil => exact .error _ _
  | cons hfirst hrest => exact .ok hfirst ⟨hsql, hsql', hrest⟩

theorem identifier : q.Agree Reader.identifier Reader.identifier Any := by
  rintro ⟨sql, statement, rest⟩ ⟨sql', statement', rest'⟩ ⟨hsql, hsql', hrest⟩
  cases hrest with
  | nil => exact .error _ _
  | cons hfirst hrest =>
    simp only [Reader.identifier, (q.alike hfirst).isName_eq]
    split
    · exact .ok True.intro ⟨hsql, hsql', hrest⟩
    · exact .error _ _

theorem string : q.Agree Reader.string Reader.string Any := by
  rintro ⟨sql, statement, rest⟩ ⟨sql', statement', rest'⟩ ⟨hsql, hsql', hrest⟩
  cases hrest with
  | nil => exact .error _ _
  | cons hfirst hrest =>
    simp only [Reader.string, (q.alike hfirst).isString_eq]
    split
    · exact .ok True.intro ⟨hsql, hsql', hrest⟩
    · exact .error _ _

theorem integer : q.Agree Reader.integer Reader.integer Any := by
  refine Agree.advance.bind fun t u h => ?_
  have hnumber := (q.alike h).number
  cases ht : Text.readDecimal? t.text with
  | some value =>
    rw [ht] at hnumber
    obtain ⟨value', hu⟩ := Option.isSome_iff_exists.mp hnumber.symm
    simp only [hu]
    exact .pure True.intro
  | none =>
    rw [ht] at hnumber
    rw [Option.isSome_none, eq_comm, Option.isSome_eq_false_iff, Option.isNone_iff_eq_none] at hnumber
    simp only [hnumber]
    exact .expected _ _

/-! ### Runs of tokens -/

/-- The further parts of a dotted name are as many in both, and paired tokens are left. -/
theorem dottedParts (h : q.Runs ts us) :
    List.Forall₂ Any (Reader.dottedParts ts).1 (Reader.dottedParts us).1
      ∧ q.Runs (Reader.dottedParts ts).2 (Reader.dottedParts us).2 := by
  fun_induction Reader.dottedParts ts generalizing us with
  | case1 point t ts hdot parts rest hparts ih =>
    rcases h with _ | ⟨hpoint, _ | ⟨hname, hrest⟩⟩
    rw [(q.alike hpoint).reads_eq (by decide), (q.alike hname).isName_eq] at hdot
    have := ih hrest
    rw [hparts] at this
    simp only [Reader.dottedParts, if_pos hdot]
    exact ⟨.cons True.intro this.1, this.2⟩
  | case2 point t ts hdot =>
    rcases h with _ | ⟨hpoint, _ | ⟨hname, hrest⟩⟩
    rw [(q.alike hpoint).reads_eq (by decide), (q.alike hname).isName_eq] at hdot
    simp only [Reader.dottedParts, if_neg hdot]
    exact ⟨.nil, .cons hpoint (.cons hname hrest)⟩
  | case3 ts hshort =>
    rcases h with _ | ⟨hpoint, _ | ⟨hname, hrest⟩⟩
    · exact ⟨.nil, .nil⟩
    · exact ⟨.nil, .cons hpoint .nil⟩
    · exact (hshort _ _ _ rfl).elim

theorem qualifiedName : q.Agree Reader.qualifiedName Reader.qualifiedName
    fun name name' => List.Forall₂ Any name.2 name'.2 := by
  refine Agree.identifier.bind fun first first' _ c c' hc => ?_
  have hparts := dottedParts hc.rest
  exact .ok hparts.1 ⟨hc.sql, hc.sql', hparts.2⟩

theorem parenthesized : q.Agree Reader.parenthesized Reader.parenthesized q.Runs := by
  refine (Agree.expectSymbol (by decide)).bind fun _ _ _ c c' hc => ?_
  have hgroup := hc.rest.closeGroup 0 .nil
  revert hgroup
  generalize closeGroup 0 [] c.rest = group
  generalize closeGroup 0 [] c'.rest = group'
  rintro (hsplit | -)
  · exact .ok hsplit.1 ⟨hc.sql, hc.sql', hsplit.2⟩
  · exact .error _ _

theorem before {stops : Token → Bool} (hstops : ∀ t u, q.pairs t u → stops t = stops u) :
    q.Agree (Reader.before stops) (Reader.before stops) q.Runs := by
  intro c c' hc
  have hsplit := hc.rest.spanTop hstops 0 .nil
  exact .ok hsplit.1 ⟨hc.sql, hc.sql', hsplit.2⟩

/-- A bare word is among some words in both, or in neither. -/
theorem isWord_and_contains {t u : Token} (h : q.pairs t u) (words : List String) :
    (t.isWord && words.contains (Text.upper t.text))
      = (u.isWord && words.contains (Text.upper u.text)) := by
  have halike := q.alike h
  cases ht : t.isWord with
  | true => rw [← halike.isWord_eq, ht, halike.text_of_isWord ht]
  | false => rw [← halike.isWord_eq, ht, Bool.false_and, Bool.false_and]

theorem untilWord (words : List String) :
    q.Agree (Reader.untilWord words) (Reader.untilWord words) q.Runs :=
  .before fun _ _ h => isWord_and_contains h words

theorem untilWordOrSymbol (words : List String) {symbols : List String}
    (hs : ∀ symbol ∈ symbols, symbol ∈ textMarks) :
    q.Agree (Reader.untilWordOrSymbol words symbols) (Reader.untilWordOrSymbol words symbols)
      q.Runs := by
  refine .before fun t u h => ?_
  have hsymbols : symbols.any t.reads = symbols.any u.reads := by
    rw [Bool.eq_iff_iff, List.any_eq_true, List.any_eq_true]
    refine exists_congr fun symbol => and_congr_right fun hmem => ?_
    rw [(q.alike h).reads_eq (hs symbol hmem)]
  rw [isWord_and_contains h words, hsymbols]

theorem remaining : q.Agree Reader.remaining Reader.remaining q.Runs :=
  fun _ _ hc => .ok hc.rest ⟨hc.sql, hc.sql', .nil⟩

theorem text (h : q.Runs ts us) : q.Agree (Reader.text ts) (Reader.text us) ReadAlike := by
  intro c c' hc
  rw [Reader.text, Reader.text, hc.sql, hc.sql']
  exact .ok h.sourceText hc

theorem statementText : q.Agree Reader.statementText Reader.statementText Any :=
  fun _ _ hc => .ok True.intro hc

/-- Paired runs that are read on their own. -/
theorem within (h : q.Runs ts us) (hr : q.Agree r r' S) :
    q.Agree (Reader.within ts r) (Reader.within us r') S := by
  intro c c' hc
  have hstart : q.Places (Cursor.start c.sql ts) (Cursor.start c'.sql us) := ⟨hc.sql, hc.sql', h⟩
  exact (hr _ _ hstart).bind fun _ _ _ _ ha _ => .ok ha hc

/-! ### Repetition -/

theorem iterateAtMost {body body' : α → Reader (Option α)}
    (step : ∀ a a', S a a' → q.Agree (body a) (body' a') (Option.Rel S)) (n : Nat) {a a' : α}
    (ha : S a a') :
    q.Agree (Reader.iterateAtMost body n a) (Reader.iterateAtMost body' n a') S := by
  induction n generalizing a a' with
  | zero => exact .pure ha
  | succ n ih =>
    refine (step a a' ha).bind fun next next' hnext => ?_
    cases hnext with
    | some h => exact ih h
    | none => exact .pure ha

theorem iterate {body body' : α → Reader (Option α)}
    (step : ∀ a a', S a a' → q.Agree (body a) (body' a') (Option.Rel S)) {a a' : α} (ha : S a a') :
    q.Agree (Reader.iterate body a) (Reader.iterate body' a') S := by
  intro c c' hc
  -- The bound is one more than the tokens to come, and of them there are as many in both texts.
  rw [Reader.iterate, Reader.iterate, hc.rest.length_eq]
  exact iterateAtMost step _ ha c c' hc

theorem untilEnd {body body' : α → Reader α}
    (step : ∀ a a', S a a' → q.Agree (body a) (body' a') S) {a a' : α} (ha : S a a') :
    q.Agree (Reader.untilEnd body a) (Reader.untilEnd body' a') S := by
  refine .iterate (fun a a' ha => .branch .atEnd (.pure .none) ?_) ha
  exact (step a a' ha).bind fun _ _ h => .pure (.some h)

theorem commaSeparated {item : Reader α} (h : q.Agree item item Any) :
    q.Agree (Reader.commaSeparated item) (Reader.commaSeparated item) Any := by
  refine h.bind fun first first' _ => .bind (.iterate (S := Any) ?_ True.intro) fun _ _ _ =>
    .pure True.intro
  intro items items' _
  refine .branch (.acceptSymbol (by decide)) ?_ (.pure .none)
  exact h.bind fun _ _ _ => .pure (.some True.intro)

theorem each {γ : Type} {R : γ → γ → Prop} {f f' : γ → Reader β}
    (step : ∀ a a', R a a' → q.Agree (f a) (f' a') T) {as as' : List γ} (h : List.Forall₂ R as as') :
    q.Agree (Reader.each f as) (Reader.each f' as') (List.Forall₂ T) := by
  induction h with
  | nil => exact .pure .nil
  | cons hfirst _ ih =>
    exact (step _ _ hfirst).bind fun _ _ hb => ih.bind fun _ _ hbs => .pure (.cons hb hbs)

end Agree

end Requoting

end SchemaCatalog
