import Mathlib.Data.List.Forall2
import SchemaCatalog.Proofs.Parentheses
import SchemaCatalog.Statement.Grammar.Drop

/-!
# What the readers of statements pass

A reader `Parses` a language of tokens before what follows if, wherever the tokens that are left have
the property that is named, it has passed a run of the language. The property is one of the tokens
that come next: a dotted name ends where no point follows, a list where no comma does. Between two
parts it is the second that must start so that the first ends before it (`Parses.bind`).

Words that may be there are passed wherever they stand (`Optional`), so that without them what comes
next does not start with them.
-/

namespace SchemaCatalog.Sql

/-! ## 1. Words and marks -/

/-- The run is the given bare words, in any letter case. -/
def IsWords (words : List String) (ts : List Token) : Prop :=
  ts.length = words.length ∧ startsWithWords words ts = true

/-- The run is the words, or it is empty and they do not come next either. -/
inductive Optional (words : List String) : List Token → Bool → List Token → Prop
  | present {opt : List Token} (rest : List Token) : IsWords words opt → Optional words opt true rest
  | absent {rest : List Token} : startsWithWords words rest = false → Optional words [] false rest

/-- The next token does not read as the mark. -/
def NotAt (symbol : String) (ts : List Token) : Prop := ∀ t ∈ ts.head?, t.reads symbol = false

theorem notAt_cons {symbol : String} {t : Token} {ts : List Token} :
    NotAt symbol (t :: ts) ↔ t.reads symbol = false := by
  simp [NotAt]

theorem isWords_cons {word : String} {words : List String} {ts : List Token} :
    IsWords (word :: words) ts ↔ ∃ t rest, ts = t :: rest ∧ t.spells word = true
      ∧ IsWords words rest := by
  cases ts with
  | nil => simp [IsWords]
  | cons t ts =>
    simp only [IsWords, startsWithWords, Token.spells, List.length_cons, Nat.add_right_cancel_iff,
      Bool.and_eq_true, List.cons.injEq]
    constructor
    · rintro ⟨hlength, ht, hwords⟩
      exact ⟨t, ts, ⟨rfl, rfl⟩, ht, hlength, hwords⟩
    · rintro ⟨_, _, ⟨rfl, rfl⟩, ht, hlength, hwords⟩
      exact ⟨hlength, ht, hwords⟩

theorem isWords_nil {ts : List Token} : IsWords [] ts ↔ ts = [] := by
  simp [IsWords, startsWithWords]

theorem startsWithWords_cons {word : String} {words : List String} {t : Token} {ts : List Token} :
    startsWithWords (word :: words) (t :: ts) = (t.spells word && startsWithWords words ts) := rfl

/-- A token spells one word. -/
theorem spells_eq_beq {t : Token} {word : String} (h : t.spells word = true) (other : String) :
    t.spells other = (word == other) := by
  simp only [Token.spells, Bool.and_eq_true, beq_iff_eq] at h
  simp [Token.spells, h.1, h.2]

theorem startsWithWords_append {words : List String} {ts : List Token}
    (h : ts.length = words.length) (rest : List Token) :
    startsWithWords words (ts ++ rest) = startsWithWords words ts := by
  induction words generalizing ts with
  | nil => rfl
  | cons w words ih =>
    cases ts with
    | nil => simp at h
    | cons t ts => simp [startsWithWords, ih (by simpa using h)]

/-- Words that come next are a run at the front. -/
theorem exists_of_startsWithWords {words : List String} {ts : List Token}
    (h : startsWithWords words ts = true) :
    ∃ opt, IsWords words opt ∧ ts = opt ++ ts.drop words.length := by
  have hlength : words.length ≤ ts.length := by
    induction words generalizing ts with
    | nil => simp
    | cons w words ih =>
      cases ts with
      | nil => simp [startsWithWords] at h
      | cons t ts =>
        simp only [startsWithWords, Bool.and_eq_true] at h
        simpa using ih h.2
  have htake : (ts.take words.length).length = words.length := List.length_take_of_le hlength
  refine ⟨ts.take words.length, ⟨htake, ?_⟩, (List.take_append_drop _ _).symm⟩
  rw [← startsWithWords_append htake (ts.drop words.length), List.take_append_drop, h]

/-- Words of which the first is another do not come next. -/
theorem startsWithWords_of_isWords {word other : String} {words others : List String}
    {ts : List Token} (h : IsWords (word :: words) ts) (hne : word ≠ other) (rest : List Token) :
    startsWithWords (other :: others) (ts ++ rest) = false := by
  obtain ⟨t, more, rfl, ht, -⟩ := isWords_cons.mp h
  rw [List.cons_append, startsWithWords_cons, Maintenance.spells_eq_false ht hne, Bool.false_and]

/-- A set of runs of tokens of a text, each with what it is read as there. -/
abbrev TextLanguage (α : Type) := List Char → TokenLanguage α

namespace TextLanguage

variable {α β : Type}

/-- A run of the first language, then one of the language that goes with what the first is read as. -/
def bind (P : TextLanguage α) (Q : α → TextLanguage β) : TextLanguage β := fun sql =>
  (P sql).bind fun a => Q a sql

end TextLanguage

namespace Reader

variable {α β : Type}

/-! ## 2. Readers in a sequence -/

/-- The reader passes the runs of the language, and nothing else, where what is left has the
property. -/
def Parses (r : Reader α) (follow : List Token → Prop) (P : TextLanguage α) : Prop :=
  ∀ c a c', follow c'.rest →
    (r c = .ok (a, c') ↔ ∃ ts, P c'.sql ts a ∧ c = { c' with rest := ts ++ c'.rest })

/-- The reader answers where the tokens that are left are a run of the language, and nowhere else. -/
def Accepts (r : Reader α) (P : TextLanguage α) : Prop :=
  ∀ c a, (∃ c', r c = .ok (a, c')) ↔ P c.sql c.rest a

/-- The reader answers what has the property and stays where it is. -/
def Answers (r : Reader α) (P : List Char → α → Prop) : Prop :=
  ∀ c a c', r c = .ok (a, c') ↔ c = c' ∧ P c.sql a

variable {r : Reader α} {f : α → Reader β} {follow follow' : List Token → Prop}
  {P P' : TextLanguage α} {Q : α → TextLanguage β}

theorem bind_eq_ok {c c' : Cursor} {b : β} :
    (r >>= f) c = .ok (b, c') ↔ ∃ a c₁, r c = .ok (a, c₁) ∧ f a c₁ = .ok (b, c') := by
  simp only [Bind.bind]
  cases r c with
  | error e => simp
  | ok result =>
    obtain ⟨a, c₁⟩ := result
    simp

theorem pure_eq_ok {a b : α} {c c' : Cursor} :
    (pure a : Reader α) c = .ok (b, c') ↔ a = b ∧ c = c' := by
  simp [Pure.pure]

theorem orM_eq (x y : Reader Bool) :
    (x <||> y) = x >>= fun b => if b then Pure.pure true else y := by
  unfold orM
  congr 1
  funext b
  cases b with
  | true => rfl
  | false => rfl

theorem bind_assoc {γ : Type} (r : Reader α) (f : α → Reader β) (g : β → Reader γ) :
    (r >>= f >>= g) = r >>= fun a => f a >>= g := by
  funext c
  simp only [Bind.bind]
  cases r c <;> rfl

theorem map_bind (r : Reader α) {γ : Type} (g : α → γ) (k : γ → Reader β) :
    ((g <$> r) >>= k) = r >>= fun a => k (g a) := by
  funext c
  simp only [Functor.map, Bind.bind, Function.comp]
  cases r c <;> rfl

theorem Parses.congr (h : Parses r follow P) (hP : ∀ sql ts a, P sql ts a ↔ P' sql ts a) :
    Parses r follow P' := by
  intro c a c' hfollow
  simp only [h c a c' hfollow, hP]

theorem Accepts.congr (h : Accepts r P) (hP : ∀ sql ts a, P sql ts a ↔ P' sql ts a) :
    Accepts r P' := by
  intro c a
  rw [h c a, hP]

theorem Answers.pure (a : α) : Answers (Pure.pure a : Reader α) fun _ b => a = b := by
  intro c b c'
  rw [pure_eq_ok, and_comm]

theorem Answers.bind {A : List Char → α → Prop} {B : α → List Char → β → Prop}
    (hr : Answers r A) (hf : ∀ a, Answers (f a) (B a)) :
    Answers (r >>= f) fun sql b => ∃ a, A sql a ∧ B a sql b := by
  intro c b c'
  simp only [bind_eq_ok, hr c, hf _ _]
  constructor
  · rintro ⟨a, c₁, ⟨rfl, hA⟩, rfl, hB⟩
    exact ⟨rfl, a, hA, hB⟩
  · rintro ⟨rfl, a, hA, hB⟩
    exact ⟨a, c, ⟨rfl, hA⟩, rfl, hB⟩

theorem Answers.ite {r r' : Reader α} {A A' : List Char → α → Prop} (p : Prop) [Decidable p]
    (h : Answers r A) (h' : Answers r' A') :
    Answers (if p then r else r') fun sql a => if p then A sql a else A' sql a := by
  split
  · exact h
  · exact h'

/-- What is left after the first part has its property if each run of the second part gives it to
what comes before the rest. -/
theorem Parses.bind (hr : Parses r follow P) (hf : ∀ a, Parses (f a) follow' (Q a))
    (hfollow : ∀ a b sql ts rest, Q a sql ts b → follow' rest → follow (ts ++ rest)) :
    Parses (r >>= f) follow' (P.bind Q) := by
  intro c b c' hleft
  rw [bind_eq_ok]
  constructor
  · rintro ⟨a, c₁, hfirst, hrest⟩
    obtain ⟨rest, hQ, rfl⟩ := (hf a c₁ b c' hleft).mp hrest
    obtain ⟨first, hP, rfl⟩ := (hr c a _ (hfollow a b _ rest c'.rest hQ hleft)).mp hfirst
    exact ⟨first ++ rest, ⟨first, rest, a, rfl, hP, hQ⟩, by rw [List.append_assoc]⟩
  · rintro ⟨_, ⟨first, rest, a, rfl, hP, hQ⟩, rfl⟩
    let c₁ : Cursor := { c' with rest := rest ++ c'.rest }
    have hfirst : r { c' with rest := first ++ rest ++ c'.rest } = .ok (a, c₁) :=
      (hr _ a c₁ (hfollow a b _ rest c'.rest hQ hleft)).mpr
        ⟨first, hP, by rw [List.append_assoc]⟩
    exact ⟨a, c₁, hfirst, (hf a c₁ b c' hleft).mpr ⟨rest, hQ, rfl⟩⟩

/-- A part may be followed by a reader that passes nothing. -/
theorem Parses.bind_answers {B : α → List Char → β → Prop} (hr : Parses r follow P)
    (hf : ∀ a, Answers (f a) (B a)) :
    Parses (r >>= f) follow fun sql ts b => ∃ a, P sql ts a ∧ B a sql b := by
  intro c b c' hleft
  rw [bind_eq_ok]
  constructor
  · rintro ⟨a, c₁, hfirst, hrest⟩
    obtain ⟨rfl, hB⟩ := (hf a c₁ b c').mp hrest
    obtain ⟨ts, hP, rfl⟩ := (hr c a c₁ hleft).mp hfirst
    exact ⟨ts, ⟨a, hP, hB⟩, rfl⟩
  · rintro ⟨ts, ⟨a, hP, hB⟩, rfl⟩
    exact ⟨a, c', (hr _ a c' hleft).mpr ⟨ts, hP, rfl⟩, (hf a c' b c').mpr ⟨rfl, hB⟩⟩

/-- What nothing follows is split into a run that is passed and one that nothing follows. -/
theorem Parses.bind_accepts (hr : Parses r follow P) (hf : ∀ a, Accepts (f a) (Q a))
    (hfollow : ∀ a b sql ts, Q a sql ts b → follow ts) : Accepts (r >>= f) (P.bind Q) := by
  intro c b
  constructor
  · rintro ⟨c', h⟩
    obtain ⟨a, c₁, hfirst, hrest⟩ := bind_eq_ok.mp h
    have hQ := (hf a c₁ b).mp ⟨c', hrest⟩
    obtain ⟨first, hP, rfl⟩ := (hr c a c₁ (hfollow a b _ _ hQ)).mp hfirst
    exact ⟨first, c₁.rest, a, rfl, hP, hQ⟩
  · rintro ⟨first, rest, a, hsplit, hP, hQ⟩
    have hfirst := (hr c a { c with rest } (hfollow a b _ _ hQ)).mpr
      ⟨first, hP, by rw [← hsplit]⟩
    obtain ⟨c', hrest⟩ := (hf a { c with rest } b).mpr hQ
    exact ⟨c', bind_eq_ok.mpr ⟨a, _, hfirst, hrest⟩⟩

theorem Accepts.bind_pure (hr : Accepts r P) (g : α → β) :
    Accepts (r >>= fun a => Pure.pure (g a)) fun sql ts b => ∃ a, P sql ts a ∧ g a = b := by
  intro c b
  simp only [bind_eq_ok, pure_eq_ok, ← hr c]
  constructor
  · rintro ⟨c', a, c₁, hr, hb, -⟩
    exact ⟨a, ⟨c₁, hr⟩, hb⟩
  · rintro ⟨a, ⟨c₁, hr⟩, hb⟩
    exact ⟨c₁, a, c₁, hr, hb, rfl⟩

theorem accept_of_words {words : List String} {c : Cursor}
    (h : startsWithWords words c.rest = true) :
    accept words c = .ok (true, { c with rest := c.rest.drop words.length }) := by
  rw [Reader.accept, if_pos h]

theorem accept_of_not {words : List String} {c : Cursor}
    (h : startsWithWords words c.rest = false) : accept words c = .ok (false, c) := by
  rw [Reader.accept, if_neg (by simp [h])]

theorem accept_word (word : String) (sql : List Char) (statement : List Token) (t : Token)
    (ts : List Token) : accept [word] ⟨sql, statement, t :: ts⟩
      = .ok (t.spells word, ⟨sql, statement, if t.spells word then ts else t :: ts⟩) := by
  have hwords : startsWithWords [word] (t :: ts) = t.spells word := Bool.and_true _
  cases ht : t.spells word with
  | true => exact accept_of_words (c := ⟨sql, statement, t :: ts⟩) (hwords.trans ht)
  | false => exact accept_of_not (c := ⟨sql, statement, t :: ts⟩) (hwords.trans ht)

theorem acceptAny_nil (c : Cursor) : acceptAny [] c = .ok (false, c) := rfl

theorem acceptAny_cons_word (word : String) (others : List (List String)) (sql : List Char)
    (statement : List Token) (t : Token) (ts : List Token) :
    acceptAny ([word] :: others) ⟨sql, statement, t :: ts⟩
      = if t.spells word then .ok (true, ⟨sql, statement, ts⟩)
        else acceptAny others ⟨sql, statement, t :: ts⟩ := by
  rw [acceptAny, orM_eq]
  cases ht : t.spells word with
  | true => simp [Bind.bind, accept_word, ht, Pure.pure]
  | false => simp [Bind.bind, accept_word, ht]

/-- Words that may be there are passed wherever they stand. -/
theorem Accepts.accept (words : List String) {g : Bool → Reader β} {G : Bool → TextLanguage β}
    (hg : ∀ taken, Accepts (g taken) (G taken)) :
    Accepts (accept words >>= g) fun sql ts b => ∃ opt taken rest, ts = opt ++ rest
      ∧ Optional words opt taken rest ∧ G taken sql rest b := by
  intro c b
  cases h : startsWithWords words c.rest with
  | true =>
    have hstep (c' : Cursor) : (Reader.accept words >>= g) c = .ok (b, c')
        ↔ g true { c with rest := c.rest.drop words.length } = .ok (b, c') := by
      simp [bind_eq_ok, accept_of_words h]
    simp only [hstep, hg true _ b]
    constructor
    · intro hG
      obtain ⟨opt, hopt, hsplit⟩ := exists_of_startsWithWords h
      exact ⟨opt, true, _, hsplit, .present _ hopt, hG⟩
    · rintro ⟨opt, taken, rest, hsplit, hopt, hG⟩
      cases hopt with
      | present _ hwords =>
        rwa [hsplit, List.drop_left' hwords.1]
      | absent hnone =>
        rw [List.nil_append] at hsplit
        rw [hsplit, hnone] at h
        cases h
  | false =>
    have hstep (c' : Cursor) : (Reader.accept words >>= g) c = .ok (b, c')
        ↔ g false c = .ok (b, c') := by
      simp [bind_eq_ok, accept_of_not h]
    simp only [hstep, hg false _ b]
    constructor
    · intro hG
      exact ⟨[], false, c.rest, rfl, .absent h, hG⟩
    · rintro ⟨opt, taken, rest, hsplit, hopt, hG⟩
      cases hopt with
      | present _ hwords =>
        rw [hsplit, startsWithWords_append hwords.1, hwords.2] at h
        cases h
      | absent hnone =>
        rwa [hsplit]

theorem atSymbol_of_notAt {symbol : String} {c : Cursor} (h : NotAt symbol c.rest) :
    atSymbol symbol c = .ok (false, c) := by
  obtain ⟨sql, statement, rest⟩ := c
  cases rest with
  | nil => rfl
  | cons t ts => simp [atSymbol, notAt_cons.mp h]

theorem atSymbol_of_not_notAt {symbol : String} {c : Cursor} (h : ¬ NotAt symbol c.rest) :
    atSymbol symbol c = .ok (true, c) := by
  obtain ⟨sql, statement, rest⟩ := c
  cases rest with
  | nil => exact absurd (by simp [NotAt]) h
  | cons t ts =>
    have ht : t.reads symbol = true := by simpa [notAt_cons] using h
    simp [atSymbol, ht]

/-! ## 3. Names -/

theorem parses_identifier : Parses identifier (fun _ => True) fun _ ts name =>
    ∃ t, ts = [t] ∧ t.isName = true ∧ t.text = name := by
  intro c name c' _
  unfold identifier
  constructor
  · intro h
    split at h
    · rename_i t ts hrest
      split at h
      · rename_i ht
        cases h
        exact ⟨[t], ⟨t, rfl, ht, rfl⟩, by simp [← hrest]⟩
      · cases h
    · cases h
  · rintro ⟨ts, ⟨t, rfl, ht, rfl⟩, rfl⟩
    simp [ht]

/-- The further parts of a dotted name. -/
inductive IsDotted : List Token → List String → Prop
  | nil : IsDotted [] []
  | cons {point t : Token} {ts : List Token} {parts : List String} :
      point.reads "." = true → t.isName = true → IsDotted ts parts →
      IsDotted (point :: t :: ts) (t.text :: parts)

/-- A name and perhaps others that are parted by points, as the name of an object. -/
inductive IsObjectName : List Token → ObjectName → Prop
  | mk {t : Token} {ts : List Token} {parts : List String} : t.isName = true → IsDotted ts parts →
      IsObjectName (t :: ts) (.ofParts t.text parts)

/-- Before what no point leads, the parts are those of a whole run. -/
theorem dottedParts_eq_iff {ts rest : List Token} {parts : List String} (h : NotAt "." rest) :
    dottedParts ts = (parts, rest) ↔ ∃ front, IsDotted front parts ∧ ts = front ++ rest := by
  fun_induction dottedParts ts generalizing parts with
  | case1 point t ts hdot more left hmore ih =>
    rw [Bool.and_eq_true] at hdot
    constructor
    · intro heq
      obtain ⟨rfl, rfl⟩ := Prod.mk.inj heq
      obtain ⟨front, hfront, rfl⟩ := ih.mp hmore
      exact ⟨point :: t :: front, .cons hdot.1 hdot.2 hfront, rfl⟩
    · rintro ⟨front, hfront, hsplit⟩
      cases hfront with
      | nil =>
        rw [List.nil_append] at hsplit
        rw [← hsplit, notAt_cons, hdot.1] at h
        cases h
      | cons _ _ hfront =>
        cases hsplit
        rw [ih.mpr ⟨_, hfront, rfl⟩] at hmore
        obtain ⟨rfl, rfl⟩ := Prod.mk.inj hmore
        rfl
  | case2 point t ts hdot =>
    constructor
    · intro heq
      obtain ⟨rfl, rfl⟩ := Prod.mk.inj heq
      exact ⟨[], .nil, rfl⟩
    · rintro ⟨front, hfront, hsplit⟩
      cases hfront with
      | nil => rw [hsplit, List.nil_append]
      | cons hpoint hname _ =>
        cases hsplit
        exact absurd (by simp [hpoint, hname]) hdot
  | case3 ts hshort =>
    constructor
    · intro heq
      obtain ⟨rfl, rfl⟩ := Prod.mk.inj heq
      exact ⟨[], .nil, rfl⟩
    · rintro ⟨front, hfront, hsplit⟩
      cases hfront with
      | nil => rw [hsplit, List.nil_append]
      | cons _ _ _ => exact (hshort _ _ _ hsplit).elim

/-- Passes the further parts of a dotted name after the first. -/
def readDotted (first : String) : Reader (String × List String) := fun c =>
  .ok ((first, (dottedParts c.rest).1), { c with rest := (dottedParts c.rest).2 })

theorem qualifiedName_eq : qualifiedName = identifier >>= readDotted := rfl

theorem parses_readDotted (first : String) : Parses (readDotted first) (NotAt ".")
    fun _ ts name => IsDotted ts name.2 ∧ first = name.1 := by
  intro c name c' hleft
  simp only [readDotted, Except.ok.injEq, Prod.ext_iff]
  constructor
  · rintro ⟨⟨rfl, hname⟩, rfl⟩
    obtain ⟨front, hfront, hsplit⟩ := (dottedParts_eq_iff hleft).mp rfl
    exact ⟨front, ⟨hname ▸ hfront, rfl⟩, by rw [← hsplit]⟩
  · rintro ⟨ts, ⟨hts, rfl⟩, rfl⟩
    have hparts := (dottedParts_eq_iff hleft).mpr ⟨ts, hts, rfl⟩
    simp [hparts]

theorem parses_objectName :
    Parses ObjectName.read (NotAt ".") fun _ ts name => IsObjectName ts name := by
  have hname : Parses qualifiedName (NotAt ".") _ :=
    parses_identifier.bind parses_readDotted fun _ _ _ _ _ _ _ => trivial
  have hread := hname.bind_answers fun name => Answers.pure (ObjectName.ofParts name.1 name.2)
  refine hread.congr fun sql ts name => ?_
  constructor
  · rintro ⟨⟨_, _⟩, ⟨_, rest, _, rfl, ⟨t, rfl, ht, rfl⟩, hrest, rfl⟩, rfl⟩
    exact .mk ht hrest
  · rintro ⟨ht, hrest⟩
    exact ⟨(_, _), ⟨[_], _, _, rfl, ⟨_, rfl, ht, rfl⟩, hrest, rfl⟩, rfl⟩

/-! ## 4. Lists -/

/-- Items that are parted by commas, at least one. -/
inductive IsList (P : TokenLanguage α) : List Token → List α → Prop
  | one {ts : List Token} {a : α} : P ts a → IsList P ts [a]
  | cons {ts rest : List Token} {comma : Token} {a : α} {as : List α} :
      P ts a → comma.reads "," = true → IsList P rest as →
      IsList P (ts ++ comma :: rest) (a :: as)

/-- What may come after an item: nothing, or a comma and further items. -/
inductive IsRest (P : TokenLanguage α) : List Token → List α → Prop
  | nil : IsRest P [] []
  | cons {comma : Token} {ts rest : List Token} {a : α} {as : List α} :
      comma.reads "," = true → P ts a → IsRest P rest as →
      IsRest P (comma :: (ts ++ rest)) (a :: as)

theorem isList_iff {P : TokenLanguage α} {ts : List Token} {as : List α} : IsList P ts as
    ↔ ∃ first rest a more, ts = first ++ rest ∧ as = a :: more ∧ P first a ∧ IsRest P rest more := by
  constructor
  · intro h
    induction h with
    | one h => exact ⟨_, [], _, [], by simp, rfl, h, .nil⟩
    | cons h hcomma _ ih =>
      obtain ⟨first, rest, a, more, rfl, rfl, hfirst, hrest⟩ := ih
      exact ⟨_, _, _, _, rfl, rfl, h, .cons hcomma hfirst hrest⟩
  · rintro ⟨first, rest, a, more, rfl, rfl, hfirst, hrest⟩
    induction hrest generalizing first a with
    | nil => simpa using IsList.one hfirst
    | cons hcomma hitem _ ih => exact .cons hfirst hcomma (ih _ _ hitem)

/-- One more item if a comma comes next. -/
def commaStep (item : Reader α) (items : List α) : Reader (Option (List α)) := do
  if ← acceptSymbol "," then
    let next ← item
    pure (some (next :: items))
  else pure none

theorem commaSeparated_eq (item : Reader α) : commaSeparated item = (do
    let first ← item
    let items ← iterate (commaStep item) [first]
    pure items.reverse) := rfl

theorem commaStep_of_notAt {item : Reader α} {items : List α} {c : Cursor}
    (h : NotAt "," c.rest) : commaStep item items c = .ok (none, c) := by
  obtain ⟨sql, statement, rest⟩ := c
  cases rest with
  | nil => rfl
  | cons t ts =>
    have ht : t.reads "," = false := notAt_cons.mp h
    simp [commaStep, Bind.bind, acceptSymbol, ht, Pure.pure]

theorem commaStep_cons {item : Reader α} {items : List α} {c : Cursor} {t : Token}
    {ts : List Token} (hrest : c.rest = t :: ts) (ht : t.reads "," = true) :
    commaStep item items c
      = (item >>= fun next => Pure.pure (some (next :: items))) { c with rest := ts } := by
  simp [commaStep, Bind.bind, acceptSymbol, hrest, ht]

/-- Before what no comma leads, the further items are those of a whole run. No bound is needed for
what is read to be one. -/
theorem rest_of_iterateAtMost {item : Reader α} (h : Parses item follow P)
    (hcomma : ∀ t ts, t.reads "," = true → follow (t :: ts)) {n : Nat} {items result : List α}
    {c c' : Cursor} (hfollow : follow c'.rest)
    (hread : iterateAtMost (commaStep item) n items c = .ok (result, c')) :
    ∃ ts more, IsRest (P c'.sql) ts more ∧ c = { c' with rest := ts ++ c'.rest }
      ∧ result = more.reverse ++ items := by
  induction n generalizing items c with
  | zero =>
    obtain ⟨rfl, rfl⟩ := pure_eq_ok.mp hread
    exact ⟨[], [], .nil, rfl, rfl⟩
  | succ n ih =>
    obtain ⟨next, c₁, hstep, hmore⟩ := bind_eq_ok.mp hread
    by_cases hat : NotAt "," c.rest
    · rw [commaStep_of_notAt hat] at hstep
      cases hstep
      obtain ⟨rfl, rfl⟩ := pure_eq_ok.mp hmore
      exact ⟨[], [], .nil, rfl, rfl⟩
    · obtain ⟨sql, statement, rest⟩ := c
      cases rest with
      | nil => exact absurd (by simp [NotAt]) hat
      | cons comma tokens =>
        have hreads : comma.reads "," = true := by simpa [notAt_cons] using hat
        rw [commaStep_cons rfl hreads] at hstep
        obtain ⟨a, c₂, hitem, hnext⟩ := bind_eq_ok.mp hstep
        obtain ⟨rfl, rfl⟩ := pure_eq_ok.mp hnext
        obtain ⟨ts, more, hrest, rfl, rfl⟩ := ih hmore
        have hleft : follow (ts ++ c'.rest) := by
          cases hrest with
          | nil => exact hfollow
          | cons hreads _ _ => exact hcomma _ _ hreads
        obtain ⟨first, hP, hc⟩ := (h _ a _ hleft).mp hitem
        cases hc
        exact ⟨comma :: (first ++ ts), a :: more, .cons hreads hP hrest, by simp, by simp⟩

/-- Further items before what no comma leads are read, if the bound allows for so many. -/
theorem iterateAtMost_of_rest {item : Reader α} (h : Parses item follow P)
    (hcomma : ∀ t ts, t.reads "," = true → follow (t :: ts)) {n : Nat} {items more : List α}
    {c' : Cursor} {ts : List Token} (hfollow : follow c'.rest) (hat : NotAt "," c'.rest)
    (hrest : IsRest (P c'.sql) ts more) (hn : ts.length < n) :
    iterateAtMost (commaStep item) n items { c' with rest := ts ++ c'.rest }
      = .ok (more.reverse ++ items, c') := by
  induction n generalizing items more ts with
  | zero => omega
  | succ n ih =>
    refine bind_eq_ok.mpr ?_
    cases hrest with
    | nil => exact ⟨none, c', commaStep_of_notAt hat, rfl⟩
    | @cons comma first rest a as hreads hP hrest =>
      have hleft : follow (rest ++ c'.rest) := by
        cases hrest with
        | nil => exact hfollow
        | cons hreads _ _ => exact hcomma _ _ hreads
      have hitem := (h { c' with rest := first ++ (rest ++ c'.rest) } a
        { c' with rest := rest ++ c'.rest } hleft).mpr ⟨first, hP, rfl⟩
      have hmore : iterateAtMost (commaStep item) n (a :: items)
          { c' with rest := rest ++ c'.rest } = .ok (as.reverse ++ a :: items, c') :=
        ih hrest (by simp at hn; omega)
      have hfront : comma :: (first ++ rest) ++ c'.rest = comma :: (first ++ (rest ++ c'.rest)) := by
        simp
      refine ⟨some (a :: items), { c' with rest := rest ++ c'.rest }, ?_, by simpa using hmore⟩
      rw [commaStep_cons hfront hreads]
      exact bind_eq_ok.mpr ⟨a, _, hitem, rfl⟩

theorem parses_commaSeparated {item : Reader α} (h : Parses item follow P)
    (hcomma : ∀ t ts, t.reads "," = true → follow (t :: ts)) :
    Parses (commaSeparated item) (fun ts => follow ts ∧ NotAt "," ts)
      fun sql => IsList (P sql) := by
  have hrest (first : α) : Parses (iterate (commaStep item) [first])
      (fun ts => follow ts ∧ NotAt "," ts)
      fun sql ts items => ∃ more, IsRest (P sql) ts more ∧ items = more.reverse ++ [first] := by
    rintro c items c' ⟨hfollow, hat⟩
    constructor
    · intro hread
      obtain ⟨ts, more, hmore, hc, hitems⟩ := rest_of_iterateAtMost h hcomma hfollow hread
      exact ⟨ts, ⟨more, hmore, hitems⟩, hc⟩
    · rintro ⟨ts, ⟨more, hmore, rfl⟩, rfl⟩
      refine iterateAtMost_of_rest h hcomma hfollow hat hmore ?_
      simp only [List.length_append]
      omega
  rw [commaSeparated_eq]
  have hlist := h.bind (fun first => (hrest first).bind_answers fun items =>
    Answers.pure items.reverse) ?_
  · refine hlist.congr fun sql ts as => ?_
    rw [isList_iff]
    constructor
    · rintro ⟨first, rest, a, rfl, hfirst, _, ⟨more, hmore, rfl⟩, rfl⟩
      exact ⟨first, rest, a, more, rfl, by simp, hfirst, hmore⟩
    · rintro ⟨first, rest, a, more, rfl, rfl, hfirst, hmore⟩
      exact ⟨first, rest, a, rfl, hfirst, _, ⟨more, hmore, rfl⟩, by simp⟩
  · rintro a b sql ts rest ⟨_, ⟨more, hmore, -⟩, -⟩ ⟨hfollow, -⟩
    cases hmore with
    | nil => exact hfollow
    | cons hreads _ _ => exact hcomma _ _ hreads

/-- A list goes on as long as commas do, if the item passes its runs wherever they stand. -/
theorem notAt_of_iterateAtMost {item : Reader α} (h : Parses item (fun _ => True) P) {n : Nat}
    {items result : List α} {c c' : Cursor} (hn : c.rest.length < n)
    (hread : iterateAtMost (commaStep item) n items c = .ok (result, c')) :
    NotAt "," c'.rest := by
  induction n generalizing items c with
  | zero => omega
  | succ n ih =>
    obtain ⟨next, c₁, hstep, hmore⟩ := bind_eq_ok.mp hread
    by_cases hat : NotAt "," c.rest
    · rw [commaStep_of_notAt hat] at hstep
      cases hstep
      obtain ⟨rfl, rfl⟩ := pure_eq_ok.mp hmore
      exact hat
    · obtain ⟨sql, statement, rest⟩ := c
      cases rest with
      | nil => exact absurd (by simp [NotAt]) hat
      | cons comma tokens =>
        rw [commaStep_cons rfl (by simpa [notAt_cons] using hat)] at hstep
        obtain ⟨a, c₂, hitem, hnext⟩ := bind_eq_ok.mp hstep
        obtain ⟨rfl, rfl⟩ := pure_eq_ok.mp hnext
        obtain ⟨first, -, hc⟩ := (h _ a _ trivial).mp hitem
        cases hc
        refine ih ?_ hmore
        simp only [List.length_cons, List.length_append] at hn
        omega

theorem notAt_of_commaSeparated {item : Reader α} (h : Parses item (fun _ => True) P)
    {as : List α} {c c' : Cursor} (hread : commaSeparated item c = .ok (as, c')) :
    NotAt "," c'.rest := by
  rw [commaSeparated_eq] at hread
  obtain ⟨first, c₁, -, hrest⟩ := bind_eq_ok.mp hread
  obtain ⟨items, c₂, hitems, hreverse⟩ := bind_eq_ok.mp hrest
  obtain ⟨-, rfl⟩ := pure_eq_ok.mp hreverse
  exact notAt_of_iterateAtMost h (Nat.lt_succ_self _) hitems

/-! ## 5. Groups -/

/-- A run in parentheses. The one that opens it may be a quoted name that reads as one. -/
inductive IsGroup : List Token → List Token → Prop
  | mk {opening close : Token} {inside : List Token} : opening.reads "(" = true → Closes 0 inside →
      close.isClose = true → IsGroup (opening :: (inside ++ [close])) inside

theorem parses_expectSymbol (symbol : String) :
    Parses (expectSymbol symbol) (fun _ => True) fun _ ts _ => ∃ t, ts = [t]
      ∧ t.reads symbol = true := by
  intro c _ c' _
  obtain ⟨sql, statement, rest⟩ := c
  cases rest with
  | nil =>
    constructor
    · intro h
      cases h
    · rintro ⟨_, ⟨t, rfl, -⟩, hc⟩
      cases hc
  | cons t ts =>
    cases ht : t.reads symbol with
    | true =>
      have hstep : expectSymbol symbol ⟨sql, statement, t :: ts⟩
          = .ok ((), ⟨sql, statement, ts⟩) := by
        simp [expectSymbol, Bind.bind, acceptSymbol, ht, Pure.pure]
      rw [hstep]
      constructor
      · intro h
        cases h
        exact ⟨[t], ⟨t, rfl, ht⟩, rfl⟩
      · rintro ⟨_, ⟨t, rfl, -⟩, hc⟩
        cases hc
        rfl
    | false =>
      have hstep : ∃ e, expectSymbol symbol ⟨sql, statement, t :: ts⟩ = .error e := by
        simp [expectSymbol, Bind.bind, acceptSymbol, ht, expected, complain]
      obtain ⟨e, hstep⟩ := hstep
      rw [hstep]
      constructor
      · intro h
        cases h
      · rintro ⟨_, ⟨t', rfl, ht'⟩, hc⟩
        cases hc
        rw [ht'] at ht
        cases ht

theorem parses_expect (words : List String) :
    Parses (expect words) (fun _ => True) fun _ ts _ => IsWords words ts := by
  intro c _ c' _
  cases h : startsWithWords words c.rest with
  | true =>
    have hstep : expect words c = .ok ((), { c with rest := c.rest.drop words.length }) := by
      simp [expect, Bind.bind, accept_of_words h, Pure.pure]
    rw [hstep]
    constructor
    · intro hread
      cases hread
      obtain ⟨opt, hopt, hsplit⟩ := exists_of_startsWithWords h
      exact ⟨opt, hopt, by rw [← hsplit]⟩
    · rintro ⟨opt, hopt, rfl⟩
      simp [List.drop_left' hopt.1]
  | false =>
    have hstep : ∃ e, expect words c = .error e := by
      simp [expect, Bind.bind, accept_of_not h, expected, complain]
    obtain ⟨e, hstep⟩ := hstep
    rw [hstep]
    constructor
    · intro hread
      cases hread
    · rintro ⟨opt, hopt, rfl⟩
      rw [startsWithWords_append hopt.1, hopt.2] at h
      cases h

theorem parses_parenthesized :
    Parses parenthesized (fun _ => True) fun _ ts inside => IsGroup ts inside := by
  intro c inside c' _
  constructor
  · intro hread
    obtain ⟨_, c₁, hopen, hclosing⟩ := bind_eq_ok.mp hread
    obtain ⟨_, ⟨t, rfl, ht⟩, rfl⟩ := (parses_expectSymbol "(" c _ c₁ trivial).mp hopen
    split at hclosing
    · rename_i inside' rest hgroup
      cases hclosing
      obtain ⟨more, close, hsplit, rfl, hcloses, hclose⟩ := closeGroup_eq_some.mp hgroup
      exact ⟨_, .mk ht hcloses hclose, by simp [hsplit]⟩
    · cases hclosing
  · rintro ⟨_, @⟨opening, close, _, ht, hcloses, hclose⟩, rfl⟩
    have hgroup : closeGroup 0 [] (inside ++ [close] ++ c'.rest) = some (inside, c'.rest) :=
      closeGroup_eq_some.mpr ⟨inside, close, by simp, by simp, hcloses, hclose⟩
    have hopen := (parses_expectSymbol "(" _ () { c' with rest := inside ++ [close] ++ c'.rest }
      trivial).mpr ⟨[opening], ⟨opening, rfl, ht⟩, rfl⟩
    exact bind_eq_ok.mpr ⟨(), _, hopen, by simp only [hgroup]⟩

/-! ## 6. Runs of their own -/

theorem answers_text (tokens : List Token) :
    Answers (text tokens) fun sql s => sourceText sql tokens = s := by
  intro c s c'
  simp [text, and_comm]

theorem Accepts.within (h : Accepts r P) (tokens : List Token) :
    Answers (within tokens r) fun sql => P sql tokens := by
  intro c a c'
  have haccepts : (∃ c₁, r (Cursor.start c.sql tokens) = .ok (a, c₁)) ↔ P c.sql tokens a :=
    h (Cursor.start c.sql tokens) a
  show Reader.within tokens r c = .ok (a, c') ↔ c = c' ∧ P c.sql tokens a
  rw [← haccepts, Reader.within]
  cases r (Cursor.start c.sql tokens) with
  | error e => simp
  | ok result => simp [Prod.ext_iff, and_comm]

theorem Answers.each {r : α → Reader β} {A : α → List Char → β → Prop}
    (h : ∀ a, Answers (r a) (A a)) (as : List α) :
    Answers (each r as) fun sql bs => List.Forall₂ (fun a b => A a sql b) as bs := by
  induction as with
  | nil =>
    intro c bs c'
    simp only [Reader.each, pure_eq_ok, List.forall₂_nil_left_iff]
    rw [and_comm, eq_comm (a := [])]
  | cons a as ih =>
    intro c bs c'
    have hstep := (h a).bind fun b => ih.bind fun bs => Answers.pure (b :: bs)
    simp only [Reader.each, hstep c bs c', List.forall₂_cons_left_iff]
    constructor
    · rintro ⟨rfl, b, hb, bs, hbs, rfl⟩
      exact ⟨rfl, b, bs, hb, hbs, rfl⟩
    · rintro ⟨rfl, b, bs, hb, hbs, rfl⟩
      exact ⟨rfl, b, hb, bs, hbs, rfl⟩

end Reader

end SchemaCatalog.Sql
