import Mathlib.Algebra.Ring.Int.Defs
import SchemaCatalog.Maintenance
import SchemaCatalog.Proofs.TokenLanguage

/-!
# The grammar of maintenance triggers

The grammar is a relation between runs of tokens and what they say, with one constructor for each
way to write a part. `IsBody` relates the tokens of a whole body to its assignments, and
`parse_exact` says that the reader of bodies answers for the runs of `IsBody` and refuses all
others.

Each reader of a part passes exactly the runs of its part (`Passes`), so the readers are looked at
one at a time. Two of them need more than the order of their parts:

* `expressionTokens` counts parentheses in a natural number and stops at the first semicolon.
  `Closes` speaks of prefixes instead; `expressionTokens_eq_ok` goes from one to the other by
  induction on the tokens.
* `acceptBracket` passes its word and a semicolon as soon as they are there. That these are not
  taken from what comes after it is because an assignment and a return start with words of their
  own, and a word does not read as a mark (`reads_semicolon_of_spells`). A quoted name that consists
  of a mark does.

The loop over assignments carries a bound on their number. The bound never ends the loop, since
every assignment has a token (`length_le_length_flatten`).
-/

namespace SchemaCatalog

open Sql CursorReader

/-! ## 1. The grammar -/

namespace Sql

/-- The token is the given bare word, in any letter case. -/
def Token.spells (t : Token) (word : String) : Bool := t.isWord && Text.upper t.text == word

/-- By how much a run of tokens changes the depth of parentheses. -/
def nesting (ts : List Token) : Int := (ts.map Token.nesting).sum

/-- Starting within so many parentheses, the run of tokens closes them all and never one more. -/
structure Closes (depth : Int) (ts : List Token) : Prop where
  never : ∀ before, before <+: ts → 0 ≤ depth + nesting before
  all : depth + nesting ts = 0

end Sql

namespace Maintenance

/-- A word with a semicolon, without one, or neither. -/
inductive IsBracket (word : String) : List Token → Prop
  | absent : IsBracket word []
  | bare {t : Token} : t.spells word = true → IsBracket word [t]
  | closed {t semicolon : Token} :
      t.spells word = true → semicolon.reads ";" = true → IsBracket word [t, semicolon]

/-- A sign of assignment, which may be in two parts. -/
inductive IsSign : List Token → Prop
  | equals {t : Token} : t.reads "=" = true → IsSign [t]
  | colonEquals {t : Token} : t.reads ":=" = true → IsSign [t]
  | apart {colon equals : Token} :
      colon.reads ":" = true → equals.reads "=" = true → IsSign [colon, equals]

/-- A phrase that is read as the expression: it has tokens and none of them is a semicolon, its
parentheses are balanced, and its text, blanks around it aside, is that of the expression. -/
structure IsPhrase (sql : List Char) (phrase : List Token) (e : Expression) : Prop where
  nonempty : phrase ≠ []
  noSemicolon : ∀ t ∈ phrase, t.isSemicolon = false
  balanced : Closes 0 phrase
  parsed : Expression.parse (sourceText sql phrase) = .ok e
  text : e.sql = Text.strip (sourceText sql phrase)

section Columns

variable {α : Type} (nameOf : α → String) (columns : List α) (sql : List Char)

/-- `.name := expression;` as an assignment to the first column of that name. -/
inductive IsSetting : List Token → Assignment α → Prop
  | mk {point name semicolon : Token} {sign phrase : List Token} {column : α} {e : Expression} :
      point.reads "." = true → name.isName = true →
      columns.find? (nameOf · == name.text) = some column → IsSign sign → IsPhrase sql phrase e →
      semicolon.isSemicolon = true →
      IsSetting (point :: name :: (sign ++ phrase ++ [semicolon])) { column, expression := e }

/-- `NEW.name := expression;` as an assignment to the first column of that name. -/
inductive IsAssignment : List Token → Assignment α → Prop
  | mk {new : Token} {setting : List Token} {a : Assignment α} :
      new.spells "NEW" = true → IsSetting nameOf columns sql setting a →
      IsAssignment (new :: setting) a

/-- `RETURN NEW;` -/
inductive IsReturn : List Token → Prop
  | mk {ret new semicolon : Token} :
      ret.spells "RETURN" = true → new.spells "NEW" = true → semicolon.reads ";" = true →
      IsReturn [ret, new, semicolon]

/-- Assignments, at least one, and the return, with or without brackets. -/
inductive IsBody : List Token → List (Assignment α) → Prop
  | mk {opening ret closing : List Token} {parts : List (List Token)}
      {found : List (Assignment α)} :
      IsBracket "BEGIN" opening → List.Forall₂ (IsAssignment nameOf columns sql) parts found →
      found ≠ [] → IsReturn ret → IsBracket "END" closing →
      IsBody (opening ++ parts.flatten ++ ret ++ closing) found

end Columns

/-! ## 2. Words and marks -/

theorem lift_apply {α : Type} (r : Reader α) (c : Cursor) :
    (liftM r : BodyReader α) c = (r c).mapError .syntaxError := rfl

theorem tests_acceptSymbol (symbol : String) :
    Tests (liftM (Reader.acceptSymbol symbol) : BodyReader Bool) (·.reads symbol) := by
  intro c
  rw [lift_apply, Reader.acceptSymbol]
  cases c.rest with
  | nil => rfl
  | cons t ts =>
    simp only
    split <;> rfl

theorem tests_accept (word : String) :
    Tests (liftM (Reader.accept [word]) : BodyReader Bool) (·.spells word) := by
  intro c
  rw [lift_apply, Reader.accept]
  cases hrest : c.rest with
  | nil => rfl
  | cons t ts =>
    have hword : startsWithWords [word] (t :: ts) = t.spells word := by
      simp [startsWithWords, Token.spells]
    by_cases hspells : t.spells word = true
    · simp only [hword, hspells, if_true]
      rfl
    · simp only [hword, hspells, Bool.false_eq_true, if_false]
      rfl

variable {sql : List Char}

/-- A token that reads as the mark. -/
def mark (symbol : String) : TokenLanguage Unit := fun ts _ =>
  ∃ t, ts = [t] ∧ t.reads symbol = true

theorem passes_expectSymbol (symbol : String) :
    Passes sql (liftM (Reader.expectSymbol symbol) : BodyReader Unit) (mark symbol) := by
  let take? : Token → Option Unit := fun t => if t.reads symbol then some () else none
  refine (Passes.ofToken take? fun c =>
    ⟨.syntaxError (c.error (.expected ("`" ++ symbol ++ "`"))), ?_⟩).congr fun ts _ => ?_
  · rw [lift_apply]
    unfold Reader.expectSymbol
    change ((Reader.acceptSymbol symbol >>= fun found =>
      if found then pure () else Reader.expected ("`" ++ symbol ++ "`")) c).mapError _ = _
    simp only [Bind.bind, Reader.acceptSymbol]
    cases c.rest with
    | nil => rfl
    | cons t ts =>
      cases hreads : t.reads symbol <;> simp [take?, hreads]
      · rfl
      · rfl
  · simp [take?, mark]

theorem passes_identifier :
    Passes sql (liftM Reader.identifier : BodyReader String)
      fun ts name => ∃ t, ts = [t] ∧ t.isName = true ∧ t.text = name := by
  let take? : Token → Option String := fun t => if t.isName then some t.text else none
  refine (Passes.ofToken take? fun c =>
    ⟨.syntaxError (c.error (.expected "an identifier")), ?_⟩).congr fun ts name => ?_
  · rw [lift_apply]
    unfold Reader.identifier
    cases c.rest with
    | nil => rfl
    | cons t ts =>
      cases hname : t.isName <;> simp [take?, hname]
      · rfl
      · rfl
  · simp [take?]

theorem reads_eq_false {t : Token} {symbol symbol' : String} (h : t.reads symbol = true)
    (hne : symbol ≠ symbol') : t.reads symbol' = false := by
  simp only [Token.reads, Bool.and_eq_true, beq_iff_eq] at h
  simp [Token.reads, h.2, hne]

theorem spells_eq_false {t : Token} {word word' : String} (h : t.spells word = true)
    (hne : word ≠ word') : t.spells word' = false := by
  simp only [Token.spells, Bool.and_eq_true, beq_iff_eq] at h
  simp [Token.spells, h.2, hne]

theorem passes_assignmentSign : Passes sql assignmentSign fun ts _ => IsSign ts := by
  have hequals : Passes sql (liftM (Reader.expectSymbol "=") : BodyReader Unit) (mark "=") :=
    passes_expectSymbol "="
  have hcolon : Passes sql (do
      let _ ← liftM (Reader.acceptSymbol ":")
      liftM (Reader.expectSymbol "=") : BodyReader Unit)
      fun ts u => (mark "=").after (·.reads ":") ts u ∨ mark "=" ts u := by
    refine (tests_acceptSymbol ":").passes hequals hequals ?_ ?_
    · rintro t _ _ ⟨_, ⟨⟩, ht⟩
      exact reads_eq_false ht (by decide)
    · rintro _ ⟨_, hnil, _⟩
      cases hnil
  have hsign : Passes sql assignmentSign fun ts u => TokenLanguage.after (·.reads ":=")
      (fun ts u => ts = [] ∧ () = u) ts u
        ∨ (mark "=").after (·.reads ":") ts u ∨ mark "=" ts u := by
    refine (tests_acceptSymbol ":=").passes (Passes.pure ()) hcolon ?_ ?_
    · rintro t _ _ (⟨_, _, ⟨⟩, ht, -⟩ | ⟨_, ⟨⟩, ht⟩)
      · exact reads_eq_false ht (by decide)
      · exact reads_eq_false ht (by decide)
    · rintro _ (⟨_, _, hnil, -⟩ | ⟨_, hnil, -⟩)
      · cases hnil
      · cases hnil
  refine hsign.congr fun ts _ => ?_
  constructor
  · rintro (⟨t, _, rfl, ht, rfl, -⟩ | ⟨colon, _, rfl, hcolon, equals, rfl, hequals⟩ | ⟨t, rfl, ht⟩)
    · exact .colonEquals ht
    · exact .apart hcolon hequals
    · exact .equals ht
  · rintro (ht | ht | ⟨hcolon, hequals⟩)
    · exact Or.inr (Or.inr ⟨_, rfl, ht⟩)
    · exact Or.inl ⟨_, _, rfl, ht, rfl, rfl⟩
    · exact Or.inr (Or.inl ⟨_, _, rfl, hcolon, _, rfl, hequals⟩)

end Maintenance

/-! ## 3. Expressions -/

namespace Sql

theorem closes_nil {depth : Int} : Closes depth [] ↔ depth = 0 := by
  constructor
  · intro h
    have hall := h.all
    simpa [nesting] using hall
  · rintro rfl
    constructor
    · intro before hbefore
      rw [List.prefix_nil.mp hbefore]
      simp [nesting]
    · simp [nesting]

theorem Closes.nonneg {depth : Int} {ts : List Token} (h : Closes depth ts) : 0 ≤ depth := by
  have hnone := h.never [] List.nil_prefix
  simpa [nesting] using hnone

theorem closes_cons {depth : Int} {t : Token} {ts : List Token} :
    Closes depth (t :: ts) ↔ 0 ≤ depth ∧ Closes (depth + t.nesting) ts := by
  have hcons (us : List Token) : nesting (t :: us) = t.nesting + nesting us := by
    simp [nesting]
  constructor
  · intro h
    refine ⟨h.nonneg, ?_, ?_⟩
    · intro before hbefore
      have hnever := h.never (t :: before) (List.cons_prefix_cons.mpr ⟨rfl, hbefore⟩)
      rw [hcons] at hnever
      omega
    · have hall := h.all
      rw [hcons] at hall
      omega
  · rintro ⟨hdepth, h⟩
    constructor
    · intro before hbefore
      cases before with
      | nil => simpa [nesting] using hdepth
      | cons u before =>
        obtain ⟨rfl, hshorter⟩ := List.cons_prefix_cons.mp hbefore
        have hnever := h.never before hshorter
        rw [hcons]
        omega
    · have hall := h.all
      rw [hcons]
      omega

end Sql

namespace Maintenance

/-- After the tokens in `read`, last first, those of a phrase come, and then its semicolon and the
others. -/
def Terminates (depth : Int) (read ts phrase rest : List Token) : Prop :=
  ∃ more semicolon, ts = more ++ semicolon :: rest ∧ phrase = read.reverse ++ more ∧ phrase ≠ []
    ∧ (∀ t ∈ more, t.isSemicolon = false) ∧ Closes depth more ∧ semicolon.isSemicolon = true

section Terminates

variable {depth : Int} {read ts phrase rest : List Token} {t : Token}

theorem terminates_semicolon (ht : t.isSemicolon = true) :
    Terminates depth read (t :: ts) phrase rest
      ↔ depth = 0 ∧ read ≠ [] ∧ phrase = read.reverse ∧ rest = ts := by
  constructor
  · rintro ⟨more, semicolon, hts, rfl, hphrase, hmore, hcloses, -⟩
    cases more with
    | nil =>
      cases hts
      simp_all [closes_nil]
    | cons u more =>
      cases hts
      simp [ht] at hmore
  · rintro ⟨rfl, hread, rfl, rfl⟩
    exact ⟨[], t, rfl, by simp, by simpa using hread, by simp, closes_nil.mpr rfl, ht⟩

theorem terminates_cons (ht : t.isSemicolon = false) (hdepth : 0 ≤ depth) :
    Terminates depth read (t :: ts) phrase rest
      ↔ Terminates (depth + t.nesting) (t :: read) ts phrase rest := by
  constructor
  · rintro ⟨more, semicolon, hts, rfl, hphrase, hmore, hcloses, hsemicolon⟩
    cases more with
    | nil =>
      cases hts
      rw [ht] at hsemicolon
      cases hsemicolon
    | cons u more =>
      cases hts
      refine ⟨more, semicolon, rfl, by simp, hphrase, ?_, (closes_cons.mp hcloses).2, hsemicolon⟩
      exact fun v hv => hmore v (List.mem_cons_of_mem _ hv)
  · rintro ⟨more, semicolon, rfl, rfl, hphrase, hmore, hcloses, hsemicolon⟩
    refine ⟨t :: more, semicolon, rfl, by simp, hphrase, ?_, closes_cons.mpr ⟨hdepth, hcloses⟩,
      hsemicolon⟩
    exact List.forall_mem_cons.mpr ⟨ht, hmore⟩

theorem Terminates.nonneg (h : Terminates depth read ts phrase rest) : 0 ≤ depth := by
  obtain ⟨more, _, _, _, _, _, hcloses, _⟩ := h
  exact hcloses.nonneg

end Terminates

theorem expressionTokens_semicolon {depth : Nat} {read ts phrase rest : List Token} {t : Token}
    (ht : t.isSemicolon = true) : expressionTokens depth read (t :: ts) = .ok (phrase, rest)
      ↔ depth = 0 ∧ read ≠ [] ∧ phrase = read.reverse ∧ rest = ts := by
  rw [expressionTokens, if_pos ht]
  by_cases hdepth : depth = 0
  · by_cases hread : read = []
    · simp [hdepth, hread]
    · have hsome : read.isEmpty = false := List.isEmpty_eq_false_iff.mpr hread
      rw [if_neg (by simp [hdepth]), if_neg (by simp [hsome])]
      constructor
      · rintro ⟨⟩
        exact ⟨hdepth, hread, rfl, rfl⟩
      · rintro ⟨-, -, rfl, rfl⟩
        rfl
  · simp [hdepth]

/-- Any other token is passed, unless it closes a parenthesis that is not open. -/
theorem expressionTokens_cons {depth : Nat} {read ts : List Token} {t : Token}
    {result : List Token × List Token} (ht : t.isSemicolon = false) :
    expressionTokens depth read (t :: ts) = .ok result
      ↔ ∃ deeper : Nat, depth + t.nesting = deeper
          ∧ expressionTokens deeper (t :: read) ts = .ok result := by
  rw [expressionTokens, if_neg (by simp [ht])]
  cases hopen : t.isOpen with
  | true =>
    have hdeeper : depth + t.nesting = (depth + 1 : Nat) := by simp [Token.nesting, hopen]
    rw [if_pos rfl, hdeeper]
    simp only [Int.natCast_inj, exists_eq_left']
  | false =>
    cases hclose : t.isClose with
    | true =>
      have hnesting : t.nesting = -1 := by simp [Token.nesting, hopen, hclose]
      rw [if_neg Bool.false_ne_true, if_pos rfl, hnesting]
      by_cases hdepth : depth = 0
      · rw [if_pos (by simp [hdepth])]
        constructor
        · nofun
        · rintro ⟨deeper, hdeeper, -⟩
          omega
      · have hless : (depth + -1 : Int) = (depth - 1 : Nat) := by omega
        rw [if_neg (by simpa using hdepth), hless]
        simp only [Int.natCast_inj, exists_eq_left']
    | false =>
      have hsame : depth + t.nesting = depth := by simp [Token.nesting, hopen, hclose]
      rw [if_neg Bool.false_ne_true, if_neg Bool.false_ne_true, hsame]
      simp only [Int.natCast_inj, exists_eq_left']

/-- The tokens that are taken for an expression are those up to its semicolon, provided that there
are some and that their parentheses are balanced. -/
theorem expressionTokens_eq_ok {depth : Nat} {read ts phrase rest : List Token} :
    expressionTokens depth read ts = .ok (phrase, rest)
      ↔ Terminates depth read ts phrase rest := by
  induction ts generalizing depth read with
  | nil =>
    constructor
    · nofun
    · rintro ⟨more, semicolon, hnil, -⟩
      simp at hnil
  | cons t ts ih =>
    cases hsemicolon : t.isSemicolon with
    | true =>
      rw [expressionTokens_semicolon hsemicolon, terminates_semicolon hsemicolon]
      simp only [Int.natCast_eq_zero]
    | false =>
      rw [expressionTokens_cons hsemicolon, terminates_cons hsemicolon (Int.natCast_nonneg depth)]
      constructor
      · rintro ⟨deeper, hdeeper, hread⟩
        rw [hdeeper]
        exact ih.mp hread
      · intro hterminates
        obtain ⟨deeper, hdeeper⟩ := Int.eq_ofNat_of_zero_le hterminates.nonneg
        rw [hdeeper] at hterminates
        exact ⟨deeper, hdeeper, ih.mpr hterminates⟩

theorem mapError_eq_ok {ε ε' α : Type} {f : ε → ε'} {x : Except ε α} {a : α} :
    x.mapError f = .ok a ↔ x = .ok a := by
  cases x <;> simp [Except.mapError]

theorem sql_of_parse {text : String} {e : Expression} (h : Expression.parse text = .ok e) :
    e.sql = Text.strip text := by
  simp only [Expression.parse] at h
  split at h
  · cases h
  · split at h
    · cases h
    · split at h
      · cases h
        rfl
      · cases h

/-- An expression is read with the semicolon after it. -/
theorem passes_expression : Passes sql expression fun ts e => ∃ phrase semicolon,
    ts = phrase ++ [semicolon] ∧ IsPhrase sql phrase e ∧ semicolon.isSemicolon = true := by
  intro c e c' hsql
  subst hsql
  have hread : expression c = .ok (e, c') ↔ ∃ phrase rest,
      expressionTokens 0 [] c.rest = .ok (phrase, rest)
        ∧ Expression.parse (sourceText c.sql phrase) = .ok e ∧ c' = { c with rest } := by
    unfold expression
    rw [bind_eq_ok]
    constructor
    · rintro ⟨⟨phrase, rest⟩, htokens, hrest⟩
      obtain ⟨parsed, hparsed, hresult⟩ := bind_eq_ok.mp hrest
      cases hresult
      exact ⟨phrase, rest, htokens, mapError_eq_ok.mp hparsed, rfl⟩
    · rintro ⟨phrase, rest, htokens, hparsed, rfl⟩
      exact ⟨(phrase, rest), htokens, bind_eq_ok.mpr ⟨e, mapError_eq_ok.mpr hparsed, rfl⟩⟩
  rw [hread]
  constructor
  · rintro ⟨phrase, rest, htokens, hparsed, rfl⟩
    obtain ⟨more, semicolon, hrest, hphrase, hsome, hmore, hcloses, hsemicolon⟩ :=
      expressionTokens_eq_ok.mp htokens
    obtain rfl : phrase = more := hphrase
    have hread : IsPhrase c.sql phrase e := ⟨hsome, hmore, hcloses, hparsed, sql_of_parse hparsed⟩
    refine ⟨phrase ++ [semicolon], ⟨phrase, semicolon, rfl, hread, hsemicolon⟩, ?_⟩
    obtain ⟨sql', statement, tokens⟩ := c
    simpa using hrest
  · rintro ⟨_, ⟨phrase, semicolon, rfl, h, hsemicolon⟩, rfl⟩
    refine ⟨phrase, c'.rest, expressionTokens_eq_ok.mpr ?_, h.parsed, rfl⟩
    exact ⟨phrase, semicolon, by simp, rfl, h.nonempty, h.noSemicolon, h.balanced, hsemicolon⟩

/-! ## 4. Assignments -/

variable {α : Type} {nameOf : α → String} {columns : List α}

/-- A sign of assignment, an expression and its semicolon, as an assignment to the first column of
the name. -/
def Assigns (nameOf : α → String) (columns : List α) (sql : List Char) (name : String) :
    TokenLanguage (Assignment α) := fun ts a =>
  ∃ sign phrase semicolon column e, ts = sign ++ phrase ++ [semicolon]
    ∧ columns.find? (nameOf · == name) = some column ∧ IsSign sign ∧ IsPhrase sql phrase e
    ∧ semicolon.isSemicolon = true ∧ a = { column, expression := e }

theorem passes_assigns (name : String) : Passes sql
    (match columns.find? (nameOf · == name) with
    | none => throw (.absentColumn name)
    | some column => do
      assignmentSign
      pure { column, expression := ← expression } : BodyReader (Assignment α))
    (Assigns nameOf columns sql name) := by
  cases hcolumn : columns.find? (nameOf · == name) with
  | none =>
    refine (Passes.fails _).congr fun ts a => ?_
    simp [TokenLanguage.empty, Assigns, hcolumn]
  | some column =>
    have hset (e : Expression) :
        Passes sql (pure { column, expression := e } : BodyReader (Assignment α)) _ :=
      Passes.pure _
    refine (passes_assignmentSign.bind fun _ => passes_expression.bind hset).congr fun ts a => ?_
    constructor
    · rintro ⟨sign, _, -, rfl, hsign, _, _, e, rfl,
        ⟨phrase, semicolon, rfl, hphrase, hsemicolon⟩, rfl, rfl⟩
      exact ⟨sign, phrase, semicolon, column, e, by simp, hcolumn, hsign, hphrase, hsemicolon, rfl⟩
    · rintro ⟨sign, phrase, semicolon, column', e, rfl, hcolumn', hsign, hphrase, hsemicolon, rfl⟩
      obtain rfl : column = column' := Option.some.inj (hcolumn.symm.trans hcolumn')
      exact ⟨sign, _, (), List.append_assoc .., hsign, _, [], e, (List.append_nil _).symm,
        ⟨phrase, semicolon, rfl, hphrase, hsemicolon⟩, rfl, rfl⟩

/-- What is read as an assignment starts after its `NEW`. -/
theorem passes_assignment :
    Passes sql (assignment nameOf columns) (IsSetting nameOf columns sql) := by
  have hread : Passes sql (assignment nameOf columns) _ :=
    (passes_expectSymbol ".").bind fun _ => passes_identifier.bind passes_assigns
  refine hread.congr fun ts a => ?_
  constructor
  · rintro ⟨_, _, -, rfl, ⟨point, rfl, hpoint⟩, _, _, name, rfl, ⟨t, rfl, hname, rfl⟩, sign, phrase,
      semicolon, column, e, rfl, hcolumn, hsign, hphrase, hsemicolon, rfl⟩
    exact .mk hpoint hname hcolumn hsign hphrase hsemicolon
  · rintro ⟨hpoint, hname, hcolumn, hsign, hphrase, hsemicolon⟩
    exact ⟨[_], _, (), rfl, ⟨_, rfl, hpoint⟩, [_], _, _, rfl, ⟨_, rfl, hname, rfl⟩,
      _, _, _, _, _, rfl, hcolumn, hsign, hphrase, hsemicolon, rfl⟩

/-! ## 5. Bodies -/

/-- `NEW;`, after which the assignments found so far are all. -/
def ReturnsNew (found : List (Assignment α)) : TokenLanguage (List (Assignment α)) :=
  TokenLanguage.after (·.spells "NEW") (TokenLanguage.after (·.reads ";")
    fun ts found' => ts = [] ∧ found = found')

/-- Assignments, fewer than a number of them, and the return; `read` holds the assignments before
them, last first. -/
def IsRun (nameOf : α → String) (columns : List α) (sql : List Char) (limit : Nat)
    (read : List (Assignment α)) : TokenLanguage (List (Assignment α)) := fun ts found =>
  ∃ parts as ret, ts = parts.flatten ++ ret
    ∧ List.Forall₂ (IsAssignment nameOf columns sql) parts as ∧ parts.length < limit
    ∧ IsReturn ret ∧ found = read.reverse ++ as

/-- An assignment and what comes after it. -/
def Continues (nameOf : α → String) (columns : List α) (sql : List Char) (limit : Nat)
    (read : List (Assignment α)) : TokenLanguage (List (Assignment α)) :=
  TokenLanguage.after (·.spells "NEW")
    (TokenLanguage.bind (IsSetting nameOf columns sql) fun next =>
      IsRun nameOf columns sql limit (next :: read))

theorem isRun_succ {limit : Nat} {read found : List (Assignment α)} {ts : List Token} :
    IsRun nameOf columns sql (limit + 1) read ts found
      ↔ (ReturnsNew read.reverse).after (·.spells "RETURN") ts found
        ∨ Continues nameOf columns sql limit read ts found := by
  constructor
  · rintro ⟨_, _, _, rfl, hparts, hlength, hret, rfl⟩
    cases hparts with
    | nil =>
      obtain ⟨hreturn, hnew, hsemicolon⟩ := hret
      exact Or.inl ⟨_, _, rfl, hreturn, _, _, rfl, hnew, _, _, rfl, hsemicolon, rfl, by simp⟩
    | @cons _ next parts as hfirst hparts =>
      obtain ⟨hnew, hsetting⟩ := hfirst
      exact Or.inr ⟨_, _, rfl, hnew, _, _, next, by simp, hsetting, parts, as, _, rfl, hparts,
        Nat.lt_of_succ_lt_succ hlength, hret, by simp⟩
  · rintro (⟨ret, _, rfl, hret, new, _, rfl, hnew, semicolon, _, rfl, hsemicolon, rfl, rfl⟩
      | ⟨new, _, rfl, hnew, setting, _, next, rfl, hsetting, parts, as, ret, rfl, hparts, hlength,
        hret, rfl⟩)
    · exact ⟨[], [], _, rfl, .nil, Nat.succ_pos limit, .mk hret hnew hsemicolon,
        (List.append_nil _).symm⟩
    · exact ⟨(new :: setting) :: parts, next :: as, ret, by simp, .cons (.mk hnew hsetting) hparts,
        Nat.succ_lt_succ hlength, hret, by simp⟩

theorem passes_return (found : List (Assignment α)) : Passes sql (do
    unless ← liftM (Reader.accept ["NEW"]) do throw .returnsOther
    unless ← liftM (Reader.acceptSymbol ";") do throw .missingSemicolon
    pure found : BodyReader (List (Assignment α))) (ReturnsNew found) := by
  refine (tests_accept "NEW").demands ?_ (Passes.fails_bind _ _)
  exact (tests_acceptSymbol ";").demands (Passes.pure found) (Passes.fails_bind _ _)

/-- The loop passes assignments and the return. The induction is on how many assignments it may
read. -/
theorem passes_assignments (limit : Nat) (read : List (Assignment α)) :
    Passes sql (assignments nameOf columns limit read) (IsRun nameOf columns sql limit read) := by
  induction limit generalizing read with
  | zero =>
    refine (Passes.fails _).congr fun ts found => ?_
    simp [TokenLanguage.empty, IsRun]
  | succ limit ih =>
    have hnext (t : Token) : Passes sql (do
        if ← liftM (Reader.accept ["NEW"]) then
          let next ← assignment nameOf columns
          assignments nameOf columns limit (next :: read)
        else throw (.unexpectedStatement t.text) : BodyReader (List (Assignment α)))
          (Continues nameOf columns sql limit read) :=
      (tests_accept "NEW").demands (passes_assignment.bind fun next => ih (next :: read))
        (Passes.fails _)
    have hread : Passes sql (assignments nameOf columns (limit + 1) read) fun ts found =>
        (ReturnsNew read.reverse).after (·.spells "RETURN") ts found
          ∨ Continues nameOf columns sql limit read ts found := by
      refine Passes.peek (fun t =>
        (tests_accept "RETURN").passes (passes_return read.reverse) (hnext t) ?_ ?_) ?_
      · rintro t _ _ ⟨_, _, ⟨⟩, hnew, -⟩
        exact spells_eq_false hnew (by decide)
      · rintro _ ⟨_, _, hnil, -⟩
        cases hnil
      · rintro _ (⟨_, _, hnil, -⟩ | ⟨_, _, hnil, -⟩)
        · cases hnil
        · cases hnil
    exact hread.congr fun ts found => isRun_succ.symm

/-- Before something that starts with neither its word nor a semicolon, a bracket may stand. -/
theorem acceptBracket_accepts {β : Type} {word : String} {r : BodyReader β} {P : TokenLanguage β}
    (hr : Accepts sql r P) (hword : P.Avoids (·.spells word))
    (hsemicolon : P.Avoids (·.reads ";")) :
    Accepts sql (acceptBracket word >>= fun _ => r) fun ts b =>
      ∃ bracket rest, ts = bracket ++ rest ∧ IsBracket word bracket ∧ P rest b := by
  have hclosed : Accepts sql (do
      let _ ← liftM (Reader.acceptSymbol ";")
      r) fun ts b => P.after (·.reads ";") ts b ∨ P ts b :=
    (tests_acceptSymbol ";").accepts hr hr hsemicolon
  have hopened : Accepts sql (do
      if ← liftM (Reader.accept [word]) then
        let _ ← liftM (Reader.acceptSymbol ";")
        r
      else r) fun ts b =>
        TokenLanguage.after (·.spells word) (fun ts b => P.after (·.reads ";") ts b ∨ P ts b) ts b
          ∨ P ts b :=
    (tests_accept word).accepts hclosed hr hword
  have hsame : (acceptBracket word >>= fun _ => r) = (do
      if ← liftM (Reader.accept [word]) then
        let _ ← liftM (Reader.acceptSymbol ";")
        r
      else r) := by
    unfold acceptBracket
    rw [bind_assoc]
    congr 1
    funext found
    cases found with
    | true => simp
    | false => simp
  rw [hsame]
  refine hopened.congr fun ts b => ?_
  constructor
  · rintro (⟨t, _, rfl, ht, ⟨semicolon, rest, rfl, hsemicolon, hP⟩ | hP⟩ | hP)
    · exact ⟨[t, semicolon], rest, rfl, .closed ht hsemicolon, hP⟩
    · exact ⟨[t], _, rfl, .bare ht, hP⟩
    · exact ⟨[], ts, rfl, .absent, hP⟩
  · rintro ⟨_, rest, rfl, ⟨⟩ | ht | ⟨ht, hsemicolon⟩, hP⟩
    · exact Or.inr hP
    · exact Or.inl ⟨_, rest, rfl, ht, Or.inr hP⟩
    · exact Or.inl ⟨_, _, rfl, ht, Or.inl ⟨_, rest, rfl, hsemicolon, hP⟩⟩

/-- Nothing may follow the body, and something must have been found. -/
theorem accepts_end (found : List (Assignment α)) : Accepts sql (do
    match (← get).peek? with
    | some t => throw (.trailing t.text)
    | none => if found.isEmpty then throw .noAssignments else pure found :
      BodyReader (List (Assignment α)))
      fun ts found' => ts = [] ∧ found ≠ [] ∧ found = found' := by
  intro c found' _
  obtain ⟨sql', statement, tokens⟩ := c
  cases tokens with
  | nil =>
    cases found with
    | nil =>
      constructor
      · nofun
      · rintro ⟨-, hsome, -⟩
        exact absurd rfl hsome
    | cons next found =>
      constructor
      · rintro ⟨_, ⟨⟩⟩
        exact ⟨rfl, List.cons_ne_nil _ _, rfl⟩
      · rintro ⟨-, -, rfl⟩
        exact ⟨_, rfl⟩
  | cons t ts =>
    constructor
    · nofun
    · rintro ⟨hnil, -⟩
      cases hnil

/-- A token that spells a word does not read as a semicolon. -/
theorem reads_semicolon_of_spells {t : Token} {word : String} (h : t.spells word = true) :
    t.reads ";" = false := by
  simp only [Token.spells, Token.isWord, Bool.and_eq_true] at h
  obtain ⟨⟨-, hshaped⟩, -⟩ := h
  rw [Token.reads, Bool.and_eq_false_iff, beq_eq_false_iff_ne]
  right
  intro htext
  rw [htext] at hshaped
  cases hshaped

/-- A run starts with the word of an assignment or with that of the return. -/
theorem avoids_of_isRun {limit : Nat} {read : List (Assignment α)} {β : Type}
    {Q : List (Assignment α) → TokenLanguage β} {p : Token → Bool}
    (hnew : ∀ t : Token, t.spells "NEW" = true → p t = false)
    (hreturn : ∀ t : Token, t.spells "RETURN" = true → p t = false) :
    ((IsRun nameOf columns sql limit read).bind Q).Avoids p := by
  rintro t rest b ⟨_, _, _, hsplit, ⟨parts, as, ret, rfl, hparts, -, hret, -⟩, -⟩
  cases hparts with
  | nil =>
    obtain ⟨hword, -, -⟩ := hret
    cases hsplit
    exact hreturn t hword
  | cons hfirst _ =>
    obtain ⟨hword, -⟩ := hfirst
    cases hsplit
    exact hnew t hword

theorem accepts_body (limit : Nat) : Accepts sql (body nameOf columns limit) fun ts found =>
    ∃ opening rest, ts = opening ++ rest ∧ IsBracket "BEGIN" opening
      ∧ (IsRun nameOf columns sql limit []).bind (fun found ts found' =>
        ∃ closing rest, ts = closing ++ rest ∧ IsBracket "END" closing
          ∧ rest = [] ∧ found ≠ [] ∧ found = found') rest found := by
  refine acceptBracket_accepts ?_ ?_ ?_
  · refine (passes_assignments limit []).bind_accepts fun found => ?_
    refine acceptBracket_accepts (accepts_end found) ?_ ?_
    · rintro t rest _ ⟨⟨⟩, -⟩
    · rintro t rest _ ⟨⟨⟩, -⟩
  · refine avoids_of_isRun (fun t hnew => ?_) (fun t hreturn => ?_)
    · exact spells_eq_false hnew (by decide)
    · exact spells_eq_false hreturn (by decide)
  · exact avoids_of_isRun (fun t => reads_semicolon_of_spells) fun t => reads_semicolon_of_spells

/-- Every assignment has a token, so a list of tokens has no more assignments than tokens. -/
theorem length_le_length_flatten {parts : List (List Token)} {found : List (Assignment α)}
    (h : List.Forall₂ (IsAssignment nameOf columns sql) parts found) :
    parts.length ≤ parts.flatten.length := by
  induction h with
  | nil => exact Nat.le_refl 0
  | cons hfirst _ ih =>
    obtain ⟨-, -⟩ := hfirst
    simp only [List.length_cons, List.flatten_cons, List.length_append]
    omega

/-- The tokens that are read as a body are those of the grammar. -/
theorem parseTokens_eq_ok {tokens : List Token} {found : List (Assignment α)} :
    parseTokens nameOf columns sql tokens = .ok found
      ↔ IsBody nameOf columns sql tokens found := by
  have hok : parseTokens nameOf columns sql tokens = .ok found
      ↔ ∃ c', body nameOf columns (tokens.length + 1) (Cursor.start sql tokens)
          = .ok (found, c') := by
    unfold parseTokens
    change (body nameOf columns (tokens.length + 1) (Cursor.start sql tokens)).map _ = _ ↔ _
    cases body nameOf columns (tokens.length + 1) (Cursor.start sql tokens) with
    | error e => simp [Except.map]
    | ok result => simp [Except.map, Prod.ext_iff]
  rw [hok, accepts_body (tokens.length + 1) (Cursor.start sql tokens) found rfl]
  simp only [Cursor.start]
  constructor
  · rintro ⟨opening, _, rfl, hopening, _, _, _, rfl, ⟨parts, as, ret, rfl, hparts, -, hret, rfl⟩,
      closing, _, rfl, hclosing, rfl, hsome, rfl⟩
    have hbody := IsBody.mk hopening hparts hsome hret hclosing
    simpa using hbody
  · rintro ⟨hopening, hparts, hsome, hret, hclosing⟩
    have hlength := length_le_length_flatten hparts
    refine ⟨_, _, by simp only [List.append_assoc], hopening, _, _, _, (List.append_assoc ..).symm,
      ⟨_, _, _, rfl, hparts, ?_, hret, rfl⟩, _, _, (List.append_nil _).symm, hclosing, rfl, hsome,
      rfl⟩
    simp only [List.length_append]
    omega

/-- A text is read as a maintenance body just when its tokens are one. What comes out is the columns
that are assigned to, in the order of the text, each with its expression; any other text is refused
with an error about the body. -/
theorem parse_exact (nameOf : α → String) (columns : List α) (text : String) :
    (∀ found, parse nameOf columns text = .ok found
      ↔ ∃ tokens, tokenize text.toList = .ok tokens
          ∧ IsBody nameOf columns text.toList tokens found)
    ∧ ((∃ e : MaintenanceError, parse nameOf columns text = .error e)
      ↔ ∀ tokens found, tokenize text.toList = .ok tokens →
          ¬ IsBody nameOf columns text.toList tokens found) := by
  have haccepts (found : List (Assignment α)) : parse nameOf columns text = .ok found
      ↔ ∃ tokens, tokenize text.toList = .ok tokens
          ∧ IsBody nameOf columns text.toList tokens found := by
    simp only [parse]
    cases tokenize text.toList with
    | error e => simp
    | ok tokens => simp [parseTokens_eq_ok]
  refine ⟨haccepts, ?_⟩
  constructor
  · rintro ⟨e, herror⟩ tokens found htokens hbody
    have hok := (haccepts found).mpr ⟨tokens, htokens, hbody⟩
    rw [herror] at hok
    cases hok
  · intro hnone
    cases hparse : parse nameOf columns text with
    | error e => exact ⟨e, rfl⟩
    | ok found =>
      obtain ⟨tokens, htokens, hbody⟩ := (haccepts found).mp hparse
      exact absurd hbody (hnone tokens found htokens)

/-- Both signs of assignment, a column that is there twice and an `END` without its `BEGIN`. -/
example : (parse id ["a", "b", "a"] "NEW.a : = (1); NEW.b = a; RETURN NEW; END").toOption.map
    (·.map fun a => (a.column, a.expression.sql)) = some [("a", "(1)"), ("b", "a")] := by
  decide +kernel

end Maintenance

end SchemaCatalog
