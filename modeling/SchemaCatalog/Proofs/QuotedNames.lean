import SchemaCatalog.Proofs.RequotedStatements

/-!
# Quoted names as punctuation

A reader asks for most punctuation by the text of a token, and the text of a quoted name is what
stands between its quotes. A quoted name that consists of such a mark is taken for the mark wherever
the mark is asked for, so that `DROP TABLE a "," b` drops two tables (`quoted_comma_parts_names`).

Nothing else is made of what stands between the quotes. Of two texts that differ in quoted names only,
with the same marks among them, both are read or neither is (`quoted_marks_decide`). The marks are
those of `textMarks`; closing parentheses and the commas and semicolons that split a run of tokens are
told by the kind of their token.

Statements are compared reader by reader (`Requoting.Agree.statement`), function bodies by their
grammar `IsBody`, of which each part is carried over from one text to the other.
-/

namespace SchemaCatalog

open Sql

/-! ## 1. Bodies that differ in their quoted names -/

namespace Requoting

variable {q : Requoting} {ts ts' us : List Token}

/-- A run that is paired with two runs, one after the other, is two runs. -/
theorem Runs.of_append (h : q.Runs (ts ++ ts') us) :
    ∃ vs vs', us = vs ++ vs' ∧ q.Runs ts vs ∧ q.Runs ts' vs' := by
  induction ts generalizing us with
  | nil => exact ⟨[], us, rfl, .nil, h⟩
  | cons t ts ih =>
    cases h with
    | cons hfirst hrest =>
      obtain ⟨vs, vs', rfl, h, h'⟩ := ih hrest
      exact ⟨_ :: vs, vs', rfl, .cons hfirst h, h'⟩

theorem Runs.closes {depth : Int} (h : q.Runs ts us) (hcloses : Closes depth ts) :
    Closes depth us := by
  induction h generalizing depth with
  | nil => exact hcloses
  | cons hfirst _ ih =>
    obtain ⟨hdepth, hrest⟩ := closes_cons.mp hcloses
    rw [(q.alike hfirst).nesting_eq] at hrest
    exact closes_cons.mpr ⟨hdepth, ih hrest⟩

section Bodies

open Maintenance

variable {α : Type} {nameOf : α → String} {columns : List α}

/-- Of two names of a pair both or neither are columns. -/
def SameColumns (q : Requoting) (nameOf : α → String) (columns : List α) : Prop :=
  ∀ t u, q.pairs t u → ((∃ a ∈ columns, nameOf a = t.text) ↔ ∃ a ∈ columns, nameOf a = u.text)

theorem Runs.isBracket {word : String} (h : q.Runs ts us) (hts : IsBracket word ts) :
    IsBracket word us := by
  cases hts with
  | absent =>
    cases h
    exact .absent
  | bare ht =>
    obtain _ | ⟨hfirst, ⟨⟩⟩ := h
    exact .bare ((q.alike hfirst).spells_eq word ▸ ht)
  | closed ht hsemicolon =>
    obtain _ | ⟨hfirst, _ | ⟨hsecond, ⟨⟩⟩⟩ := h
    exact .closed ((q.alike hfirst).spells_eq word ▸ ht)
      ((q.alike hsecond).reads hsemicolon (by decide))

theorem Runs.isReturn (h : q.Runs ts us) (hts : IsReturn ts) : IsReturn us := by
  obtain ⟨hreturn, hnew, hsemicolon⟩ := hts
  obtain _ | ⟨hfirst, _ | ⟨hsecond, _ | ⟨hthird, ⟨⟩⟩⟩⟩ := h
  exact .mk ((q.alike hfirst).spells_eq _ ▸ hreturn) ((q.alike hsecond).spells_eq _ ▸ hnew)
    ((q.alike hthird).reads hsemicolon (by decide))

theorem Runs.isSign (h : q.Runs ts us) (hts : IsSign ts) : IsSign us := by
  cases hts with
  | equals ht =>
    obtain _ | ⟨hfirst, ⟨⟩⟩ := h
    exact .equals ((q.alike hfirst).reads ht (by decide))
  | colonEquals ht =>
    obtain _ | ⟨hfirst, ⟨⟩⟩ := h
    exact .colonEquals ((q.alike hfirst).reads ht (by decide))
  | apart hcolon hequals =>
    obtain _ | ⟨hfirst, _ | ⟨hsecond, ⟨⟩⟩⟩ := h
    exact .apart ((q.alike hfirst).reads hcolon (by decide))
      ((q.alike hsecond).reads hequals (by decide))

theorem Runs.noSemicolon (h : q.Runs ts us) (hts : ∀ t ∈ ts, t.isSemicolon = false) :
    ∀ u ∈ us, u.isSemicolon = false := by
  induction h with
  | nil => exact hts
  | cons hfirst _ ih =>
    rw [List.forall_mem_cons] at hts ⊢
    exact ⟨(q.alike hfirst).isSemicolon_eq ▸ hts.1, ih hts.2⟩

theorem Runs.isPhrase {e : Expression} (h : q.Runs ts us) (hts : IsPhrase q.sql ts e) :
    ∃ e', IsPhrase q.sql' us e' := by
  have hparses := h.sourceText.parses
  rw [hts.parsed] at hparses
  cases hparsed : Expression.parse (Sql.sourceText q.sql' us) with
  | error x =>
    rw [hparsed] at hparses
    cases hparses
  | ok e' =>
    refine ⟨e', ?_, h.noSemicolon hts.noSemicolon, h.closes hts.balanced, hparsed,
      sql_of_parse hparsed⟩
    rintro rfl
    exact hts.nonempty (List.forall₂_nil_right_iff.mp h)

theorem Runs.isSetting {a : Assignment α} (h : q.Runs ts us)
    (hcolumns : q.SameColumns nameOf columns) (hts : IsSetting nameOf columns q.sql ts a) :
    ∃ a', IsSetting nameOf columns q.sql' us a' := by
  obtain ⟨hpoint, hname, hcolumn, hsign, hphrase, hsemicolon⟩ := hts
  obtain _ | ⟨hfirst, _ | ⟨hsecond, hrest⟩⟩ := h
  obtain ⟨_, _, rfl, hparts, hlast⟩ := Runs.of_append hrest
  obtain ⟨sign', phrase', rfl, hsign', hphrase'⟩ := hparts.of_append
  obtain _ | ⟨hlast, ⟨⟩⟩ := hlast
  obtain ⟨e', he'⟩ := hphrase'.isPhrase hphrase
  have hfound (name : String) : (columns.find? (nameOf · == name)).isSome
      ↔ ∃ a ∈ columns, nameOf a = name := by simp
  have hsame := (hcolumns _ _ hsecond).mp ((hfound _).mp (Option.isSome_of_eq_some hcolumn))
  obtain ⟨column', hcolumn'⟩ := Option.isSome_iff_exists.mp ((hfound _).mpr hsame)
  exact ⟨_, .mk ((q.alike hfirst).reads hpoint (by decide)) ((q.alike hsecond).isName_eq ▸ hname)
    hcolumn' (hsign'.isSign hsign) he' ((q.alike hlast).isSemicolon_eq ▸ hsemicolon)⟩

theorem Runs.isAssignment {a : Assignment α} (h : q.Runs ts us)
    (hcolumns : q.SameColumns nameOf columns) (hts : IsAssignment nameOf columns q.sql ts a) :
    ∃ a', IsAssignment nameOf columns q.sql' us a' := by
  obtain ⟨hnew, hsetting⟩ := hts
  obtain _ | ⟨hfirst, hrest⟩ := h
  obtain ⟨a', ha'⟩ := Runs.isSetting hrest hcolumns hsetting
  exact ⟨a', .mk ((q.alike hfirst).spells_eq _ ▸ hnew) ha'⟩

/-- As many assignments as in the one text are in the other. -/
theorem Runs.areAssignments {parts : List (List Token)} {found : List (Assignment α)}
    (hcolumns : q.SameColumns nameOf columns)
    (hparts : List.Forall₂ (IsAssignment nameOf columns q.sql) parts found)
    (h : q.Runs parts.flatten us) : ∃ parts' found', us = parts'.flatten
      ∧ List.Forall₂ (IsAssignment nameOf columns q.sql') parts' found'
      ∧ found'.length = found.length := by
  induction hparts generalizing us with
  | nil =>
    cases h
    exact ⟨[], [], rfl, .nil, rfl⟩
  | cons hfirst _ ih =>
    obtain ⟨first', _, rfl, hfirst', hrest⟩ := Runs.of_append h
    obtain ⟨a', ha'⟩ := hfirst'.isAssignment hcolumns hfirst
    obtain ⟨parts', found', rfl, hparts', hlength⟩ := ih hrest
    exact ⟨first' :: parts', a' :: found', rfl, .cons ha' hparts', by simp [hlength]⟩

theorem Runs.isBody {found : List (Assignment α)} (h : q.Runs ts us)
    (hcolumns : q.SameColumns nameOf columns) (hts : IsBody nameOf columns q.sql ts found) :
    ∃ found', IsBody nameOf columns q.sql' us found' := by
  obtain ⟨hopening, hparts, hsome, hret, hclosing⟩ := hts
  obtain ⟨_, _, rfl, hrest, hclosing'⟩ := h.of_append
  obtain ⟨_, _, rfl, hrest, hret'⟩ := hrest.of_append
  obtain ⟨_, _, rfl, hopening', hrest⟩ := hrest.of_append
  obtain ⟨parts', found', rfl, hparts', hlength⟩ := Runs.areAssignments hcolumns hparts hrest
  have hsome' : found' ≠ [] := by
    rw [← List.length_pos_iff, hlength]
    exact List.length_pos_iff.mpr hsome
  exact ⟨found', .mk (hopening'.isBracket hopening) hparts' hsome' (hret'.isReturn hret)
    (hclosing'.isBracket hclosing)⟩

theorem SameColumns.symm (h : q.SameColumns nameOf columns) : q.symm.SameColumns nameOf columns :=
  fun t u hpair => (h u t hpair).symm

/-- Of two texts with paired tokens both are read as bodies or neither is. -/
theorem Runs.isOk_parseTokens (h : q.Runs ts us) (hcolumns : q.SameColumns nameOf columns) :
    (parseTokens nameOf columns q.sql ts).isOk = (parseTokens nameOf columns q.sql' us).isOk := by
  have hok (sql : List Char) (tokens : List Token) : (parseTokens nameOf columns sql tokens).isOk
      ↔ ∃ found, IsBody nameOf columns sql tokens found := by
    simp only [← parseTokens_eq_ok]
    cases parseTokens nameOf columns sql tokens <;> simp [Except.isOk, Except.toBool]
  rw [Bool.eq_iff_iff, hok, hok]
  constructor
  · rintro ⟨found, hbody⟩
    exact h.isBody hcolumns hbody
  · rintro ⟨found, hbody⟩
    exact Runs.isBody (q := q.symm) h.flip hcolumns.symm hbody

end Bodies

/-! ## 2. Scripts that differ in their quoted names -/

/-- The statements of paired runs are paired. -/
theorem Runs.splitStatements (h : q.Runs ts us) :
    List.Forall₂ q.Runs (splitStatements ts) (splitStatements us) := by
  suffices hstatements : ∀ (depth : Nat) (current current' : List Token), q.Runs current current' →
      List.Forall₂ q.Runs (statementsFrom depth current ts) (statementsFrom depth current' us) from
    hstatements 0 [] [] .nil
  induction h with
  | nil =>
    intro depth current current' hcurrent
    rw [statementsFrom, statementsFrom, hcurrent.isEmpty_eq]
    split
    · exact .nil
    · exact .cons hcurrent.reverse .nil
  | @cons t u ts us hfirst hrest ih =>
    intro depth current current' hcurrent
    have halike := q.alike hfirst
    rw [statementsFrom, statementsFrom, depthAfter, depthAfter, halike.isSemicolon_eq,
      halike.isOpen_eq, halike.isClose_eq, hcurrent.isEmpty_eq]
    split
    · split
      · exact ih _ _ _ .nil
      · exact .cons hcurrent.reverse (ih _ _ _ .nil)
    · exact ih _ _ _ (.cons hfirst hcurrent)

theorem isOk_map {ε α β : Type} (f : α → β) (x : Except ε α) : (x.map f).isOk = x.isOk := by
  cases x <;> rfl

/-- Of two texts with paired tokens both are read as a statement or neither is. -/
theorem Runs.isOk_ofTokens (h : q.Runs ts us) :
    (Statement.ofTokens q.sql ts).isOk = (Statement.ofTokens q.sql' us).isOk := by
  have hstart : q.Places (Cursor.start q.sql ts) (Cursor.start q.sql' us) := ⟨rfl, rfl, h⟩
  have hread := Agree.statement (Cursor.start q.sql ts) (Cursor.start q.sql' us) hstart
  rw [Statement.ofTokens, Statement.ofTokens, Reader.run, Reader.run, isOk_map, isOk_map,
    hread.isOk_eq]

theorem isOk_ofRuns_cons (sql : List Char) (run : List Token) (runs : List (List Token)) :
    (Statement.ofRuns sql (run :: runs)).isOk
      = ((Statement.ofTokens sql run).isOk && (Statement.ofRuns sql runs).isOk) := by
  rw [Statement.ofRuns]
  cases Statement.ofTokens sql run with
  | error e => rfl
  | ok s => exact isOk_map _ _

theorem isOk_ofRuns {runs runs' : List (List Token)} (h : List.Forall₂ q.Runs runs runs') :
    (Statement.ofRuns q.sql runs).isOk = (Statement.ofRuns q.sql' runs').isOk := by
  induction h with
  | nil => rfl
  | cons hfirst _ ih =>
    rw [isOk_ofRuns_cons, isOk_ofRuns_cons, Runs.isOk_ofTokens hfirst, ih]

end Requoting

/-! ## 3. What quoted names decide -/

/-- Two runs of tokens, each of a text, that differ in their quoted names only, and the same marks are
among them. The parts of the two texts are read alike. -/
structure Requoted (sql sql' : List Char) (ts us : List Token) : Prop where
  length_eq : ts.length = us.length
  alike : ∀ pair ∈ ts.zip us, pair.1.Alike pair.2
  texts : ∀ pair ∈ ts.zip us, ∀ pair' ∈ ts.zip us,
    ReadAlike (textFromTo sql pair.1 pair'.1) (textFromTo sql' pair.2 pair'.2)

namespace Requoted

variable {sql sql' : List Char} {ts us : List Token}

/-- The pairs of the two runs. -/
def requoting (h : Requoted sql sql' ts us) : Requoting where
  sql := sql
  sql' := sql'
  pairs t u := (t, u) ∈ ts.zip us
  alike hpair := h.alike _ hpair
  texts hpair hpair' := h.texts _ hpair _ hpair'

theorem runs (h : Requoted sql sql' ts us) : h.requoting.Runs ts us :=
  List.forall₂_iff_zip.mpr ⟨h.length_eq, fun hpair => hpair⟩

instance : Decidable (Requoted sql sql' ts us) :=
  decidable_of_iff (ts.length = us.length ∧ (∀ pair ∈ ts.zip us, pair.1.Alike pair.2)
    ∧ ∀ pair ∈ ts.zip us, ∀ pair' ∈ ts.zip us,
      ReadAlike (textFromTo sql pair.1 pair'.1) (textFromTo sql' pair.2 pair'.2))
    ⟨fun ⟨hlength, halike, htexts⟩ => ⟨hlength, halike, htexts⟩,
      fun h => ⟨h.length_eq, h.alike, h.texts⟩⟩

end Requoted

open Reader

/-- A quoted name that comes next reads as a mark just if it consists of it, whether the mark is
looked for, passed if it comes, or must come. By its kind it is no mark. -/
theorem reads_mark_of_quoted {c : Cursor} {t : Token} {rest : List Token} (hnext : c.rest = t :: rest)
    (hquoted : t.kind = .quoted) (symbol : String) :
    atSymbol symbol c = .ok (t.text == symbol, c)
      ∧ acceptSymbol symbol c
        = .ok (t.text == symbol, if t.text == symbol then { c with rest } else c)
      ∧ (expectSymbol symbol c).isOk = (t.text == symbol) ∧ t.isSymbol symbol = false := by
  obtain ⟨sql, statement, _⟩ := c
  subst hnext
  have hreads : t.reads symbol = (t.text == symbol) := by
    simp [Token.reads, Token.isString, hquoted]
  refine ⟨by simp [atSymbol, hreads], ?_, ?_, by simp [Token.isSymbol, hquoted]⟩
  · cases hmark : t.text == symbol with
    | true => simp [acceptSymbol, hreads, hmark]
    | false => simp [acceptSymbol, hreads, hmark]
  · cases hmark : t.text == symbol with
    | true =>
      have hpassed : expectSymbol symbol ⟨sql, statement, t :: rest⟩
          = .ok ((), ⟨sql, statement, rest⟩) := by
        simp [expectSymbol, Bind.bind, acceptSymbol, hreads, hmark, Pure.pure]
      rw [hpassed]
      rfl
    | false =>
      have hrefused : ∃ e, expectSymbol symbol ⟨sql, statement, t :: rest⟩ = .error e := by
        simp [expectSymbol, Bind.bind, acceptSymbol, hreads, hmark, expected, complain]
      obtain ⟨e, hrefused⟩ := hrefused
      rw [hrefused]
      rfl

/-- A quoted name is taken for a mark exactly where it consists of it. And this is all that its text
decides: of two texts that differ in their quoted names, with the same marks among them, both or
neither are read, as a statement, as a script, and as a function body if of the names that are in the
same place both or neither are columns. -/
theorem quoted_marks_decide {sql sql' : List Char} {ts us : List Token}
    (h : Requoted sql sql' ts us) :
    (∀ (c : Cursor) (t : Token) (rest : List Token) (symbol : String), c.rest = t :: rest →
      t.kind = .quoted → atSymbol symbol c = .ok (t.text == symbol, c)
        ∧ acceptSymbol symbol c
          = .ok (t.text == symbol, if t.text == symbol then { c with rest } else c)
        ∧ (expectSymbol symbol c).isOk = (t.text == symbol) ∧ t.isSymbol symbol = false)
    ∧ (Statement.ofTokens sql ts).isOk = (Statement.ofTokens sql' us).isOk
    ∧ (Statement.ofRuns sql (splitStatements ts)).isOk
      = (Statement.ofRuns sql' (splitStatements us)).isOk
    ∧ ∀ {α : Type} (nameOf : α → String) (columns : List α),
      (∀ pair ∈ ts.zip us,
        (∃ a ∈ columns, nameOf a = pair.1.text) ↔ ∃ a ∈ columns, nameOf a = pair.2.text) →
      (Maintenance.parseTokens nameOf columns sql ts).isOk
        = (Maintenance.parseTokens nameOf columns sql' us).isOk := by
  refine ⟨fun c t rest symbol hnext hquoted => reads_mark_of_quoted hnext hquoted symbol,
    h.runs.isOk_ofTokens, Requoting.isOk_ofRuns h.runs.splitStatements, ?_⟩
  intro α nameOf columns hcolumns
  exact h.runs.isOk_parseTokens fun t u hpair => hcolumns (t, u) hpair

/-- A table with a blank in its name is dropped as any other one is, and a column with a blank in its
name is assigned to. -/
theorem quoted_marks_decide_of_names :
    let tokens := fun sql : List Char => (tokenize sql).toOption.getD []
    let drop := "DROP TABLE \"x\"".toList
    let drop' := "DROP TABLE \"y z\"".toList
    let body := "NEW.\"x\" = 1; RETURN NEW;".toList
    let body' := "NEW.\"y z\" = 1; RETURN NEW;".toList
    let columns := ["x", "y z"]
    Requoted drop drop' (tokens drop) (tokens drop')
      ∧ (Statement.ofTokens drop' (tokens drop')).isOk = true
      ∧ Requoted body body' (tokens body) (tokens body')
      ∧ (Maintenance.parseTokens id columns body' (tokens body')).isOk = true := by
  intro tokens drop drop' body body' columns
  have hdrop : Requoted drop drop' (tokens drop) (tokens drop') := by decide +kernel
  have hbody : Requoted body body' (tokens body) (tokens body') := by decide +kernel
  have hcolumns : ∀ pair ∈ (tokens body).zip (tokens body'),
      (∃ a ∈ columns, id a = pair.1.text) ↔ ∃ a ∈ columns, id a = pair.2.text := by
    decide +kernel
  obtain ⟨-, hstatement, -, -⟩ := quoted_marks_decide hdrop
  obtain ⟨-, -, -, hassigned⟩ := quoted_marks_decide hbody
  refine ⟨hdrop, ?_, hbody, ?_⟩
  · rw [← hstatement]
    decide +kernel
  · rw [← hassigned id columns hcolumns]
    decide +kernel

/-- A quoted comma parts the names of two tables, and a quoted sign of assignment assigns. -/
theorem quoted_comma_parts_names :
    let comma : Token := ⟨.quoted, ",", 13, 15⟩
    let sql := "DROP TABLE a \",\" b".toList
    let tokens : List Token := [⟨.word, "DROP", 0, 3⟩, ⟨.word, "TABLE", 5, 9⟩, ⟨.word, "a", 11, 11⟩,
      comma, ⟨.word, "b", 17, 17⟩]
    tokenize sql = .ok tokens
      ∧ Reader.acceptSymbol "," ⟨sql, tokens, [comma]⟩ = .ok (true, ⟨sql, tokens, []⟩)
      ∧ Statement.ofTokens sql tokens = .ok (.dropTable { names := [{ name := "a" }, { name := "b" }] })
      ∧ (Maintenance.parse id ["a"] "NEW.a \"=\" 1; RETURN NEW;").isOk = true := by
  refine ⟨by decide +kernel, by rfl, by rfl, by decide +kernel⟩

end SchemaCatalog
