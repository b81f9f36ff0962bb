import SchemaCatalog.Proofs.Run
import SchemaCatalog.Statement.Grammar

/-!
# Splitting scripts

A script is split into statements by a recursion with the depth of the parentheses and the tokens
of the current statement. Neither shows in what comes out: the tokens of the statements in their
order are those of the script without the semicolons outside parentheses
(`flatten_splitStatements`), and a script may be split at any of these semicolons, the parts being
split on their own (`splitStatements_append`). Both hold at any depth and with any tokens read so
far, which is how they are proved, by induction over the tokens. What a script is read as follows:
the statements of the one part and then those of the other (`Script.splitting_compositional`).
-/

namespace SchemaCatalog.Sql

/-! ## 1. Depth -/

/-- Semicolons leave the depth. -/
theorem depthAfter_semicolon {t : Token} (h : t.isSemicolon = true) (depth : Nat) :
    depthAfter depth t = depth := by
  have htext : t.text = ";" := beq_iff_eq.mp (Bool.and_eq_true_iff.mp h).2
  simp [depthAfter, Token.isOpen, Token.isClose, Token.isSymbol, htext]

/-- The depth of the parentheses after tokens. -/
def depthOver (tokens : List Token) : Nat := tokens.foldl depthAfter 0

/-- The tokens that belong to a statement: all but the semicolons met at depth zero, where `depth`
is that before the first token. -/
def keptFrom (depth : Nat) (tokens : List Token) : List Token :=
  ((tokens.zip (tokens.scanl depthAfter depth)).filter fun met =>
    !(met.1.isSemicolon && met.2 == 0)).map (·.1)

theorem keptFrom_cons (depth : Nat) (t : Token) (ts : List Token) :
    keptFrom depth (t :: ts) = if t.isSemicolon && depth == 0 then keptFrom (depthAfter depth t) ts
      else t :: keptFrom (depthAfter depth t) ts := by
  rw [keptFrom, List.scanl_cons, List.zip_cons_cons, List.filter_cons]
  cases t.isSemicolon && depth == 0 <;> rfl

/-! ## 2. Splitting -/

theorem nil_not_mem_statementsFrom (depth : Nat) (current tokens : List Token) :
    [] ∉ statementsFrom depth current tokens := by
  induction tokens generalizing depth current with
  | nil =>
    rw [statementsFrom]
    cases current <;> simp
  | cons t ts ih =>
    rw [statementsFrom]
    split
    · split
      · exact ih 0 []
      · rename_i hcurrent
        rw [List.mem_cons, not_or]
        exact ⟨fun hnil => hcurrent (by simpa using hnil.symm), ih 0 []⟩
    · exact ih _ _

/-- What has been read of a statement comes first, and then what belongs to statements. -/
theorem flatten_statementsFrom (depth : Nat) (current tokens : List Token) :
    (statementsFrom depth current tokens).flatten = current.reverse ++ keptFrom depth tokens := by
  induction tokens generalizing depth current with
  | nil =>
    rw [statementsFrom]
    cases current <;> simp [keptFrom]
  | cons t ts ih =>
    rw [statementsFrom, keptFrom_cons]
    split
    · rename_i hends
      obtain ⟨hsemicolon, hdepth⟩ := Bool.and_eq_true_iff.mp hends
      rw [depthAfter_semicolon hsemicolon, beq_iff_eq.mp hdepth]
      split
      · rename_i hnone
        rw [ih, List.isEmpty_iff.mp hnone]
      · rw [List.flatten_cons, ih, List.reverse_nil, List.nil_append]
    · rw [ih, List.reverse_cons, List.append_assoc]
      rfl

/-- At a semicolon outside parentheses the tokens after it are split on their own. -/
theorem statementsFrom_append {t : Token} (ht : t.isSemicolon = true) (depth : Nat)
    (current before after : List Token) (h : before.foldl depthAfter depth = 0) :
    statementsFrom depth current (before ++ t :: after)
      = statementsFrom depth current before ++ statementsFrom 0 [] after := by
  induction before generalizing depth current with
  | nil =>
    have hends : (t.isSemicolon && depth == 0) = true :=
      Bool.and_eq_true_iff.mpr ⟨ht, beq_iff_eq.mpr h⟩
    rw [List.nil_append, statementsFrom, statementsFrom, if_pos hends]
    split <;> rfl
  | cons u us ih =>
    rw [List.cons_append, statementsFrom, statementsFrom]
    split
    · rename_i hends
      obtain ⟨hsemicolon, hdepth⟩ := Bool.and_eq_true_iff.mp hends
      rw [List.foldl_cons, depthAfter_semicolon hsemicolon, beq_iff_eq.mp hdepth] at h
      split
      · exact ih 0 [] h
      · rw [ih 0 [] h, List.cons_append]
    · exact ih _ _ h

theorem flatten_splitStatements (tokens : List Token) :
    (splitStatements tokens).flatten = keptFrom 0 tokens := flatten_statementsFrom 0 [] tokens

theorem splitStatements_append {t : Token} (ht : t.isSemicolon = true) {before : List Token}
    (h : depthOver before = 0) (after : List Token) :
    splitStatements (before ++ t :: after) = splitStatements before ++ splitStatements after :=
  statementsFrom_append ht 0 [] before after h

end SchemaCatalog.Sql

namespace SchemaCatalog

open Sql

/-! ## 3. Reading -/

/-- Runs are read one after the other: those that come last matter once the first have been read. -/
theorem Statement.ofRuns_append (sql : List Char) (runs more : List (List Token)) :
    Statement.ofRuns sql (runs ++ more) = (do
      let first ← Statement.ofRuns sql runs
      let rest ← Statement.ofRuns sql more
      pure (first ++ rest)) := by
  induction runs with
  | nil => exact (bind_pure (Statement.ofRuns sql more)).symm
  | cons run runs ih =>
    rw [List.cons_append, Statement.ofRuns, Statement.ofRuns]
    cases Statement.ofTokens sql run with
    | error e => rfl
    | ok statement =>
      rw [ih]
      cases Statement.ofRuns sql runs with
      | error e => rfl
      | ok first => cases Statement.ofRuns sql more <;> rfl

theorem Script.parse_of_tokenize {sql : String} {tokens : List Token}
    (h : tokenize sql.toList = .ok tokens) :
    Script.parse sql = Statement.ofRuns sql.toList (splitStatements tokens) := by
  simp only [Script.parse, h]

/-- Splitting loses nothing but the semicolons outside parentheses, and the parts of a script on
both sides of such a semicolon are split, and read, one after the other. -/
theorem Script.splitting_compositional :
    (∀ tokens, [] ∉ splitStatements tokens ∧ (splitStatements tokens).flatten = keptFrom 0 tokens) ∧
    (∀ (before after : List Token) (t : Token), t.isSemicolon = true → depthOver before = 0 →
      splitStatements (before ++ t :: after) = splitStatements before ++ splitStatements after ∧
      ∀ sql : String, tokenize sql.toList = .ok (before ++ t :: after) →
        Script.parse sql = (do
          let first ← Statement.ofRuns sql.toList (splitStatements before)
          let rest ← Statement.ofRuns sql.toList (splitStatements after)
          pure (first ++ rest))) := by
  refine ⟨fun tokens => ⟨nil_not_mem_statementsFrom 0 [] tokens, flatten_splitStatements tokens⟩,
    fun before after t ht hdepth => ⟨splitStatements_append ht hdepth after, fun sql hsql => ?_⟩⟩
  rw [Script.parse_of_tokenize hsql, splitStatements_append ht hdepth, Statement.ofRuns_append]

/-- A stray closing parenthesis does not count, and a semicolon in parentheses ends no statement. -/
theorem Script.splitting_compositional_of_parentheses :
    let sql := "ANALYZE a); ANALYZE (b; c);"
    let before : List Token :=
      [⟨.word, "ANALYZE", 0, 6⟩, ⟨.word, "a", 8, 8⟩, ⟨.symbol, ")", 9, 9⟩]
    let second : List Token :=
      [⟨.word, "ANALYZE", 12, 18⟩, ⟨.symbol, "(", 20, 20⟩, ⟨.word, "b", 21, 21⟩,
        ⟨.symbol, ";", 22, 22⟩, ⟨.word, "c", 24, 24⟩, ⟨.symbol, ")", 25, 25⟩]
    Script.parse sql = (do
      let first ← Statement.ofRuns sql.toList [before]
      let rest ← Statement.ofRuns sql.toList [second]
      pure (first ++ rest)) := by
  intro sql before second
  have hbefore : splitStatements before = [before] := by decide
  have hafter : splitStatements (second ++ [⟨.symbol, ";", 26, 26⟩]) = [second] := by decide
  have hparts := (Script.splitting_compositional.2 before (second ++ [⟨.symbol, ";", 26, 26⟩])
    ⟨.symbol, ";", 10, 10⟩ (by decide) (by decide)).2 sql (by decide +kernel)
  rwa [hbefore, hafter] at hparts

end SchemaCatalog
