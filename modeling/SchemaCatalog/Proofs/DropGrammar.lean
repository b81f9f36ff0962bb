import SchemaCatalog.Proofs.ReaderLanguage
import SchemaCatalog.Statement.Grammar

/-!
# The grammar of drops

What may follow the words `DROP` and a kind is `IsTargets`, with one constructor for each kind, and
`isDrop_iff` says that a run of tokens which starts with these words is read as a statement just if
it is one of `IsDrop`, and as which. Every token of such a run is a part of it: the words, the
targets with what is in their parentheses, and at most one word at the end. Roles are the exception.
Their names may have anything after them that no comma leads, and it is dropped without a word
(`role_without_comma_is_ignored`).

The readers are taken from the end. `readCascade` lets nothing stand after it, and neither a comma
nor the words at the end can go on a name, so each target ends where the grammar says.
-/

namespace SchemaCatalog

open Sql Reader

/-! ## 1. The grammar -/

/-- The token is the mode of an argument. -/
def isMode (t : Token) : Bool := t.isWord && argumentModes.contains (Text.upper t.text)

/-- The token opens the default of an argument. -/
def opensDefault (t : Token) : Bool := t.spells "DEFAULT" || t.reads "="

/-- The mode of an argument, if one comes next. -/
inductive IsMode : List Token → Option String → List Token → Prop
  | present {t : Token} (rest : List Token) : isMode t = true →
      IsMode [t] (some (Text.upper t.text)) rest
  | absent {rest : List Token} : (∀ t ∈ rest.head?, isMode t = false) → IsMode [] none rest

/-- The type of an argument, and its name before it if there is one: of two words that make no type
together the first is a name. -/
inductive IsTyped (sql : List Char) : List Token → Option String → String → Prop
  | named {t name : Token} {ts : List Token} : t.isName = true →
      DataType.isMultiword (Text.foldBlanks (sourceText sql (name :: t :: ts))) = false →
      IsTyped sql (name :: t :: ts) (some name.text) (Text.foldBlanks (sourceText sql (t :: ts)))
  | unnamed {t : Token} {ts : List Token} : (∀ t' ∈ ts.head?, t'.isName = true →
      DataType.isMultiword (Text.foldBlanks (sourceText sql (t :: ts))) = true) →
      IsTyped sql (t :: ts) none (Text.foldBlanks (sourceText sql (t :: ts)))

/-- The default of an argument, if there is one. It is not opened within parentheses. -/
inductive IsDefault (sql : List Char) : Int → List Token → Option String → Prop
  | none (depth : Int) : IsDefault sql depth [] none
  | some {t : Token} (value : List Token) : opensDefault t = true →
      IsDefault sql 0 (t :: value) (some (sourceText sql value))

/-- The run is an argument, all of it. -/
inductive IsArgument (sql : List Char) : List Token → FunctionArgument → Prop
  | mk {ms ts ds : List Token} {a : FunctionArgument} : IsMode ms a.mode (ts ++ ds) →
      IsTyped sql ts a.name a.dataType → Passable opensDefault 0 ts →
      IsDefault sql (nesting ts) ds a.default → IsArgument sql (ms ++ (ts ++ ds)) a

/-- A function, with the types of its arguments if they are given. Those it only gives out are not
counted. -/
inductive IsSignature (sql : List Char) : List Token → FunctionSignature → Prop
  | bare {ts : List Token} {name : ObjectName} : IsObjectName ts name → IsSignature sql ts { name }
  | typed {ts group inside : List Token} {name : ObjectName} {arguments : List FunctionArgument} :
      IsObjectName ts name → IsGroup group inside →
      List.Forall₂ (IsArgument sql) (splitCommas inside) arguments →
      IsSignature sql (ts ++ group)
        { name, argumentTypes := some ((arguments.filter (·.mode != some "OUT")).map (·.dataType)) }

/-- A role, which the word `GROUP` may precede. -/
inductive IsRoleName : List Token → String → Prop
  | mk {opt : List Token} {taken : Bool} {t : Token} : Optional ["GROUP"] opt taken [t] →
      t.isName = true → IsRoleName (opt ++ [t]) t.text

/-- A name without points. -/
inductive IsPlainName : List Token → String → Prop
  | mk {t : Token} : t.isName = true → IsPlainName [t] t.text

/-- The table of a trigger, if it is given. -/
inductive IsOnTable : List Token → Option ObjectName → Prop
  | none : IsOnTable [] none
  | some {on ts : List Token} {table : ObjectName} : IsWords ["ON"] on → IsObjectName ts table →
      IsOnTable (on ++ ts) (some table)

/-- `CASCADE`, `RESTRICT` or nothing. -/
inductive IsEnding : List Token → Bool → Prop
  | none : IsEnding [] false
  | cascade {ts : List Token} : IsWords ["CASCADE"] ts → IsEnding ts true
  | restrict {ts : List Token} : IsWords ["RESTRICT"] ts → IsEnding ts false

/-- The words for roles. -/
inductive RoleWord where
  | role
  | user
  | group

/-- The kinds of objects that are dropped from a catalog. -/
inductive DropKind where
  | table
  | index
  | function
  | trigger
  | policy
  | role (word : RoleWord)
  | schema

/-- The word for a kind. -/
def DropKind.word : DropKind → String
  | table => "TABLE"
  | index => "INDEX"
  | function => "FUNCTION"
  | trigger => "TRIGGER"
  | policy => "POLICY"
  | role .role => "ROLE"
  | role .user => "USER"
  | role .group => "GROUP"
  | schema => "SCHEMA"

/-- What is dropped of a kind, perhaps only if it exists, up to the end of the statement. -/
inductive IsTargets (sql : List Char) : DropKind → List Token → Statement → Prop
  | table {opt list ending : List Token} {ifExists cascade : Bool} {names : List ObjectName} :
      Optional ["IF", "EXISTS"] opt ifExists (list ++ ending) → IsList IsObjectName list names →
      IsEnding ending cascade →
      IsTargets sql .table (opt ++ (list ++ ending)) (.dropTable { names, ifExists, cascade })
  | index {slow opt list ending : List Token} {concurrently ifExists cascade : Bool}
      {names : List ObjectName} :
      Optional ["CONCURRENTLY"] slow concurrently (opt ++ (list ++ ending)) →
      Optional ["IF", "EXISTS"] opt ifExists (list ++ ending) → IsList IsObjectName list names →
      IsEnding ending cascade →
      IsTargets sql .index (slow ++ (opt ++ (list ++ ending))) (.dropIndex { names, ifExists })
  | function {opt list ending : List Token} {ifExists cascade : Bool}
      {targets : List FunctionSignature} :
      Optional ["IF", "EXISTS"] opt ifExists (list ++ ending) →
      IsList (IsSignature sql) list targets → IsEnding ending cascade →
      IsTargets sql .function (opt ++ (list ++ ending)) (.dropFunction { targets, ifExists, cascade })
  | trigger {opt ending on : List Token} {ifExists cascade : Bool} {t : Token}
      {table : Option ObjectName} :
      Optional ["IF", "EXISTS"] opt ifExists (t :: (on ++ ending)) → t.isName = true →
      IsOnTable on table → IsEnding ending cascade →
      IsTargets sql .trigger (opt ++ t :: (on ++ ending))
        (.dropTrigger { name := t.text, table, ifExists })
  | policy {opt ending on ts : List Token} {ifExists cascade : Bool} {t : Token}
      {table : ObjectName} :
      Optional ["IF", "EXISTS"] opt ifExists (t :: (on ++ (ts ++ ending))) → t.isName = true →
      IsWords ["ON"] on → IsObjectName ts table → IsEnding ending cascade →
      IsTargets sql .policy (opt ++ t :: (on ++ (ts ++ ending)))
        (.dropPolicy { name := t.text, table, ifExists })
  | role {word : RoleWord} {opt list ignored : List Token} {ifExists : Bool}
      {names : List String} :
      Optional ["IF", "EXISTS"] opt ifExists (list ++ ignored) → IsList IsRoleName list names →
      NotAt "," ignored →
      IsTargets sql (.role word) (opt ++ (list ++ ignored)) (.dropRole { names, ifExists })
  | schema {opt list ending : List Token} {ifExists cascade : Bool} {names : List String} :
      Optional ["IF", "EXISTS"] opt ifExists (list ++ ending) → IsList IsPlainName list names →
      IsEnding ending cascade →
      IsTargets sql .schema (opt ++ (list ++ ending)) (.dropSchema { names, ifExists, cascade })

/-- The run starts with the words for dropping something from a catalog. Mappings of users are in
none. -/
structure StartsDrop (kind : DropKind) (ts : List Token) : Prop where
  words : startsWithWords ["DROP", kind.word] ts = true
  noMapping : startsWithWords ["DROP", "USER", "MAPPING"] ts = false

/-- A drop: the words, and what is dropped. -/
inductive IsDrop (sql : List Char) : List Token → Statement → Prop
  | mk {kind : DropKind} {words rest : List Token} {s : Statement} :
      IsWords ["DROP", kind.word] words → StartsDrop kind (words ++ rest) →
      IsTargets sql kind rest s → IsDrop sql (words ++ rest) s

/-! ## 2. Arguments -/

theorem answers_readTypeText (tokens : List Token) :
    Answers (readTypeText tokens) fun sql t => Text.foldBlanks (sourceText sql tokens) = t := by
  have h := (answers_text tokens).bind fun s => Answers.pure (Text.foldBlanks s)
  intro c t c'
  rw [readTypeText, h c t c']
  simp

theorem untilWordOrSymbol_opensDefault :
    untilWordOrSymbol ["DEFAULT"] ["="] = before opensDefault := by
  unfold untilWordOrSymbol
  congr 1
  funext t
  simp [opensDefault, Token.spells, Bool.beq_eq_decide_eq]

/-- Reads the parts of an argument after its mode. -/
def readTyped (mode : Option String) : Reader (Option String × List Token × Option String) := do
  let tokens ← before opensDefault
  let default ←
    if ← (accept ["DEFAULT"] <||> acceptSymbol "=") then do
      pure (some (← text (← remaining)))
    else pure none
  pure (mode, tokens, default)

/-- The mode that a run starts with, and the tokens after it. -/
def splitMode : List Token → Option String × List Token
  | [] => (none, [])
  | t :: ts => if isMode t then (some (Text.upper t.text), ts) else (none, t :: ts)

theorem splitMode_eq_iff {ts rest : List Token} {mode : Option String} :
    splitMode ts = (mode, rest) ↔ ∃ ms, ts = ms ++ rest ∧ IsMode ms mode rest := by
  constructor
  · intro h
    cases ts with
    | nil =>
      cases h
      exact ⟨[], rfl, .absent (by simp)⟩
    | cons t ts =>
      rw [splitMode] at h
      split at h
      · rename_i ht
        cases h
        exact ⟨[t], rfl, .present _ ht⟩
      · rename_i ht
        cases h
        exact ⟨[], rfl, .absent (by simpa using ht)⟩
  · rintro ⟨ms, rfl, _ | hnone⟩
    · rename_i ht
      simp [splitMode, ht]
    · cases rest with
      | nil => rfl
      | cons t rest => simp [splitMode, hnone t rfl]

theorem readArgumentParts_eq (c : Cursor) : readArgumentParts c
    = readTyped (splitMode c.rest).1 { c with rest := (splitMode c.rest).2 } := by
  let rest (word : Option String) : Reader (Option String × List Token × Option String) :=
    if argumentModes.contains (word.getD "") then do
      let t ← advance
      readTyped (some (Text.upper t.text))
    else readTyped none
  have hread : readArgumentParts c = rest c.word? c := by
    unfold readArgumentParts
    rw [untilWordOrSymbol_opensDefault]
    rfl
  have hword : argumentModes.contains (c.word?.getD "") = c.rest.head?.any isMode := by
    obtain ⟨sql, statement, tokens⟩ := c
    have hempty : "" ∉ argumentModes := by decide
    cases tokens with
    | nil => rfl
    | cons t ts => cases hword : t.isWord <;> simp [Cursor.word?, isMode, hword, hempty]
  rw [hread]
  obtain ⟨sql, statement, tokens⟩ := c
  cases hmode : tokens.head?.any isMode with
  | true =>
    cases tokens with
    | nil => cases hmode
    | cons t ts =>
      have ht : isMode t = true := by simpa using hmode
      rw [show rest _ = _ from if_pos (hword.trans hmode)]
      simp [Bind.bind, advance, splitMode, ht]
  | false =>
    have hsplit : splitMode tokens = (none, tokens) := by
      cases tokens with
      | nil => rfl
      | cons t ts => simpa [splitMode] using hmode
    have hnone : ¬ argumentModes.contains (Option.getD _ "") = true := fun hsome =>
      Bool.false_ne_true (hmode.symm.trans (hword.symm.trans hsome))
    rw [show rest _ = _ from if_neg hnone, hsplit]

/-- The default is read to the end. -/
theorem readTyped_eq (mode : Option String) {c : Cursor} {typed default : List Token}
    (h : spanTop opensDefault 0 [] c.rest = (typed, default)) : readTyped mode c
      = .ok ((mode, typed, if default.isEmpty then none else some (sourceText c.sql default.tail)),
        { c with rest := [] }) := by
  have hbefore : before opensDefault c = .ok (typed, { c with rest := default }) := by
    simp [before, h]
  cases default with
  | nil =>
    simp [readTyped, orM_eq, Bind.bind, hbefore, accept, startsWithWords, acceptSymbol, Pure.pure]
  | cons t ts =>
    obtain ⟨more, -, -, -, hhalts⟩ := spanTop_eq_iff.mp h
    have hopens : opensDefault t = true := (hhalts t rfl).2
    rw [opensDefault, Token.spells, Bool.or_eq_true] at hopens
    cases hword : t.isWord && Text.upper t.text == "DEFAULT" with
    | true =>
      simp [readTyped, orM_eq, Bind.bind, hbefore, accept, startsWithWords, hword, Pure.pure,
        remaining, text]
    | false =>
      have hsign : t.reads "=" = true := by simpa [hword] using hopens
      simp [readTyped, orM_eq, Bind.bind, hbefore, accept, startsWithWords, hword, acceptSymbol,
        hsign, Pure.pure, remaining, text]

theorem isDefault_iff {sql : List Char} {depth : Int} {ds : List Token} {value : Option String} :
    IsDefault sql depth ds value ↔ Halts opensDefault depth ds
      ∧ (if ds.isEmpty then none else some (sourceText sql ds.tail)) = value := by
  constructor
  · rintro (_ | ⟨rest, hopens⟩)
    · simp [Halts]
    · simp [Halts, hopens]
  · rintro ⟨hhalts, rfl⟩
    cases ds with
    | nil => exact .none depth
    | cons t ts =>
      obtain ⟨rfl, hopens⟩ := hhalts t rfl
      exact .some ts hopens

theorem accepts_readTyped (mode : Option String) : Accepts (readTyped mode) fun sql ts parts =>
    ∃ ds, ts = parts.2.1 ++ ds ∧ mode = parts.1 ∧ Passable opensDefault 0 parts.2.1
      ∧ IsDefault sql (nesting parts.2.1) ds parts.2.2 := by
  rintro c ⟨mode', typed, value⟩
  simp only [isDefault_iff]
  constructor
  · rintro ⟨c', hread⟩
    cases h : spanTop opensDefault 0 [] c.rest with
    | mk typed' default =>
      rw [readTyped_eq mode h] at hread
      cases hread
      obtain ⟨more, rfl, hsplit, hpassable, hhalts⟩ := spanTop_eq_iff.mp h
      exact ⟨default, hsplit, rfl, hpassable, by simpa using hhalts, rfl⟩
  · rintro ⟨ds, hsplit, rfl, hpassable, hhalts, rfl⟩
    have h : spanTop opensDefault 0 [] c.rest = (typed, ds) :=
      spanTop_eq_iff.mpr ⟨typed, rfl, hsplit, hpassable, by simpa using hhalts⟩
    exact ⟨_, readTyped_eq mode h⟩

/-- The parts of an argument are read to its end. -/
theorem accepts_readArgumentParts : Accepts readArgumentParts fun sql part parts =>
    ∃ ms ds, part = ms ++ (parts.2.1 ++ ds) ∧ IsMode ms parts.1 (parts.2.1 ++ ds)
      ∧ Passable opensDefault 0 parts.2.1 ∧ IsDefault sql (nesting parts.2.1) ds parts.2.2 := by
  intro c parts
  simp only [readArgumentParts_eq, accepts_readTyped _ _ _]
  constructor
  · rintro ⟨ds, hrest, hmode, hpassable, hdefault⟩
    obtain ⟨ms, hsplit, hms⟩ := splitMode_eq_iff.mp (Prod.ext hmode hrest)
    exact ⟨ms, ds, hsplit, hms, hpassable, hdefault⟩
  · rintro ⟨ms, ds, hsplit, hms, hpassable, hdefault⟩
    have hmode := splitMode_eq_iff.mpr ⟨ms, hsplit, hms⟩
    rw [hmode]
    exact ⟨ds, rfl, rfl, hpassable, hdefault⟩

/-- The first of some tokens is the name of an argument whose type the others are. -/
def startsWithName (whole : String) (others : List Token) : Bool :=
  (others.head?.map Token.isName).getD false && !DataType.isMultiword whole

/-- What is made of the parts of an argument. -/
def argumentOf (parts : Option String × List Token × Option String) : Reader FunctionArgument :=
  match parts.2.1 with
  | [] => expected "an argument type"
  | first :: others => do
    let whole ← readTypeText (first :: others)
    if startsWithName whole others then
      pure { dataType := ← readTypeText others, name := some first.text, mode := parts.1,
             default := parts.2.2 }
    else pure { dataType := whole, name := none, mode := parts.1, default := parts.2.2 }

theorem isTyped_cons {sql : List Char} {first : Token} {others : List Token}
    {name : Option String} {dataType : String} : IsTyped sql (first :: others) name dataType
      ↔ if startsWithName (Text.foldBlanks (sourceText sql (first :: others))) others then
          name = some first.text ∧ dataType = Text.foldBlanks (sourceText sql others)
        else name = none ∧ dataType = Text.foldBlanks (sourceText sql (first :: others)) := by
  constructor
  · intro h
    cases h with
    | named hname htype => simp [startsWithName, hname, htype]
    | unnamed hnone =>
      rw [if_neg ?_]
      · exact ⟨rfl, rfl⟩
      · cases others with
        | nil => simp [startsWithName]
        | cons t others => simpa [startsWithName] using hnone t rfl
  · intro h
    split at h
    · rename_i hnamed
      obtain ⟨rfl, rfl⟩ := h
      cases others with
      | nil => simp [startsWithName] at hnamed
      | cons t others =>
        have ⟨hname, htype⟩ : t.isName = true ∧ DataType.isMultiword
            (Text.foldBlanks (sourceText sql (first :: t :: others))) = false := by
          simpa [startsWithName] using hnamed
        exact .named hname htype
    · rename_i hnamed
      obtain ⟨rfl, rfl⟩ := h
      refine .unnamed fun t ht hname => ?_
      simpa [startsWithName, show others.head? = some t from ht, hname] using hnamed

theorem answers_argumentOf (parts : Option String × List Token × Option String) :
    Answers (argumentOf parts) fun sql a => IsTyped sql parts.2.1 a.name a.dataType
      ∧ parts.1 = a.mode ∧ parts.2.2 = a.default := by
  obtain ⟨mode, tokens, value⟩ := parts
  intro c a c'
  cases tokens with
  | nil =>
    constructor
    · intro h
      cases h
    · rintro ⟨-, h, -⟩
      cases h
  | cons first others =>
    have hanswers := (answers_readTypeText (first :: others)).bind fun whole =>
      Answers.ite (startsWithName whole others = true)
        ((answers_readTypeText others).bind fun t => Answers.pure
          ({ dataType := t, name := some first.text, mode, default := value } : FunctionArgument))
        (Answers.pure { dataType := whole, name := none, mode, default := value })
    refine (hanswers c a c').trans (and_congr_right fun _ => ?_)
    obtain ⟨dataType, name, mode', value'⟩ := a
    simp only [isTyped_cons]
    constructor
    · rintro ⟨_, rfl, h⟩
      split at h
      · rename_i hnamed
        obtain ⟨_, rfl, h⟩ := h
        cases h
        simp [hnamed]
      · rename_i hnamed
        cases h
        simp [hnamed]
    · rintro ⟨h, rfl, rfl⟩
      refine ⟨_, rfl, ?_⟩
      split at h
      · rename_i hnamed
        obtain ⟨rfl, rfl⟩ := h
        rw [if_pos hnamed]
        exact ⟨_, rfl, rfl⟩
      · rename_i hnamed
        obtain ⟨rfl, rfl⟩ := h
        rw [if_neg hnamed]

theorem answers_argument (part : List Token) :
    Answers (FunctionArgument.read part) fun sql a => IsArgument sql part a := by
  have hread : FunctionArgument.read part = within part readArgumentParts >>= argumentOf := by
    unfold FunctionArgument.read
    refine congrArg (within part readArgumentParts >>= ·) (funext fun ⟨mode, typed, value⟩ => ?_)

    cases typed with
    | nil => rfl
    | cons first others =>
      simp only [argumentOf]
      delta startsWithName
      with_reducible rfl
  have hanswers := (accepts_readArgumentParts.within part).bind answers_argumentOf
  intro c a c'
  rw [hread, hanswers c a c']
  constructor
  · rintro ⟨rfl, ⟨mode, typed, value⟩, ⟨ms, ds, rfl, hms, hpassable, hdefault⟩, htyped, rfl, rfl⟩
    exact ⟨rfl, .mk hms htyped hpassable hdefault⟩
  · rintro ⟨rfl, hargument⟩
    cases hargument with
    | @mk ms ts ds a hms htyped hpassable hdefault =>
      exact ⟨rfl, (a.mode, ts, a.default), ⟨ms, ds, rfl, hms, hpassable, hdefault⟩, htyped, rfl,
        rfl⟩

/-! ## 3. Targets -/

theorem parses_readArguments : Parses readArguments (fun _ => True) fun sql ts arguments =>
    ∃ inside, IsGroup ts inside
      ∧ List.Forall₂ (IsArgument sql) (splitCommas inside) arguments := by
  exact parses_parenthesized.bind_answers fun inside => Answers.each answers_argument _

theorem parses_signature : Parses FunctionSignature.read
    (fun ts => NotAt "." ts ∧ NotAt "(" ts) IsSignature := by
  have hgroup (name : ObjectName) : Parses (do
      let arguments ← readArguments
      let inputs := arguments.filter (·.mode != some "OUT")
      pure { name, argumentTypes := some (inputs.map (·.dataType)) } : Reader FunctionSignature)
      (fun _ => True) fun sql ts s => ∃ arguments, (∃ inside, IsGroup ts inside
        ∧ List.Forall₂ (IsArgument sql) (splitCommas inside) arguments)
        ∧ { name, argumentTypes := some ((arguments.filter (·.mode != some "OUT")).map
          (·.dataType)) } = s :=
    parses_readArguments.bind_answers fun _ => Answers.pure _
  have htypes (name : ObjectName) : Parses (do
      if ← atSymbol "(" then
        let arguments ← readArguments
        let inputs := arguments.filter (·.mode != some "OUT")
        pure { name, argumentTypes := some (inputs.map (·.dataType)) }
      else pure { name } : Reader FunctionSignature)
      (fun ts => NotAt "." ts ∧ NotAt "(" ts) fun sql ts s => (ts = [] ∧ { name } = s)
        ∨ ∃ inside arguments, IsGroup ts inside
          ∧ List.Forall₂ (IsArgument sql) (splitCommas inside) arguments
          ∧ { name, argumentTypes := some ((arguments.filter (·.mode != some "OUT")).map
            (·.dataType)) } = s := by
    rintro c s c' ⟨-, hat⟩
    by_cases hnot : NotAt "(" c.rest
    · simp only [Reader.bind_eq_ok, atSymbol_of_notAt hnot]
      constructor
      · rintro ⟨_, _, ⟨⟩, ⟨⟩⟩
        exact ⟨[], .inl ⟨rfl, rfl⟩, rfl⟩
      · rintro ⟨ts, ⟨rfl, rfl⟩ | ⟨inside, arguments, hgroup, -⟩, rfl⟩
        · exact ⟨false, _, rfl, rfl⟩
        · obtain ⟨hopening, -, -⟩ := hgroup
          have hclosed := notAt_cons.mp hnot
          rw [hopening] at hclosed
          cases hclosed
    · have hstep : (do
          if ← atSymbol "(" then
            let arguments ← readArguments
            let inputs := arguments.filter (·.mode != some "OUT")
            pure { name, argumentTypes := some (inputs.map (·.dataType)) }
          else pure { name } : Reader FunctionSignature) c = (do
            let arguments ← readArguments
            let inputs := arguments.filter (·.mode != some "OUT")
            pure { name, argumentTypes := some (inputs.map (·.dataType)) } :
              Reader FunctionSignature) c := by
        simp [Bind.bind, atSymbol_of_not_notAt hnot]
      rw [hstep, hgroup name c s c' trivial]
      constructor
      · rintro ⟨ts, ⟨arguments, ⟨inside, hgroup, hargs⟩, rfl⟩, rfl⟩
        exact ⟨ts, .inr ⟨inside, arguments, hgroup, hargs, rfl⟩, rfl⟩
      · rintro ⟨ts, ⟨rfl, -⟩ | ⟨inside, arguments, hgroup, hargs, rfl⟩, rfl⟩
        · exact absurd hat hnot
        · exact ⟨ts, ⟨arguments, ⟨inside, hgroup, hargs⟩, rfl⟩, rfl⟩
  refine (parses_objectName.bind htypes ?_).congr fun sql ts s => ?_
  · rintro name s sql ts rest (⟨rfl, -⟩ | ⟨inside, arguments, hgroup, -⟩) ⟨hpoint, -⟩
    · exact hpoint
    · obtain ⟨hopening, -, -⟩ := hgroup
      exact notAt_cons.mpr (Maintenance.reads_eq_false hopening (by decide))
  · constructor
    · rintro ⟨first, rest, name, rfl, hname, ⟨rfl, rfl⟩ | ⟨inside, arguments, hgroup, hargs, rfl⟩⟩
      · exact .bare (by simpa using hname)
      · exact .typed hname hgroup hargs
    · intro h
      cases h with
      | bare hname => exact ⟨_, [], _, by simp, hname, .inl ⟨rfl, rfl⟩⟩
      | typed hname hgroup hargs =>
        exact ⟨_, _, _, rfl, hname, .inr ⟨_, _, hgroup, hargs, rfl⟩⟩

theorem parses_roleName : Parses readRoleName (fun _ => True) fun _ ts name =>
    IsRoleName ts name := by
  rintro ⟨sql, statement, tokens⟩ name c' -
  cases tokens with
  | nil =>
    constructor
    · intro h
      cases h
    · rintro ⟨_, ⟨_, _⟩, hc⟩
      simp at hc
  | cons t ts =>
    have hwords (us : List Token) : startsWithWords ["GROUP"] (t :: us) = t.spells "GROUP" :=
      Bool.and_true _
    cases hgroup : t.spells "GROUP" with
    | true =>
      have hstep : readRoleName ⟨sql, statement, t :: ts⟩ = identifier ⟨sql, statement, ts⟩ := by
        simp [readRoleName, Bind.bind,
          accept_of_words (c := ⟨sql, statement, t :: ts⟩) ((hwords ts).trans hgroup)]
      rw [hstep, parses_identifier ⟨sql, statement, ts⟩ name c' trivial]
      constructor
      · rintro ⟨_, ⟨u, rfl, hu, rfl⟩, hc⟩
        cases hc
        have hopt : IsWords ["GROUP"] [t] := ⟨rfl, (hwords []).trans hgroup⟩
        exact ⟨[t] ++ [u], .mk (.present [u] hopt) hu, rfl⟩
      · rintro ⟨_, ⟨hopt, hu⟩, hc⟩
        cases hopt with
        | present _ hopt =>
          obtain ⟨u, rest, rfl, -, hrest⟩ := isWords_cons.mp hopt
          obtain rfl := isWords_nil.mp hrest
          cases hc
          exact ⟨[_], ⟨_, rfl, hu, rfl⟩, rfl⟩
        | absent hnone =>
          cases hc
          rw [hwords, hgroup] at hnone
          cases hnone
    | false =>
      have hstep : readRoleName ⟨sql, statement, t :: ts⟩
          = identifier ⟨sql, statement, t :: ts⟩ := by
        simp [readRoleName, Bind.bind,
          accept_of_not (c := ⟨sql, statement, t :: ts⟩) ((hwords ts).trans hgroup)]
      rw [hstep, parses_identifier ⟨sql, statement, t :: ts⟩ name c' trivial]
      constructor
      · rintro ⟨_, ⟨u, rfl, hu, rfl⟩, hc⟩
        cases hc
        exact ⟨[] ++ [t], .mk (.absent ((hwords []).trans hgroup)) hu, rfl⟩
      · rintro ⟨_, ⟨hopt, hu⟩, hc⟩
        cases hopt with
        | present _ hopt =>
          obtain ⟨u, rest, rfl, hspells, -⟩ := isWords_cons.mp hopt
          cases hc
          rw [hspells] at hgroup
          cases hgroup
        | absent _ =>
          cases hc
          exact ⟨[t], ⟨t, rfl, hu, rfl⟩, rfl⟩

theorem parses_plainName : Parses identifier (fun _ => True) fun _ ts name =>
    IsPlainName ts name := by
  refine parses_identifier.congr fun _ ts name => ?_
  constructor
  · rintro ⟨t, rfl, ht, rfl⟩
    exact .mk ht
  · rintro ⟨ht⟩
    exact ⟨_, rfl, ht, rfl⟩

theorem accepts_atEnd (cascade : Bool) : Accepts (do
    if ← atEnd then pure cascade else unexpected "trailing tokens" : Reader Bool)
    fun _ ts b => ts = [] ∧ cascade = b := by
  rintro ⟨sql, statement, tokens⟩ b
  cases tokens with
  | nil => simp [Bind.bind, atEnd, Cursor.atEnd, Pure.pure]
  | cons t ts => simp [Bind.bind, atEnd, Cursor.atEnd, unexpected, complain]

/-- Reads the end of a statement after `CASCADE`, or where that is not there. -/
def readEndingAfter : Bool → Reader Bool
  | true => do if ← atEnd then pure true else unexpected "trailing tokens"
  | false => accept ["RESTRICT"] >>= fun _ => do
      if ← atEnd then pure false else unexpected "trailing tokens"

/-- The end of a statement after `CASCADE`, or where that is not there. -/
def EndsAfter : Bool → TextLanguage Bool
  | true => fun _ ts b => ts = [] ∧ true = b
  | false => fun _ ts b => ∃ opt taken rest, ts = opt ++ rest
      ∧ Optional ["RESTRICT"] opt taken rest ∧ rest = [] ∧ false = b

theorem readCascade_eq : readCascade = accept ["CASCADE"] >>= readEndingAfter := by
  unfold readCascade
  refine congrArg (accept ["CASCADE"] >>= ·) (funext fun cascade => ?_)
  cases cascade with
  | true => rfl
  | false => rfl

theorem accepts_readEndingAfter (cascade : Bool) :
    Accepts (readEndingAfter cascade) (EndsAfter cascade) := by
  cases cascade with
  | true => exact accepts_atEnd true
  | false => exact Accepts.accept _ fun _ => accepts_atEnd false

theorem accepts_readCascade : Accepts readCascade fun _ ts cascade => IsEnding ts cascade := by
  rw [readCascade_eq]
  refine (Accepts.accept _ accepts_readEndingAfter).congr fun sql ts cascade => ?_
  constructor
  · rintro ⟨_, taken, _, rfl, hopt, hends⟩
    cases hopt with
    | present _ hwords =>
      obtain ⟨rfl, rfl⟩ := hends
      exact .cascade (by simpa using hwords)
    | absent _ =>
      obtain ⟨_, _, _, rfl, hopt, rfl, rfl⟩ := hends
      cases hopt with
      | present _ hwords => exact .restrict (by simpa using hwords)
      | absent _ => exact .none
  · intro h
    cases h with
    | none => exact ⟨[], false, [], rfl, .absent rfl, [], false, [], rfl, .absent rfl, rfl, rfl⟩
    | cascade hwords => exact ⟨ts, true, [], by simp, .present _ hwords, rfl, rfl⟩
    | restrict hwords =>
      refine ⟨[], false, ts, rfl, .absent ?_, ts, true, [], by simp, .present _ hwords, rfl, rfl⟩
      simpa using startsWithWords_of_isWords hwords (by decide) []

/-- A word does not read as a mark. -/
theorem reads_eq_false_of_spells {t : Token} {word symbol : String} (h : t.spells word = true)
    (hsymbol : wordShaped symbol = false) : t.reads symbol = false := by
  rw [← Bool.not_eq_true]
  intro hreads
  simp only [Token.spells, Token.isWord, Token.reads, Bool.and_eq_true, beq_iff_eq] at h hreads
  rw [hreads.2, hsymbol] at h
  exact Bool.false_ne_true h.1.2

theorem notAt_of_isWords {word symbol : String} {ts : List Token} (h : IsWords [word] ts)
    (hsymbol : wordShaped symbol = false) (rest : List Token) : NotAt symbol (ts ++ rest) := by
  obtain ⟨t, _, rfl, ht, -⟩ := isWords_cons.mp h
  exact notAt_cons.mpr (reads_eq_false_of_spells ht hsymbol)

theorem IsEnding.notAt {ts : List Token} {cascade : Bool} (h : IsEnding ts cascade)
    {symbol : String} (hsymbol : wordShaped symbol = false) : NotAt symbol ts := by
  cases h with
  | none => simp [NotAt]
  | cascade h => simpa using notAt_of_isWords h hsymbol []
  | restrict h => simpa using notAt_of_isWords h hsymbol []

theorem IsEnding.startsWithWords {ts : List Token} {cascade : Bool} (h : IsEnding ts cascade)
    {word : String} (hcascade : "CASCADE" ≠ word) (hrestrict : "RESTRICT" ≠ word)
    (words : List String) : startsWithWords (word :: words) ts = false := by
  cases h with
  | none => rfl
  | cascade h => simpa using startsWithWords_of_isWords h hcascade []
  | restrict h => simpa using startsWithWords_of_isWords h hrestrict []

theorem follow_of_comma {t : Token} (ts : List Token) (h : t.reads "," = true) :
    NotAt "." (t :: ts) ∧ NotAt "(" (t :: ts) :=
  ⟨notAt_cons.mpr (Maintenance.reads_eq_false h (by decide)),
    notAt_cons.mpr (Maintenance.reads_eq_false h (by decide))⟩

/-- A drop of several objects: perhaps only if they exist, the objects, and how it ends. -/
theorem accepts_dropList {α : Type} {item : Reader α} {follow : List Token → Prop}
    {P : TextLanguage α} (hitem : Parses item follow P)
    (hcomma : ∀ t ts, t.reads "," = true → follow (t :: ts))
    (hfollow : ∀ ts cascade, IsEnding ts cascade → follow ts)
    (g : Bool → List α → Bool → Statement) : Accepts (do
      let ifExists ← readIfExists
      let items ← commaSeparated item
      let cascade ← readCascade
      pure (g ifExists items cascade)) fun sql ts s => ∃ opt list ending ifExists items cascade,
        ts = opt ++ (list ++ ending) ∧ Optional ["IF", "EXISTS"] opt ifExists (list ++ ending)
        ∧ IsList (P sql) list items ∧ IsEnding ending cascade ∧ g ifExists items cascade = s := by
  have hread := Accepts.accept ["IF", "EXISTS"] fun ifExists =>
    (parses_commaSeparated hitem hcomma).bind_accepts
      (fun items => accepts_readCascade.bind_pure fun cascade => g ifExists items cascade) ?_
  · refine Accepts.congr hread fun sql ts s => ?_
    constructor
    · rintro ⟨opt, ifExists, _, rfl, hopt, list, ending, items, rfl, hlist, cascade, hending, hs⟩
      exact ⟨opt, list, ending, ifExists, items, cascade, rfl, hopt, hlist, hending, hs⟩
    · rintro ⟨opt, list, ending, ifExists, items, cascade, rfl, hopt, hlist, hending, hs⟩
      exact ⟨opt, ifExists, _, rfl, hopt, list, ending, items, rfl, hlist, cascade, hending, hs⟩
  · rintro _ _ _ ts ⟨cascade, hending, -⟩
    exact ⟨hfollow ts cascade hending, hending.notAt (by decide)⟩

theorem accepts_dropTable : Accepts DropTable.read fun sql => IsTargets sql .table := by
  refine (accepts_dropList parses_objectName (fun _ ts h => (follow_of_comma ts h).1)
    (fun _ _ h => h.notAt (by decide)) fun ifExists names cascade =>
      .dropTable { names, ifExists, cascade }).congr fun sql ts s => ?_
  constructor
  · rintro ⟨opt, list, ending, ifExists, names, cascade, rfl, hopt, hlist, hending, rfl⟩
    exact .table hopt hlist hending
  · intro h
    cases h with
    | table hopt hlist hending => exact ⟨_, _, _, _, _, _, rfl, hopt, hlist, hending, rfl⟩

theorem accepts_dropIndex : Accepts DropIndex.read fun sql => IsTargets sql .index := by
  have hlist := accepts_dropList parses_objectName (fun _ ts h => (follow_of_comma ts h).1)
    (fun _ _ h => h.notAt (by decide)) fun ifExists names _ => .dropIndex { names, ifExists }
  refine (Accepts.accept ["CONCURRENTLY"] fun _ => hlist).congr fun sql ts s => ?_
  constructor
  · rintro ⟨slow, _, _, rfl, hslow, opt, list, ending, ifExists, names, cascade, rfl, hopt, hlist,
      hending, rfl⟩
    exact .index hslow hopt hlist hending
  · intro h
    cases h with
    | index hslow hopt hlist hending =>
      exact ⟨_, _, _, rfl, hslow, _, _, _, _, _, _, rfl, hopt, hlist, hending, rfl⟩

theorem accepts_dropFunction : Accepts DropFunction.read fun sql => IsTargets sql .function := by
  refine (accepts_dropList parses_signature (fun _ ts => follow_of_comma ts)
    (fun _ _ h => ⟨h.notAt (by decide), h.notAt (by decide)⟩) fun ifExists targets cascade =>
      .dropFunction { targets, ifExists, cascade }).congr fun sql ts s => ?_
  constructor
  · rintro ⟨opt, list, ending, ifExists, targets, cascade, rfl, hopt, hlist, hending, rfl⟩
    exact .function hopt hlist hending
  · intro h
    cases h with
    | function hopt hlist hending => exact ⟨_, _, _, _, _, _, rfl, hopt, hlist, hending, rfl⟩

theorem accepts_dropSchema : Accepts DropSchema.read fun sql => IsTargets sql .schema := by
  refine (accepts_dropList parses_plainName (fun _ _ _ => trivial) (fun _ _ _ => trivial)
    fun ifExists names cascade => .dropSchema { names, ifExists, cascade }).congr
      fun sql ts s => ?_
  constructor
  · rintro ⟨opt, list, ending, ifExists, names, cascade, rfl, hopt, hlist, hending, rfl⟩
    exact .schema hopt hlist hending
  · intro h
    cases h with
    | schema hopt hlist hending => exact ⟨_, _, _, _, _, _, rfl, hopt, hlist, hending, rfl⟩

theorem accepts_dropPolicy : Accepts DropPolicy.read fun sql => IsTargets sql .policy := by
  have hread := Accepts.accept ["IF", "EXISTS"] fun ifExists =>
    parses_plainName.bind_accepts (fun name => (parses_expect ["ON"]).bind_accepts (fun _ =>
      parses_objectName.bind_accepts (fun table => accepts_readCascade.bind_pure fun _ =>
        Statement.dropPolicy { name, table, ifExists }) ?_) fun _ _ _ _ _ => trivial)
      fun _ _ _ _ _ => trivial
  · refine Accepts.congr hread fun sql ts s => ?_
    constructor
    · rintro ⟨opt, ifExists, _, rfl, hopt, _, _, _, rfl, ⟨ht⟩, on, _, _, rfl, hon, ts, ending, table,
        rfl, htable, cascade, hending, rfl⟩
      rw [List.singleton_append] at hopt ⊢
      exact .policy hopt ht hon htable hending
    · intro h
      cases h with
      | policy hopt ht hon htable hending =>
        exact ⟨_, _, _, rfl, hopt, [_], _, _, rfl, .mk ht, _, _, (), rfl, hon, _, _, _, rfl, htable,
          _, hending, rfl⟩
  · rintro _ _ _ _ ⟨_, hending, -⟩
    exact hending.notAt (by decide)

theorem accepts_dropRole (word : RoleWord) :
    Accepts DropRole.read fun sql => IsTargets sql (.role word) := by
  have hroles (ifExists : Bool) : Accepts (do
      let names ← readRoleNames
      pure (Statement.dropRole { names, ifExists })) fun _ ts s => ∃ list ignored names,
        ts = list ++ ignored ∧ IsList IsRoleName list names ∧ NotAt "," ignored
        ∧ Statement.dropRole { names, ifExists } = s := by
    have hlist := parses_commaSeparated parses_roleName fun _ _ _ => trivial
    intro c s
    simp only [Reader.bind_eq_ok, Reader.pure_eq_ok]
    constructor
    · rintro ⟨_, names, c₁, hnames, rfl, rfl⟩
      have hcomma := notAt_of_commaSeparated parses_roleName hnames
      obtain ⟨list, hlist, rfl⟩ := (hlist c names c₁ ⟨trivial, hcomma⟩).mp hnames
      exact ⟨list, c₁.rest, names, rfl, hlist, hcomma, rfl⟩
    · rintro ⟨list, ignored, names, hsplit, hnames, hcomma, rfl⟩
      have hread := (hlist c names { c with rest := ignored } ⟨trivial, hcomma⟩).mpr
        ⟨list, hnames, by rw [← hsplit]⟩
      exact ⟨_, names, _, hread, rfl, rfl⟩
  refine (Accepts.accept ["IF", "EXISTS"] hroles).congr fun sql ts s => ?_
  constructor
  · rintro ⟨opt, ifExists, _, rfl, hopt, list, ignored, names, rfl, hnames, hcomma, rfl⟩
    exact .role hopt hnames hcomma
  · intro h
    cases h with
    | role hopt hnames hcomma => exact ⟨_, _, _, rfl, hopt, _, _, _, rfl, hnames, hcomma, rfl⟩

/-- Reads the table of a trigger if it is given. -/
def readOnTable : Reader (Option ObjectName) := do
  if ← accept ["ON"] then
    let table ← ObjectName.read
    pure (some table)
  else pure none

theorem parses_onTable : Parses readOnTable
    (fun ts => NotAt "." ts ∧ startsWithWords ["ON"] ts = false) fun _ => IsOnTable := by
  rintro ⟨sql, statement, tokens⟩ table c' ⟨hpoint, hnone⟩
  cases h : startsWithWords ["ON"] tokens with
  | true =>
    obtain ⟨on, hon, hsplit⟩ := exists_of_startsWithWords h
    have hstep : readOnTable ⟨sql, statement, tokens⟩
        = (ObjectName.read >>= fun table => pure (some table))
          ⟨sql, statement, tokens.drop 1⟩ := by
      simp [readOnTable, Bind.bind, accept_of_words (c := ⟨sql, statement, tokens⟩) h]
    rw [hstep, (parses_objectName.bind_answers fun table => Answers.pure (some table)) _ _ _ hpoint]
    constructor
    · rintro ⟨ts, ⟨table, htable, rfl⟩, hc⟩
      simp only [Cursor.mk.injEq] at hc
      obtain ⟨rfl, rfl, hdrop⟩ := hc
      refine ⟨on ++ ts, .some hon htable, ?_⟩
      rw [hsplit, List.length_singleton, hdrop, List.append_assoc]
    · rintro ⟨_, htable, hc⟩
      cases hc
      cases htable with
      | none =>
        rw [List.nil_append, hnone] at h
        cases h
      | some hon' htable =>
        refine ⟨_, ⟨_, htable, rfl⟩, ?_⟩
        rw [List.append_assoc, List.drop_left' (show _ = 1 from hon'.1)]
  | false =>
    have hstep : readOnTable ⟨sql, statement, tokens⟩ = .ok (none, ⟨sql, statement, tokens⟩) := by
      simp [readOnTable, Bind.bind, accept_of_not (c := ⟨sql, statement, tokens⟩) h, Pure.pure]
    rw [hstep]
    constructor
    · intro hread
      cases hread
      exact ⟨[], .none, rfl⟩
    · rintro ⟨_, htable, hc⟩
      cases hc
      cases htable with
      | none => rfl
      | some hon _ =>
        rw [List.append_assoc, startsWithWords_append hon.1, hon.2] at h
        cases h

theorem accepts_dropTrigger : Accepts DropTrigger.read fun sql => IsTargets sql .trigger := by
  have hread : DropTrigger.read = readIfExists >>= fun ifExists => identifier >>= fun name =>
      readOnTable >>= fun table => readCascade >>= fun _ =>
        pure (.dropTrigger { name, table, ifExists }) := by
    unfold DropTrigger.read readOnTable
    refine congrArg (readIfExists >>= ·) (funext fun ifExists =>
      congrArg (identifier >>= ·) (funext fun name => ?_))
    rw [bind_assoc]
    refine congrArg (accept ["ON"] >>= ·) (funext fun on => ?_)
    cases on with
    | true =>
      show _ = (ObjectName.read >>= fun table => pure (some table)) >>= _
      rw [bind_assoc]
      exact map_bind ..
    | false => rfl
  rw [hread]
  have htargets := Accepts.accept ["IF", "EXISTS"] fun ifExists =>
    parses_plainName.bind_accepts (fun name => parses_onTable.bind_accepts (fun table =>
      accepts_readCascade.bind_pure fun _ => Statement.dropTrigger { name, table, ifExists }) ?_)
      fun _ _ _ _ _ => trivial
  · refine Accepts.congr htargets fun sql ts s => ?_
    constructor
    · rintro ⟨opt, ifExists, _, rfl, hopt, _, _, _, rfl, ⟨ht⟩, on, ending, table, rfl, hon, cascade,
        hending, rfl⟩
      rw [List.singleton_append] at hopt ⊢
      exact .trigger hopt ht hon hending
    · intro h
      cases h with
      | trigger hopt ht hon hending =>
        exact ⟨_, _, _, rfl, hopt, [_], _, _, rfl, .mk ht, _, _, _, rfl, hon, _, hending, rfl⟩
  · rintro _ _ _ ts ⟨_, hending, -⟩
    exact ⟨hending.notAt (by decide), hending.startsWithWords (by decide) (by decide) []⟩

/-! ## 4. Drops -/

/-- The reader of what is dropped of a kind. -/
def DropKind.reader : DropKind → Reader Statement
  | table => DropTable.read
  | index => DropIndex.read
  | function => DropFunction.read
  | trigger => DropTrigger.read
  | policy => DropPolicy.read
  | role _ => DropRole.read
  | schema => DropSchema.read

theorem DropKind.accepts_reader (kind : DropKind) :
    Accepts kind.reader fun sql => IsTargets sql kind := by
  cases kind with
  | table => exact accepts_dropTable
  | index => exact accepts_dropIndex
  | function => exact accepts_dropFunction
  | trigger => exact accepts_dropTrigger
  | policy => exact accepts_dropPolicy
  | role word => exact accepts_dropRole word
  | schema => exact accepts_dropSchema

/-- The words lead to the reader of their kind. -/
theorem Statement.read_of_startsDrop {c : Cursor} {kind : DropKind} (h : StartsDrop kind c.rest) :
    Statement.read c = kind.reader { c with rest := c.rest.drop 2 } := by
  obtain ⟨sql, statement, tokens⟩ := c
  obtain ⟨hwords, hmapping⟩ := h
  obtain ⟨words, hwords, hsplit⟩ := exists_of_startsWithWords hwords
  obtain ⟨drop, _, rfl, hdrop, hrest⟩ := isWords_cons.mp hwords
  obtain ⟨t, _, rfl, ht, hnil⟩ := isWords_cons.mp hrest
  obtain rfl := isWords_nil.mp hnil
  have hdrop' := spells_eq_beq hdrop
  have ht' := spells_eq_beq ht
  simp only [List.length_cons, List.length_nil, List.cons_append, List.nil_append] at hsplit
  generalize List.drop (0 + 1 + 1) tokens = rest at hsplit
  subst hsplit
  have hread : Statement.read ⟨sql, statement, drop :: t :: rest⟩
      = readDrop ⟨sql, statement, t :: rest⟩ := by
    simp [Statement.read, Bind.bind, accept_word, hdrop']
  have hlater (hkind : kind.word ∉ ["TABLE", "INDEX", "FUNCTION", "TRIGGER", "POLICY"]) :
      readDrop ⟨sql, statement, t :: rest⟩ = (do
        if ← acceptAny [["ROLE"], ["USER"], ["GROUP"]] then DropRole.read
        else if ← accept ["SCHEMA"] then DropSchema.read
        else Statement.readOther) ⟨sql, statement, t :: rest⟩ := by
    have hnone : startsWithWords ["USER", "MAPPING"] (t :: rest) = false := by
      simpa [startsWithWords_cons, hdrop] using hmapping
    simp only [List.mem_cons, List.not_mem_nil, or_false, not_or] at hkind
    obtain ⟨htable, hindex, hfunction, htrigger, hpolicy⟩ := hkind
    simp [readDrop, Bind.bind, accept_word, ht', atWords, hnone, htable, hindex, hfunction,
      htrigger, hpolicy]
  rw [hread]
  cases kind with
  | table => simp [readDrop, Bind.bind, accept_word, ht', DropKind.word, DropKind.reader]
  | index => simp [readDrop, Bind.bind, accept_word, ht', DropKind.word, DropKind.reader]
  | function => simp [readDrop, Bind.bind, accept_word, ht', DropKind.word, DropKind.reader]
  | trigger => simp [readDrop, Bind.bind, accept_word, ht', DropKind.word, DropKind.reader]
  | policy => simp [readDrop, Bind.bind, accept_word, ht', DropKind.word, DropKind.reader]
  | role word =>
    rw [hlater (by cases word <;> decide)]
    cases word <;> simp [acceptAny_cons_word, Bind.bind, ht', DropKind.word, DropKind.reader]
  | schema =>
    rw [hlater (by decide)]
    simp [acceptAny_cons_word, acceptAny_nil, Bind.bind, accept_word, ht', DropKind.word,
      DropKind.reader]

/-- A run that starts with the words for a drop is read as a statement just if it is a drop, and as
which. -/
theorem isDrop_iff (sql : List Char) (tokens : List Token) (s : Statement) :
    IsDrop sql tokens s
      ↔ (∃ kind, StartsDrop kind tokens) ∧ Statement.ofTokens sql tokens = .ok s := by
  have hread {kind : DropKind} (h : StartsDrop kind tokens) :
      Statement.ofTokens sql tokens = .ok s ↔ IsTargets sql kind (tokens.drop 2) s := by
    have haccepts : (∃ c', kind.reader ⟨sql, tokens, tokens.drop 2⟩ = .ok (s, c'))
        ↔ IsTargets sql kind (tokens.drop 2) s :=
      kind.accepts_reader ⟨sql, tokens, tokens.drop 2⟩ s
    have hstep : Statement.read (Cursor.start sql tokens)
        = kind.reader ⟨sql, tokens, tokens.drop 2⟩ := Statement.read_of_startsDrop h
    rw [← haccepts, Statement.ofTokens, Reader.run, hstep]
    cases kind.reader ⟨sql, tokens, tokens.drop 2⟩ with
    | error e => simp [Except.map]
    | ok result => simp [Except.map, Prod.ext_iff]
  constructor
  · rintro ⟨hwords, hstart, htargets⟩
    refine ⟨⟨_, hstart⟩, (hread hstart).mpr ?_⟩
    rwa [List.drop_left' (show _ = 2 from hwords.1)]
  · rintro ⟨⟨kind, hstart⟩, hs⟩
    obtain ⟨words, hwords, hsplit⟩ := exists_of_startsWithWords hstart.words
    rw [hsplit] at hstart ⊢
    exact .mk hwords hstart ((hread (hsplit ▸ hstart)).mp hs)

/-- A second role is dropped from the statement if no comma parts it from the first, where a second
table is refused. -/
theorem role_without_comma_is_ignored :
    let words (kind : String) : List Token :=
      [⟨.word, "DROP", 0, 3⟩, ⟨.word, kind, 5, 8⟩, ⟨.word, "a", 10, 10⟩, ⟨.word, "b", 12, 12⟩]
    tokenize "DROP ROLE a b".toList = .ok (words "ROLE")
      ∧ Statement.ofTokens "DROP ROLE a b".toList (words "ROLE") = .ok (.dropRole { names := ["a"] })
      ∧ (Statement.ofTokens "DROP TABLE a b".toList (words "TABLE")).isOk = false := by
  refine ⟨by decide +kernel, by rfl, by decide +kernel⟩

end SchemaCatalog
