import Mathlib.Logic.Relation
import Brace.Proofs.Account.Tokenize

namespace Brace

/-!
# Accounts that lead to others

`Reaches` follows the rules for some steps, not always to the end.  What one account reaches does
not depend on what comes later in the line, and hardly on what came before: only a word
character just before it could bar a keyword.  So the results for two texts with whitespace
between them are the results for each text alone.
-/

namespace Account

/-- One account leads to another by some rules in a row. -/
def Reaches (inner : String → Except Halt (List Token)) (dialect : Dialect) :
    Account → Account → Prop :=
  Relation.ReflTransGen (Moves inner dialect)

/-- The account of a line that goes on with more characters. -/
def extended (more : List Char) (account : Account) : Account :=
  { account with rest := account.rest ++ more }

/-- The account of a line that begins with other fragments. -/
def following (before : List Fragment) (account : Account) : Account :=
  { account with fragments := before ++ account.fragments }

section

variable {inner : String → Except Halt (List Token)} {dialect : Dialect}

/-- The result of an account is the result of every account that it reaches. -/
theorem Runs.of_reaches
    {account after : Account}
    {result : Except Fault (List Fragment)}
    (reaches : Reaches inner dialect account after)
    (runs : Runs inner dialect after result) :
    Runs inner dialect account result := by
  induction reaches using Relation.ReflTransGen.head_induction_on with
  | refl => exact runs
  | head moves _ inductionHypothesis => exact .moved moves inductionHypothesis

/-! ## Later characters -/

/--
The rules lead on in the same way when the line goes on with a character that no backslash
takes.
-/
theorem Moves.extended
    {account after : Account}
    {more : List Char}
    (free : more.head?.bind Literal.decodeEscape = none)
    (moves : Moves inner dialect account after) :
    Moves inner dialect (account.extended more) (after.extended more) := by
  cases moves with
  | blank space => exact .blank space
  | unknown space refused => exact .unknown space refused
  | grown opens waits => exact .grown opens waits
  | token member decided => exact .token member decided
  | quote quote => exact .quote quote
  | escaped mark => exact .escaped mark
  | settled nonempty stops decided => exact .settled nonempty stops decided
  | abandoned nonempty stops undecided => exact .abandoned nonempty stops undecided
  | escape decodes => exact .escape decodes
  | @stray fragments delimiter parts rest undecoded =>
      refine .stray ?_
      cases rest with
      | nil => exact free
      | cons c rest => exact undecoded
  | closed => exact .closed
  | opened interpolates => exact .opened interpolates
  | verbatim noBackslash noDelimiter noMark => exact .verbatim noBackslash noDelimiter noMark
  | gathered noMark => exact .gathered noMark
  | tokenized reads => exact .tokenized reads

/-- Whitespace decides a spelling in the same way as the end of the line. -/
theorem reaches_blank
    {fragments : List Fragment}
    {word spelled rest : List Char}
    {c : Char}
    (space : Unicode.isSpace c = true) :
    Reaches inner dialect
      ⟨fragments, .plain word spelled, c :: rest⟩
      ⟨fragments ++ ending word spelled ++ [.blank c], .plain [] [], rest⟩ := by
  cases spelled with
  | nil =>
      rw [ending_nil]
      exact .single (.blank space)
  | cons first spelled =>
      have stops : Symbol.extending (first :: spelled ++ [c]) = [] :=
        Symbol.extending_eq_nil_of_isSpace space
      -- Whitespace is no word character, so it lets a keyword end as the end of the line does.
      have same :
          Symbol.verdict (first :: spelled) (some c) = Symbol.verdict (first :: spelled) none :=
        Symbol.verdict_congr (isWordChar_of_isSpace space)
      rw [ending, ← same]
      cases decided : Symbol.verdict (first :: spelled) (some c) with
      | some kind =>
          have settles :
              Moves inner dialect _
                ⟨fragments ++ Fragment.wordOf word ++ [.symbol (first :: spelled) kind],
                  .plain [] [], c :: rest⟩ :=
            .settled (List.cons_ne_nil _ _) stops decided
          refine (Relation.ReflTransGen.single settles).tail ?_
          have blank :=
            @Moves.blank inner dialect
              (fragments ++ Fragment.wordOf word ++ [.symbol (first :: spelled) kind])
              [] c rest space
          simp only [Fragment.wordOf_nil, List.append_nil, List.append_assoc] at blank ⊢
          exact blank
      | none =>
          have abandons :
              Moves inner dialect _
                ⟨fragments, .plain (word ++ first :: spelled) [], c :: rest⟩ :=
            .abandoned (List.cons_ne_nil _ _) stops decided
          exact (Relation.ReflTransGen.single abandons).tail (.blank space)

/-- A line that falls into fragments does so too when whitespace comes after it. -/
theorem Runs.reaches_blank
    {account : Account}
    {fragments : List Fragment}
    {rest : List Char}
    {c : Char}
    (space : Unicode.isSpace c = true)
    (runs : Runs inner dialect account (.ok fragments)) :
    Reaches inner dialect
      (account.extended (c :: rest))
      ⟨fragments ++ [.blank c], .plain [] [], rest⟩ := by
  have free : (c :: rest).head?.bind Literal.decodeEscape = none :=
    Literal.decodeEscape_of_isSpace space
  generalize shape : Except.ok fragments = result at runs
  induction runs with
  | ended =>
      cases shape
      exact Account.reaches_blank space
  | failed fails => cases shape
  | moved moves runs inductionHypothesis =>
      exact (inductionHypothesis shape).head (moves.extended free)

/-! ## Earlier fragments -/

/--
Where no word character ends what came before, it does not matter for the symbols that may
begin.
-/
theorem openings_following
    {before fragments : List Fragment}
    {word : List Char}
    {c : Char}
    (apart : (lastOf before []).any isWordChar = false) :
    Matcher.openings c (lastOf (before ++ fragments) word) =
      Matcher.openings c (lastOf fragments word) := by
  rw [Symbol.openings_eq, Symbol.openings_eq]
  have same :
      (lastOf (before ++ fragments) word).any isWordChar =
        (lastOf fragments word).any isWordChar := by
    rw [lastOf, List.append_nil] at apart
    rw [lastOf, lastOf, List.flatMap_append, List.append_assoc, List.getLast?_append]
    cases (fragments.flatMap Fragment.written ++ word).getLast? with
    | none => exact apart
    | some last => rfl
  rw [same]

/-- The rules lead on in the same way after other fragments. -/
theorem Moves.following
    {account after : Account}
    {before : List Fragment}
    (apart : (lastOf before []).any isWordChar = false)
    (moves : Moves inner dialect account after) :
    Moves inner dialect (account.following before) (after.following before) := by
  cases moves with
  | blank space =>
      simp only [Account.following, ← List.append_assoc]
      exact .blank space
  | unknown space refused => exact .unknown space (by rwa [openings_following apart])
  | grown opens waits =>
      refine .grown ?_ waits
      rw [openings_following apart]
      exact opens
  | token member decided =>
      simp only [Account.following, ← List.append_assoc]
      exact .token member decided
  | quote quote =>
      simp only [Account.following, ← List.append_assoc]
      exact .quote quote
  | escaped mark => exact .escaped mark
  | settled nonempty stops decided =>
      simp only [Account.following, ← List.append_assoc]
      exact .settled nonempty stops decided
  | abandoned nonempty stops undecided => exact .abandoned nonempty stops undecided
  | escape decodes => exact .escape decodes
  | stray undecoded => exact .stray undecoded
  | closed =>
      simp only [Account.following, ← List.append_assoc]
      exact .closed
  | opened interpolates => exact .opened interpolates
  | verbatim noBackslash noDelimiter noMark => exact .verbatim noBackslash noDelimiter noMark
  | gathered noMark => exact .gathered noMark
  | tokenized reads => exact .tokenized reads

/-- After other fragments a fault lies further to the right. -/
theorem Fails.following
    {account : Account}
    {fault : Fault}
    {before : List Fragment}
    (fails : Fails inner dialect account fault) :
    Fails inner dialect (account.following before) (fault.moved (Fragment.extent before)) := by
  have extents : ∀ fragments,
      Fragment.extent (before ++ fragments) =
        Fragment.extent fragments + Fragment.extent before := by
    intro fragments
    rw [Fragment.extent_append, Nat.add_comm]
  have stops : ∀ fragments parts,
      bodyStop (before ++ fragments) parts = bodyStop fragments parts + Fragment.extent before := by
    intro fragments parts
    simp only [bodyStop, extents]
    omega
  cases fails with
  | @outside fragments word rest =>
      have outside := @Fails.outside inner dialect (before ++ fragments) word rest
      rwa [extents, Nat.add_right_comm] at outside
  | @forbidden fragments delimiter parts rest plain =>
      have forbidden := @Fails.forbidden inner dialect (before ++ fragments) _ parts rest plain
      rwa [stops] at forbidden
  | @inside fragments delimiter parts raw fault rest faulty =>
      have inside :=
        @Fails.inside inner dialect (before ++ fragments) delimiter parts _ _ rest faulty
      rw [stops, Nat.add_right_comm] at inside
      simp only [Fault.moved, Nat.add_assoc] at inside ⊢
      exact inside
  | @unclosed fragments delimiter parts =>
      have unclosed := @Fails.unclosed inner dialect (before ++ fragments) delimiter parts
      rwa [extents] at unclosed
  | @unclosedSegment fragments delimiter parts raw =>
      have unclosed :=
        @Fails.unclosedSegment inner dialect (before ++ fragments) delimiter parts raw
      rwa [stops] at unclosed

/-- The result that an account has after other fragments. -/
def resultAfter (before : List Fragment) :
    Except Fault (List Fragment) → Except Fault (List Fragment)
  | .ok fragments => .ok (before ++ fragments)
  | .error fault => .error (fault.moved (Fragment.extent before))

/-- After other fragments the rules lead to the same result, further to the right. -/
theorem Runs.following
    {account : Account}
    {result : Except Fault (List Fragment)}
    {before : List Fragment}
    (apart : (lastOf before []).any isWordChar = false)
    (runs : Runs inner dialect account result) :
    Runs inner dialect (account.following before) (resultAfter before result) := by
  induction runs with
  | ended =>
      rw [resultAfter, ← List.append_assoc]
      exact .ended
  | failed fails => exact .failed fails.following
  | moved moves runs inductionHypothesis => exact .moved (moves.following apart) inductionHypothesis

end

end Account

end Brace
