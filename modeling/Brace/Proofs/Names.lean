import Brace.Proofs.Words

namespace Brace

/-!
# Names stay whole

No stretch of word characters goes over from one fragment of a line into the next one.  A keyword is
waited on only where no name goes on before it, and is recognised only where none goes on after it;
all other tokens begin and end with other characters.  So every stretch of word characters of a
line lies in one of its fragments.
-/

/-- No stretch of word characters goes over from one fragment into the next one. -/
def Fragment.Parted (fragments : List Fragment) : Prop :=
  ∀ before after,
    fragments = before ++ after →
      joined (before.flatMap written).getLast? (after.flatMap written).head? = false

namespace Fragment

theorem parted_nil : Parted [] := by
  intro before after shape
  obtain ⟨rfl, rfl⟩ := List.append_eq_nil_iff.mp shape.symm
  rfl

/-- One more fragment leaves names whole if no name goes over into it. -/
theorem Parted.concat
    {fragments : List Fragment}
    {fragment : Fragment}
    (parted : Parted fragments)
    (apart : joined (fragments.flatMap written).getLast? fragment.written.head? = false) :
    Parted (fragments ++ [fragment]) := by
  intro before after shape
  rcases List.eq_nil_or_concat after with rfl | ⟨others, last, rfl⟩
  · simp [joined]
  · rw [List.concat_eq_append, ← List.append_assoc] at shape
    obtain ⟨rfl, same⟩ := List.append_inj' shape rfl
    cases same
    have known := parted before others rfl
    rw [List.concat_eq_append, List.flatMap_append, List.flatMap_singleton]
    cases text : others.flatMap written with
    | nil => simpa [text] using apart
    | cons c text => simpa [text] using known

theorem Parted.concat_wordOf
    {fragments : List Fragment}
    {word : List Char}
    (parted : Parted fragments)
    (apart : joined (fragments.flatMap written).getLast? word.head? = false) :
    Parted (fragments ++ wordOf word) := by
  unfold wordOf
  split
  · rwa [List.append_nil]
  · exact parted.concat apart

theorem Parted.tail
    {first : Fragment}
    {fragments : List Fragment}
    (parted : Parted (first :: fragments)) :
    Parted fragments := by
  rintro earlier later rfl
  have known := parted (first :: earlier) later rfl
  rw [List.flatMap_cons] at known
  cases text : earlier.flatMap written using List.reverseRecOn with
  | nil => rfl
  | append_singleton text c => simpa [text] using known

/-- A stretch of word characters lies in one fragment. -/
theorem Parted.exists_fragment
    {fragments : List Fragment}
    {before run after : List Char}
    (parted : Parted fragments)
    (nonempty : run ≠ [])
    (inside : ∀ c ∈ run, isWordChar c = true)
    (line : fragments.flatMap written = before ++ run ++ after) :
    ∃ earlier fragment later front back,
      fragments = earlier ++ fragment :: later ∧
        fragment.written = front ++ run ++ back ∧
        before = earlier.flatMap written ++ front ∧
        after = back ++ later.flatMap written := by
  induction fragments generalizing before with
  | nil => simp [nonempty] at line
  | cons first fragments inductionHypothesis =>
      have skip :
          ∀ skipped,
            before = first.written ++ skipped →
              fragments.flatMap written = skipped ++ run ++ after →
                ∃ earlier fragment later front back,
                  first :: fragments = earlier ++ fragment :: later ∧
                    fragment.written = front ++ run ++ back ∧
                    before = earlier.flatMap written ++ front ∧
                    after = back ++ later.flatMap written := by
        rintro skipped rfl lineLater
        obtain ⟨earlier, fragment, later, front, back, rfl, text, rfl, rfl⟩ :=
          inductionHypothesis parted.tail lineLater
        exact ⟨first :: earlier, fragment, later, front, back, rfl, text, by simp, rfl⟩
      rw [List.flatMap_cons, List.append_assoc] at line
      rcases List.append_eq_append_iff.mp line with
        ⟨skipped, same, lineLater⟩ | ⟨taken, shape, line⟩
      · exact skip skipped same (by rwa [List.append_assoc])
      · rcases List.append_eq_append_iff.mp line with ⟨back, rfl, rfl⟩ | ⟨beyond, rfl, lineLater⟩
        · exact
            ⟨[], first, fragments, before, back, rfl, by rw [shape, List.append_assoc], rfl, rfl⟩
        · rcases List.eq_nil_or_concat taken with rfl | ⟨others, last, rfl⟩
          · exact skip [] (by simpa using shape.symm) (by simpa using lineLater)
          · cases beyond with
            | nil =>
                refine ⟨[], first, fragments, before, [], rfl, ?_, rfl, lineLater.symm⟩
                rw [shape, List.append_nil, List.append_nil]
            | cons next beyond =>
                -- Here the stretch would go over from the first fragment into the next one.
                have known := parted [first] fragments rfl
                have goesOn : isWordChar last = true ∧ isWordChar next = true :=
                  ⟨inside last (by simp), inside next (by simp)⟩
                simp [shape, lineLater, joined, goesOn] at known

end Fragment

namespace Account

variable {inner : String → Except Halt (List Token)} {dialect : Dialect}

/-- What holds of the mode of an account after fragments that leave names whole. -/
def Mode.Parted (fragments : List Fragment) (rest : List Char) : Mode → Prop
  | plain word spelled =>
      joined (fragments.flatMap Fragment.written).getLast? (word ++ spelled ++ rest).head? = false ∧
        (spelled ≠ [] → joined word.getLast? spelled.head? = false)
  | quoted delimiter _ _ => isQuote delimiter = true

/-- What holds of every account that a scan can reach: names stay whole. -/
structure Parted (account : Account) : Prop where
  fragments : Fragment.Parted account.fragments
  mode : account.mode.Parted account.fragments account.rest

theorem parted_ofText
    (text : List Char) :
    (ofText text).Parted where
  fragments := Fragment.parted_nil
  mode := ⟨rfl, fun spelled => absurd rfl spelled⟩

variable {fragments : List Fragment} {fragment : Fragment} {word spelled taken rest : List Char}

/-- No name goes over into a word. -/
theorem Parted.concat_wordOf
    (parted : Parted ⟨fragments, .plain word spelled, rest⟩) :
    Fragment.Parted (fragments ++ Fragment.wordOf word) := by
  refine parted.fragments.concat_wordOf ?_
  cases word with
  | nil => exact Bool.and_false _
  | cons c word => exact parted.mode.1

/-- A word and a fragment after it leave names whole. -/
theorem Parted.flush
    (parted : Parted ⟨fragments, .plain word spelled, taken ++ rest⟩)
    (written : fragment.written = spelled ++ taken)
    (nonempty : spelled ++ taken ≠ [])
    (starts : spelled = [] → joined word.getLast? taken.head? = false) :
    Fragment.Parted (fragments ++ Fragment.wordOf word ++ [fragment]) := by
  have words := parted.concat_wordOf
  obtain ⟨before, within⟩ := parted.mode
  have next : (spelled ++ taken ++ rest).head? = fragment.written.head? := by
    rw [written, List.head?_append_of_ne_nil _ nonempty]
  rw [List.append_assoc, ← List.append_assoc spelled] at before
  cases word with
  | nil =>
      rw [List.nil_append, next] at before
      exact words.concat (by simpa using before)
  | cons c word =>
      refine words.concat ?_
      rw [List.flatMap_append, Fragment.written_wordOf, written,
        List.getLast?_append_of_ne_nil _ (List.cons_ne_nil c word)]
      cases spelled with
      | nil => exact starts rfl
      | cons d spelled => exact within (List.cons_ne_nil d spelled)

/-- After a word and a fragment, a name can only begin. -/
theorem Parted.flushed
    (parted : Parted ⟨fragments, .plain word spelled, taken ++ rest⟩)
    (written : fragment.written = spelled ++ taken)
    (nonempty : spelled ++ taken ≠ [])
    (starts : spelled = [] → joined word.getLast? taken.head? = false)
    (stops : joined fragment.written.getLast? rest.head? = false) :
    Parted ⟨fragments ++ Fragment.wordOf word ++ [fragment], .plain [] [], rest⟩ where
  fragments := parted.flush written nonempty starts
  mode := by
    refine ⟨?_, fun spelled => absurd rfl spelled⟩
    rw [List.flatMap_append, List.flatMap_singleton,
      List.getLast?_append_of_ne_nil _ (by rwa [written])]
    exact stops

/-- A name goes over into the word of an account, but not from the fragments before it. -/
theorem Parted.lengthened
    {longer begun left : List Char}
    (parted : Parted ⟨fragments, .plain word spelled, rest⟩)
    (same : longer ++ begun ++ left = word ++ spelled ++ rest)
    (within : begun ≠ [] → joined longer.getLast? begun.head? = false) :
    Parted ⟨fragments, .plain longer begun, left⟩ where
  fragments := parted.fragments
  mode := ⟨same ▸ parted.mode.1, within⟩

/-- Reading on leaves names whole. -/
theorem Parted.of_moves
    {account after : Account}
    (parted : account.Parted)
    (moves : Moves inner dialect account after) :
    after.Parted := by
  cases moves with
  | @blank fragments word c rest space =>
      have other := isWordChar_of_isSpace space
      exact
        @flushed fragments (.blank c) word [] [c] rest parted rfl (List.cons_ne_nil c [])
          (fun _ => joined_some_right other _) (joined_some_left other _)
  | unknown space refused => exact parted.lengthened (by simp) fun spelled => absurd rfl spelled
  | @grown fragments word spelled c rest opens waits =>
      refine parted.lengthened (by simp) fun _ => ?_
      cases spelled with
      | nil =>
          -- What may open here does not go on with the word.
          cases last : word.getLast? with
          | none => rfl
          | some letter =>
              have apart := Symbol.joined_of_openings (opens rfl)
              rwa [lastOf, List.getLast?_append, last] at apart
      | cons d spelled => exact parted.mode.2 (List.cons_ne_nil d spelled)
  | @token fragments word spelled c kind rest member decided =>
      have other := isWordChar_of_completed member decided
      refine
        @flushed fragments (.symbol (spelled ++ [c]) kind) word spelled [c] rest parted rfl
          (List.concat_ne_nil c spelled) (fun _ => joined_some_right other _) ?_
      rw [Fragment.written, List.getLast?_concat]
      exact joined_some_left other _
  | @quote fragments word c rest quote =>
      exact ⟨parted.concat_wordOf, quote⟩
  | escaped mark => exact parted.lengthened (by simp) fun spelled => absurd rfl spelled
  | @settled fragments word spelled c kind rest nonempty stops decided =>
      exact
        @flushed fragments (.symbol spelled kind) word spelled [] (c :: rest) parted
          (List.append_nil spelled).symm (by simpa using nonempty)
          (fun empty => absurd empty nonempty)
          (Symbol.joined_of_verdict decided)
  | abandoned nonempty stops undecided =>
      exact parted.lengthened (by simp) fun spelled => absurd rfl spelled
  | @closed fragments delimiter parts rest =>
      have other := isWordChar_of_isQuote parted.mode
      refine
        ⟨parted.fragments.concat (joined_some_right other _), ?_, fun empty => absurd rfl empty⟩
      rw [List.flatMap_append, List.flatMap_singleton, Fragment.written, ← List.append_assoc,
        List.getLast?_concat]
      exact joined_some_left other _
  | _ => exact ⟨parted.fragments, parted.mode⟩

/-- The fragments that a line falls into leave names whole. -/
theorem parted_of_runs
    {account : Account}
    (parted : account.Parted)
    (runs : Runs inner dialect account (.ok fragments)) :
    Fragment.Parted fragments := by
  generalize shape : Except.ok fragments = result at runs
  induction runs with
  | @ended fragments word spelled =>
      cases shape
      unfold ending
      split
      · rename_i kind decided
        have nonempty : spelled ++ [] ≠ [] := by
          rintro empty
          rw [List.append_nil] at empty
          rw [empty, Symbol.verdict_nil] at decided
          cases decided
        rw [← List.append_assoc]
        exact
          @Parted.flush fragments (.symbol spelled kind) word spelled [] [] parted
            (List.append_nil spelled).symm nonempty fun _ => Bool.and_false _
      · exact parted.fragments.concat_wordOf (by simpa using parted.mode.1)
  | failed fails => cases shape
  | moved moves runs inductionHypothesis => exact inductionHypothesis (parted.of_moves moves) shape

end Account

end Brace
