import Mathlib.Algebra.Group.Nat.Even
import Mathlib.Data.List.DropRight
import Brace.Proofs.Symbols

namespace Brace

/-!
# The grammar of words

A word is what the matcher leaves over, but the texts that can be left over have a grammar of their
own: it says which characters stand in a word, and what has to hold of the runs of question marks
and of word characters in it.
-/

/-- The characters of tokens that stand in no word. -/
def punctuation : List Char :=
  ['{', '}', '[', ']', '(', ')', ':', '=', '!']

/-- The names that are tokens of their own. -/
def keywords : List (List Char) :=
  [['i', 'f'], ['t', 'r', 'y']]

/-- A stretch of a text has characters of one class only, and goes on as far as it can. -/
structure IsRun (isIn : Char → Bool) (before run after : List Char) : Prop where
  nonempty : run ≠ []
  inside : ∀ c ∈ run, isIn c = true
  starts : before.getLast?.any isIn = false
  stops : after.head?.any isIn = false

/-- Every mark comes right after a backslash. -/
def Escaped (text : List Char) : Prop :=
  ∀ before c after, text = before ++ c :: after → isMark c = true → before.getLast? = some '\\'

/-- Every run of question marks has an even length. -/
def Paired (text : List Char) : Prop :=
  ∀ before run after,
    text = before ++ run ++ after → IsRun (· == '?') before run after → Even run.length

/-- The texts that are words. -/
structure Wordlike (text : List Char) : Prop where
  nonempty : text ≠ []
  solid : ∀ c ∈ text, Unicode.isSpace c = false ∧ c ∉ punctuation
  escaped : Escaped text
  paired : Paired text
  free :
    ∀ before run after,
      text = before ++ run ++ after → IsRun isWordChar before run after → run ∉ keywords

/-! ## Runs -/

/-- The last character of a text belongs to a stretch of it or comes after the stretch. -/
theorem append_eq_concat
    {text before run after : List Char}
    {c : Char}
    (nonempty : run ≠ [])
    (shape : text ++ [c] = before ++ run ++ after) :
    (after = [] ∧ ∃ front, run = front ++ [c] ∧ text = before ++ front) ∨
      ∃ others, after = others ++ [c] ∧ text = before ++ run ++ others := by
  rcases List.eq_nil_or_concat after with rfl | ⟨others, last, rfl⟩
  · rcases List.eq_nil_or_concat run with rfl | ⟨front, last, rfl⟩
    · contradiction
    · rw [List.concat_eq_append, List.append_nil, ← List.append_assoc] at shape
      obtain ⟨rfl, same⟩ := List.append_inj' shape rfl
      cases same
      exact Or.inl ⟨rfl, front, List.concat_eq_append, rfl⟩
  · rw [List.concat_eq_append, ← List.append_assoc] at shape
    obtain ⟨rfl, same⟩ := List.append_inj' shape rfl
    cases same
    exact Or.inr ⟨others, List.concat_eq_append, rfl⟩

/-- A run stays one when the last character after it is taken away. -/
theorem IsRun.of_concat
    {isIn : Char → Bool}
    {before run others : List Char}
    {last : Char}
    (isRun : IsRun isIn before run (others ++ [last])) :
    IsRun isIn before run others := by
  refine ⟨isRun.nonempty, isRun.inside, isRun.starts, ?_⟩
  have stops := isRun.stops
  cases others with
  | nil => rfl
  | cons first others => exact stops

/-! ## Marks -/

theorem escaped_nil : Escaped [] := by
  intro before c after shape
  simp at shape

theorem Escaped.concat
    {text : List Char}
    {c : Char}
    (escaped : Escaped text)
    (follows : isMark c = true → text.getLast? = some '\\') :
    Escaped (text ++ [c]) := by
  intro before other after shape mark
  rcases List.eq_nil_or_concat after with rfl | ⟨others, last, rfl⟩
  · obtain ⟨rfl, same⟩ := List.append_inj' shape rfl
    cases same
    exact follows mark
  · rw [List.concat_eq_append, ← List.cons_append, ← List.append_assoc] at shape
    obtain ⟨rfl, _⟩ := List.append_inj' shape rfl
    exact escaped before other others rfl mark

theorem Escaped.append
    {text more : List Char}
    (escaped : Escaped text)
    (unmarked : ∀ c ∈ more, isMark c = false) :
    Escaped (text ++ more) := by
  induction more using List.reverseRecOn with
  | nil => rwa [List.append_nil]
  | append_singleton more c inductionHypothesis =>
      rw [List.forall_mem_append, List.forall_mem_singleton] at unmarked
      rw [← List.append_assoc]
      refine (inductionHypothesis unmarked.1).concat ?_
      simp [unmarked.2]

/-! ## Question marks -/

theorem paired_nil : Paired [] := by
  intro before run after shape isRun
  simp [isRun.nonempty] at shape

theorem Paired.concat
    {text : List Char}
    {c : Char}
    (paired : Paired text)
    (other : c ≠ '?') :
    Paired (text ++ [c]) := by
  intro before run after shape isRun
  rcases append_eq_concat isRun.nonempty shape with ⟨_, front, rfl, _⟩ | ⟨others, rfl, parted⟩
  · have isMark := isRun.inside c (by simp)
    exact absurd (beq_iff_eq.mp isMark) other
  · exact paired before run others parted isRun.of_concat

theorem Paired.append
    {text more : List Char}
    (paired : Paired text)
    (others : ∀ c ∈ more, c ≠ '?') :
    Paired (text ++ more) := by
  induction more using List.reverseRecOn with
  | nil => rwa [List.append_nil]
  | append_singleton more c inductionHypothesis =>
      rw [List.forall_mem_append, List.forall_mem_singleton] at others
      rw [← List.append_assoc]
      exact (inductionHypothesis others.1).concat others.2

/-- A text ends in an even number of question marks. -/
theorem Paired.exists_trailing
    {text : List Char}
    (paired : Paired text) :
    ∃ front marks,
      text = front ++ marks ∧
        (∀ c ∈ marks, (c == '?') = true) ∧
        front.getLast?.any (· == '?') = false ∧
        Even marks.length := by
  have whole : text = text.rdropWhile (· == '?') ++ text.rtakeWhile (· == '?') :=
    List.rdropWhile_append_rtakeWhile.symm
  have starts : (text.rdropWhile (· == '?')).getLast?.any (· == '?') = false := by
    by_cases empty : text.rdropWhile (· == '?') = []
    · simp [empty]
    · have last := List.rdropWhile_last_not (· == '?') text empty
      rw [List.getLast?_eq_some_getLast empty]
      simpa using last
  refine ⟨_, _, whole, fun c => List.mem_rtakeWhile_imp, starts, ?_⟩
  by_cases none : text.rtakeWhile (· == '?') = []
  · simp [none]
  · refine paired _ _ [] (by rw [List.append_nil]; exact whole) ?_
    exact ⟨none, fun c => List.mem_rtakeWhile_imp, starts, rfl⟩

/-- One question mark more ends a run of an odd length. -/
theorem Paired.not_paired_of_mark
    {text rest : List Char}
    (paired : Paired text)
    (ends : rest.head?.any (· == '?') = false) :
    ¬ Paired (text ++ ['?'] ++ rest) := by
  intro longer
  obtain ⟨front, marks, rfl, areMarks, starts, even⟩ := paired.exists_trailing
  have isRun : IsRun (· == '?') front (marks ++ ['?']) rest :=
    ⟨by simp, by simpa [or_imp, forall_and] using areMarks, starts, ends⟩
  have odd := longer front (marks ++ ['?']) rest (by simp) isRun
  rw [List.length_append, List.length_singleton, Nat.even_add_one] at odd
  exact odd even

theorem Paired.pair
    {text : List Char}
    (paired : Paired text) :
    Paired (text ++ ['?', '?']) := by
  intro before run after shape isRun
  rw [List.append_cons] at shape
  -- Both question marks belong to the run, or neither of them does.
  rcases append_eq_concat isRun.nonempty shape with
    ⟨rfl, front, rfl, shorter⟩ | ⟨others, rfl, shorter⟩
  · have nonempty : front ≠ [] := by
      rintro rfl
      have starts := isRun.starts
      rw [← List.append_nil before, ← shorter, List.getLast?_concat] at starts
      cases starts
    rw [← List.append_nil (before ++ front)] at shorter
    rcases append_eq_concat nonempty shorter with ⟨_, marks, rfl, parted⟩ | ⟨_, impossible, _⟩
    · have even : Even marks.length := by
        by_cases empty : marks = []
        · simp [empty]
        · refine paired before marks [] (by rw [List.append_nil]; exact parted) ?_
          exact ⟨empty, fun c member => isRun.inside c (by simp [member]), isRun.starts, rfl⟩
      simpa [Nat.even_add_one] using even
    · simp at impossible
  · rcases append_eq_concat isRun.nonempty shorter with ⟨rfl, _⟩ | ⟨others, rfl, parted⟩
    · cases isRun.stops
    · exact paired before run others parted isRun.of_concat.of_concat

end Brace
