namespace Brace.Unicode

/-!
# Sets of characters

A character property of Unicode is given by the ranges of code points that have it.  The
ranges ascend, so that a look-up stops at the first range that ends at or after the character.
-/

namespace CodePointSet

/-- Whether ranges, with both ends included, ascend without overlapping. -/
def ascends : List (Nat × Nat) → Bool
  | [] => true
  | [(first, last)] => first ≤ last
  | (first, last) :: (next, final) :: rest =>
      first ≤ last && last < next && ascends ((next, final) :: rest)

/-- Whether a code point lies in one of some ascending ranges. -/
def lies (point : Nat) : List (Nat × Nat) → Bool
  | [] => false
  | (first, last) :: rest =>
      if point ≤ last then first ≤ point else lies point rest

end CodePointSet

/-- A set of code points, as ascending ranges with both ends included. -/
structure CodePointSet where
  ranges : List (Nat × Nat)
  ascending : CodePointSet.ascends ranges = true

namespace CodePointSet

/-- Whether the set holds a character. -/
def contains (set : CodePointSet) (c : Char) : Bool :=
  lies c.toNat set.ranges

/-- Dropping the first of some ascending ranges leaves ascending ranges. -/
theorem ascends_tail
    {range : Nat × Nat}
    {rest : List (Nat × Nat)}
    (ascending : ascends (range :: rest) = true) :
    ascends rest = true := by
  cases rest with
  | nil => rfl
  | cons next rest => simp_all [ascends]

/-- Ascending ranges begin at or after the end of the first of them. -/
theorem le_of_mem_of_ascends
    {first last : Nat}
    {rest : List (Nat × Nat)}
    {range : Nat × Nat}
    (ascending : ascends ((first, last) :: rest) = true)
    (member : range ∈ rest) :
    last < range.1 := by
  induction rest generalizing first last with
  | nil => cases member
  | cons next rest inductionHypothesis =>
      have bounds : last < next.1 ∧ ascends (next :: rest) = true := by
        simp_all [ascends]
      have ordered : next.1 ≤ next.2 := by
        cases rest <;> simp_all [ascends]
      cases member with
      | head => exact bounds.1
      | tail _ member =>
          have later := inductionHypothesis bounds.2 member
          omega

/-- A look-up in ascending ranges finds exactly the points that lie in one of them. -/
theorem lies_iff
    {point : Nat}
    {ranges : List (Nat × Nat)}
    (ascending : ascends ranges = true) :
    lies point ranges = true ↔ ∃ range ∈ ranges, range.1 ≤ point ∧ point ≤ range.2 := by
  induction ranges with
  | nil => simp [lies]
  | cons range rest inductionHypothesis =>
      obtain ⟨first, last⟩ := range
      unfold lies
      split
      · rename_i within
        constructor
        · intro found
          exact ⟨(first, last), List.mem_cons_self, by simpa using found, within⟩
        · rintro ⟨range, member, starts, ends⟩
          cases member with
          | head => simpa using starts
          | tail _ member =>
              have later := le_of_mem_of_ascends ascending member
              omega
      · rename_i beyond
        rw [inductionHypothesis (ascends_tail ascending)]
        constructor
        · rintro ⟨range, member, bounds⟩
          exact ⟨range, List.mem_cons_of_mem _ member, bounds⟩
        · rintro ⟨range, member, starts, ends⟩
          cases member with
          | head => exact absurd ends beyond
          | tail _ member => exact ⟨range, member, starts, ends⟩

/-- A set holds exactly the characters whose code point lies in one of its ranges. -/
theorem contains_iff {set : CodePointSet} {c : Char} :
    set.contains c = true ↔
      ∃ range ∈ set.ranges, range.1 ≤ c.toNat ∧ c.toNat ≤ range.2 :=
  lies_iff set.ascending

end CodePointSet

end Brace.Unicode
