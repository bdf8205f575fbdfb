import Brace.Proofs.Account.Tokenize

namespace Brace

/-!
# Top-level tokens

The tokens that lie inside no other token.  Among the tokens of a line they are the ones that the
fragments of the line give for themselves, without those of the interpolations.
-/

/-- Whether the span of a token lies inside the span of no other one of some tokens. -/
def isOutermost (tokens : List Token) (token : Token) : Bool :=
  (tokens.erase token).all fun other => !other.span.encloses token.span

/-- The tokens whose span lies inside the span of no other one, in their order. -/
def topLevel (tokens : List Token) : List Token :=
  tokens.filter (isOutermost tokens)

/-- The other ones of some tokens in whose span the span of a token lies. -/
def enclosing (tokens : List Token) (token : Token) : List Token :=
  (tokens.erase token).filter fun other => other.span.encloses token.span

theorem Span.encloses_eq_false_of_start_lt
    {outer inner : Span}
    (later : inner.start < outer.start) :
    outer.encloses inner = false := by
  simp [encloses, Nat.not_le.mpr later]

theorem Span.encloses_eq_false_of_stop_lt
    {outer inner : Span}
    (earlier : outer.stop < inner.stop) :
    outer.encloses inner = false := by
  simp [encloses, Nat.not_le.mpr earlier]

theorem isOutermost_eq
    (tokens : List Token)
    (token : Token) :
    isOutermost tokens token = (enclosing tokens token).isEmpty := by
  rw [Bool.eq_iff_iff, List.isEmpty_iff, enclosing, List.filter_eq_nil_iff]
  simp [isOutermost]

/-- Later tokens do not enclose a token of an earlier stretch. -/
theorem enclosing_append_of_mem_left
    {start middle stop : Nat}
    {before after : List Token}
    {token : Token}
    (first : Tidy start middle before)
    (second : Tidy middle stop after)
    (member : token ∈ before) :
    enclosing (before ++ after) token = enclosing before token := by
  have bounds := first.inside token member
  have outside : (after.filter fun other => other.span.encloses token.span) = [] := by
    rw [List.filter_eq_nil_iff]
    intro other isAfter
    have otherBounds := second.inside other isAfter
    have later : token.span.start < other.span.start := by
      omega
    simp [Span.encloses_eq_false_of_start_lt later]
  rw [enclosing, List.erase_append_left _ member, List.filter_append, outside, List.append_nil]
  rfl

/-- Earlier tokens do not enclose a token of a later stretch. -/
theorem enclosing_append_of_mem_right
    {start middle stop : Nat}
    {before after : List Token}
    {token : Token}
    (first : Tidy start middle before)
    (second : Tidy middle stop after)
    (member : token ∈ after) :
    enclosing (before ++ after) token = enclosing after token := by
  have bounds := second.inside token member
  have absent : token ∉ before := by
    intro isBefore
    have otherBounds := first.inside token isBefore
    omega
  have outside : (before.filter fun other => other.span.encloses token.span) = [] := by
    rw [List.filter_eq_nil_iff]
    intro other isBefore
    have otherBounds := first.inside other isBefore
    have earlier : other.span.stop < token.span.stop := by
      omega
    simp [Span.encloses_eq_false_of_stop_lt earlier]
  rw [enclosing, List.erase_append_right _ absent, List.filter_append, outside, List.nil_append]
  rfl

section Surrounding

variable {token : Token} {tokens : List Token} {stop : Nat}

/-- Tokens strictly inside a token do not enclose it. -/
theorem enclosing_cons_self
    (inside : Tidy (token.span.start + 1) stop tokens) :
    enclosing (token :: tokens) token = [] := by
  rw [enclosing, List.erase_cons_head, List.filter_eq_nil_iff]
  intro other member
  have bounds := inside.inside other member
  have later : token.span.start < other.span.start := by
    omega
  simp [Span.encloses_eq_false_of_start_lt later]

/-- A token encloses those strictly inside it. -/
theorem enclosing_cons_of_mem
    {other : Token}
    (inside : Tidy (token.span.start + 1) stop tokens)
    (within : stop ≤ token.span.stop)
    (member : other ∈ tokens) :
    enclosing (token :: tokens) other = token :: enclosing tokens other := by
  have bounds := inside.inside other member
  have different : token ≠ other := by
    rintro rfl
    omega
  have encloses : token.span.encloses other.span = true := by
    simp only [Span.encloses, Bool.and_eq_true, decide_eq_true_eq]
    omega
  rw [enclosing, List.erase_cons_tail (by simpa using different), List.filter_cons,
    if_pos encloses]
  rfl

end Surrounding

@[simp] theorem topLevel_singleton
    (token : Token) :
    topLevel [token] = [token] := by
  simp [topLevel, isOutermost]

/-- Tokens of two stretches that follow each other do not lie inside each other. -/
theorem topLevel_append
    {start middle stop : Nat}
    {before after : List Token}
    (first : Tidy start middle before)
    (second : Tidy middle stop after) :
    topLevel (before ++ after) = topLevel before ++ topLevel after := by
  unfold topLevel
  rw [List.filter_append]
  congr 1
  · refine List.filter_congr ?_
    intro token member
    rw [isOutermost_eq, isOutermost_eq, enclosing_append_of_mem_left first second member]
  · refine List.filter_congr ?_
    intro token member
    rw [isOutermost_eq, isOutermost_eq, enclosing_append_of_mem_right first second member]

/-- Of a token and tokens strictly inside it, only the first is top-level. -/
theorem topLevel_cons_of_inside
    {token : Token}
    {tokens : List Token}
    {stop : Nat}
    (inside : Tidy (token.span.start + 1) stop tokens)
    (within : stop ≤ token.span.stop) :
    topLevel (token :: tokens) = [token] := by
  have outermost : isOutermost (token :: tokens) token = true := by
    rw [isOutermost_eq, enclosing_cons_self inside, List.isEmpty_nil]
  have covered : ∀ other ∈ tokens, ¬ isOutermost (token :: tokens) other = true := by
    intro other member
    rw [isOutermost_eq, enclosing_cons_of_mem inside within member]
    simp
  rw [topLevel, List.filter_cons_of_pos outermost, List.filter_eq_nil_iff.mpr covered]

namespace Fragment

/-- The tokens that fragments give for themselves, the first of which begins at an offset. -/
def heads (offset : Nat) (fragments : List Fragment) : List Token :=
  spread written (fun offset fragment => (fragment.head offset).toList) offset fragments

section

variable {inner : String → Except Halt (List Token)} {dialect : Dialect}

/-- The top-level token of a fragment is the one that the fragment gives for itself. -/
theorem topLevel_tokens
    {fragment : Fragment}
    {size : Nat}
    (answers : Answers inner size)
    (sound : fragment.Sound inner dialect)
    (short : fragment.written.length ≤ size)
    (offset : Nat) :
    topLevel (fragment.tokens offset) = (fragment.head offset).toList := by
  cases fragment with
  | blank c => rfl
  | symbol spelling kind => exact topLevel_singleton _
  | word text => exact topLevel_singleton _
  | string delimiter parts =>
      have length : (written (.string delimiter parts)).length = Part.extent parts + 2 := by
        simp [written, Part.extent]
      have body :=
        Part.tidy_layout answers sound.2 (by omega : Part.extent parts ≤ size) (offset + 1)
      have within : offset + 1 + Part.extent parts ≤ offset + (Part.extent parts + 2) := by
        omega
      exact topLevel_cons_of_inside body within

/-- The top-level tokens of lawful fragments are the ones that they give for themselves. -/
theorem Lawful.topLevel_layout
    {fragments : List Fragment}
    {size : Nat}
    (lawful : Lawful inner dialect fragments)
    (answers : Answers inner size)
    (short : extent fragments ≤ size)
    (offset : Nat) :
    topLevel (layout offset fragments) = heads offset fragments := by
  induction fragments generalizing offset with
  | nil => rfl
  | cons fragment fragments inductionHypothesis =>
      have others := lawful.tail
      have sound := lawful.sound fragment (by simp)
      rw [extent, List.flatMap_cons, List.length_append] at short
      have firstShort : fragment.written.length ≤ size := by
        omega
      have othersShort : extent fragments ≤ size := by
        simp only [extent]
        omega
      have first := fragment.tidy_tokens answers sound firstShort offset
      have second :=
        others.tidy_layout answers othersShort (offset + fragment.written.length)
      have split :
          topLevel (layout offset (fragment :: fragments)) =
            topLevel (fragment.tokens offset) ++
              topLevel (layout (offset + fragment.written.length) fragments) :=
        topLevel_append first second
      rw [split, fragment.topLevel_tokens answers sound firstShort,
        inductionHypothesis others othersShort]
      rfl

end

end Fragment

end Brace
