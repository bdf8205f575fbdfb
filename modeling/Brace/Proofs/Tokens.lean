import Brace.Scan.Basic

namespace Brace

/-!
# Theory of token lists

The tokens of a line come in the order of their starts.  Two of them are apart, or the earlier
one is a string around the later one.  `Tidy` says this of the tokens of a stretch of a line, and
the lemmas say how tidy lists are put together: one after the other, moved to the right, and
inside a string.
-/

namespace Token

/-- The token, moved right by some characters without a check. -/
def moved (distance : Nat) (token : Token) : Token :=
  { token with span := ⟨token.span.start + distance, token.span.stop + distance⟩ }

/-- The first token ends before the second, or is a string that surrounds it. -/
def Precedes (first second : Token) : Prop :=
  first.span.stop ≤ second.span.start ∨
    first.kind = .string ∧
      first.span.start < second.span.start ∧
      second.span.stop < first.span.stop

theorem moved_moved
    (token : Token)
    (first second : Nat) :
    (token.moved first).moved second = token.moved (first + second) := by
  simp [moved, Nat.add_assoc]

/-- A checked move succeeds where the token still ends at an offset. -/
theorem shift_eq_moved
    {token : Token}
    {distance : Nat}
    (forward : token.span.start ≤ token.span.stop)
    (fits : token.span.stop + distance < Offset.limit) :
    token.shift distance = .ok (token.moved distance) := by
  have startFits : token.span.start + distance < Offset.limit :=
    Nat.lt_of_le_of_lt (Nat.add_le_add_right forward distance) fits
  simp [shift, Span.shift, Offset.add, fits, startFits, moved, bind, Except.bind, pure, Except.pure]

/-- Checked moves of tokens succeed together. -/
theorem mapM_shift_eq
    {tokens : List Token}
    {distance : Nat}
    (fits :
      ∀ token ∈ tokens,
        token.span.start ≤ token.span.stop ∧ token.span.stop + distance < Offset.limit) :
    (tokens.mapM fun token => token.shift distance) = Except.ok (tokens.map (moved distance)) := by
  induction tokens with
  | nil => rfl
  | cons token rest inductionHypothesis =>
      obtain ⟨forward, bound⟩ := fits token (by simp)
      have others := inductionHypothesis fun other member => fits other (by simp [member])
      simp only [List.mapM_cons, shift_eq_moved forward bound, others, List.map_cons]
      rfl

end Token

/-- Tokens between two offsets of a line, none of them empty, in order and properly nested. -/
structure Tidy (start stop : Nat) (tokens : List Token) : Prop where
  inside :
    ∀ token ∈ tokens,
      start ≤ token.span.start ∧
        token.span.start < token.span.stop ∧
        token.span.stop ≤ stop
  ordered : tokens.Pairwise Token.Precedes

namespace Tidy

theorem nil {start stop : Nat} : Tidy start stop [] where
  inside := by
    simp
  ordered := .nil

theorem singleton
    {start stop : Nat}
    {kind : Kind}
    {content : Option String}
    (nonempty : start < stop) :
    Tidy start stop [⟨kind, ⟨start, stop⟩, content⟩] where
  inside := by
    simpa using nonempty
  ordered := by
    simp

theorem widen
    {start stop first last : Nat}
    {tokens : List Token}
    (tidy : Tidy start stop tokens)
    (starts : first ≤ start)
    (stops : stop ≤ last) :
    Tidy first last tokens where
  inside token member := by
    have bounds := tidy.inside token member
    omega
  ordered := tidy.ordered

/-- Tidy tokens after tidy tokens are tidy. -/
theorem append
    {start middle stop : Nat}
    {before after : List Token}
    (first : Tidy start middle before)
    (second : Tidy middle stop after)
    (starts : start ≤ middle)
    (stops : middle ≤ stop) :
    Tidy start stop (before ++ after) where
  inside token member := by
    rcases List.mem_append.mp member with isBefore | isAfter
    · have bounds := first.inside token isBefore
      omega
    · have bounds := second.inside token isAfter
      omega
  ordered := by
    rw [List.pairwise_append]
    refine ⟨first.ordered, second.ordered, ?_⟩
    intro earlier isBefore later isAfter
    have earlierBounds := first.inside earlier isBefore
    have laterBounds := second.inside later isAfter
    exact Or.inl (by omega)

/-- Tidy tokens stay tidy when all of them are moved. -/
theorem moved
    {start stop : Nat}
    {tokens : List Token}
    (tidy : Tidy start stop tokens)
    (distance : Nat) :
    Tidy (start + distance) (stop + distance) (tokens.map (Token.moved distance)) where
  inside token member := by
    obtain ⟨original, isOriginal, rfl⟩ := List.mem_map.mp member
    have bounds := tidy.inside original isOriginal
    simp only [Token.moved]
    omega
  ordered := by
    rw [List.pairwise_map]
    refine tidy.ordered.imp ?_
    intro first second precedes
    simpa [Token.Precedes, Token.moved] using precedes

/-- A string with tidy tokens strictly between its ends is tidy. -/
theorem string
    {start stop : Nat}
    {content : Option String}
    {tokens : List Token}
    (tidy : Tidy (start + 1) stop tokens)
    (ends : start < stop) :
    Tidy start (stop + 1) (⟨.string, ⟨start, stop + 1⟩, content⟩ :: tokens) where
  inside token member := by
    rcases List.mem_cons.mp member with rfl | isInner
    · dsimp only
      omega
    · have bounds := tidy.inside token isInner
      omega
  ordered := by
    rw [List.pairwise_cons]
    refine ⟨?_, tidy.ordered⟩
    intro inner isInner
    have bounds := tidy.inside inner isInner
    refine Or.inr ⟨rfl, ?_, ?_⟩
    · dsimp only
      omega
    · dsimp only
      omega

/-- Of two tidy tokens the first one starts first. -/
theorem start_lt
    {start stop : Nat}
    {tokens : List Token}
    (tidy : Tidy start stop tokens) :
    tokens.Pairwise fun first second => first.span.start < second.span.start := by
  refine List.Pairwise.imp_of_mem ?_ tidy.ordered
  intro first second firstMember _ precedes
  have bounds := tidy.inside first firstMember
  rcases precedes with apart | ⟨_, surrounds, _⟩
  · omega
  · exact surrounds

/-- Tidy tokens pass the check that a scan makes at its end. -/
theorem startsAscend
    {start stop : Nat}
    {tokens : List Token}
    (tidy : Tidy start stop tokens) :
    Scan.startsAscend tokens = true := by
  have ascends := tidy.start_lt
  clear tidy
  induction tokens with
  | nil => rfl
  | cons first rest inductionHypothesis =>
      obtain ⟨fromFirst, others⟩ := List.pairwise_cons.mp ascends
      cases rest with
      | nil => rfl
      | cons second rest =>
          have earlier := fromFirst second (by simp)
          simp [Scan.startsAscend, Nat.le_of_lt earlier, inductionHypothesis others]

end Tidy

/-! ## Pieces that follow each other -/

/-- The tokens of pieces of a line, the first of which begins at an offset. -/
def spread (written : α → List Char) (tokens : Nat → α → List Token) : Nat → List α → List Token
  | _, [] => []
  | offset, piece :: pieces =>
      tokens offset piece ++ spread written tokens (offset + (written piece).length) pieces

section Spread

variable {written : α → List Char} {tokens : Nat → α → List Token}

theorem spread_append
    {offset : Nat}
    {before after : List α} :
    spread written tokens offset (before ++ after) =
      spread written tokens offset before ++
        spread written tokens (offset + (before.flatMap written).length) after := by
  induction before generalizing offset with
  | nil => rfl
  | cons piece pieces inductionHypothesis =>
      simp [spread, inductionHypothesis, Nat.add_assoc]

/-- Pieces that begin later have the same tokens further to the right. -/
theorem spread_moved
    {distance : Nat}
    (moves :
      ∀ offset piece,
        tokens (offset + distance) piece = (tokens offset piece).map (Token.moved distance))
    {offset : Nat}
    {pieces : List α} :
    spread written tokens (offset + distance) pieces =
      (spread written tokens offset pieces).map (Token.moved distance) := by
  induction pieces generalizing offset with
  | nil => rfl
  | cons piece pieces inductionHypothesis =>
      simp only [spread, List.map_append, moves, ← inductionHypothesis]
      rw [Nat.add_right_comm]

/-- Pieces whose tokens are tidy have tidy tokens together. -/
theorem tidy_spread
    {offset : Nat}
    {pieces : List α}
    (each :
      ∀ piece ∈ pieces,
        ∀ offset, Tidy offset (offset + (written piece).length) (tokens offset piece)) :
    Tidy offset (offset + (pieces.flatMap written).length)
      (spread written tokens offset pieces) := by
  induction pieces generalizing offset with
  | nil => exact .nil
  | cons piece pieces inductionHypothesis =>
      have first := each piece (by simp) offset
      have others := @inductionHypothesis (offset + (written piece).length) <| by
        intro other member
        exact each other (by simp [member])
      rw [List.flatMap_cons, List.length_append, ← Nat.add_assoc]
      exact first.append others (Nat.le_add_right _ _) (Nat.le_add_right _ _)

/-- A token of pieces is a token of one of them, where that piece begins. -/
theorem mem_spread
    {offset : Nat}
    {pieces : List α}
    {token : Token} :
    token ∈ spread written tokens offset pieces ↔
      ∃ before piece after,
        pieces = before ++ piece :: after ∧
          token ∈ tokens (offset + (before.flatMap written).length) piece := by
  constructor
  · intro member
    induction pieces generalizing offset with
    | nil => cases member
    | cons first pieces inductionHypothesis =>
        rcases List.mem_append.mp member with isFirst | isLater
        · exact ⟨[], first, pieces, rfl, by simpa using isFirst⟩
        · obtain ⟨before, piece, after, rfl, inPiece⟩ := inductionHypothesis isLater
          exact ⟨first :: before, piece, after, rfl, by simpa [Nat.add_assoc] using inPiece⟩
  · rintro ⟨before, piece, after, rfl, inPiece⟩
    rw [spread_append]
    exact List.mem_append_right _ (List.mem_append_left _ inPiece)

end Spread

end Brace
