import Brace.Proofs.Account.Reach

namespace Brace

/-!
# Whitespace separates

Two texts with whitespace between them are tokenized like each of them alone: the tokens of the
second one, or its fault, only lie further to the right.
-/

open Account

section

variable {inner : String → Except Halt (List Token)} {dialect : Dialect}

/--
The rules lead from two texts with whitespace between them to what they lead to from each text.
-/
theorem Account.runs_append_space
    {first second : List Char}
    {space : Char}
    {fragments : List Fragment}
    {result : Except Fault (List Fragment)}
    (isSpace : Unicode.isSpace space = true)
    (firstRuns : Runs inner dialect (ofText first) (.ok fragments))
    (secondRuns : Runs inner dialect (ofText second) result) :
    Runs inner dialect (ofText (first ++ space :: second))
      (resultAfter (fragments ++ [.blank space]) result) := by
  have apart : (lastOf (fragments ++ [.blank space]) []).any isWordChar = false := by
    simp [lastOf, Fragment.written, isWordChar_of_isSpace isSpace]
  have afterSpace := secondRuns.following apart
  rw [following, ofText, List.append_nil] at afterSpace
  exact afterSpace.of_reaches (firstRuns.reaches_blank isSpace)

end

/-- The tokens of two texts with whitespace between them are those of both texts. -/
theorem layout_append_blank
    {before after : List Fragment}
    {space : Char} :
    Fragment.layout 0 (before ++ [.blank space] ++ after) =
      Fragment.layout 0 before ++
        (Fragment.layout 0 after).map (Token.moved (Fragment.extent before + 1)) := by
  have blank : Fragment.tokens (Fragment.extent before) (.blank space) = [] := rfl
  have width : (Fragment.written (.blank space)).length = 1 := rfl
  rw [Fragment.layout_append, Fragment.layout_append, Fragment.layout_singleton,
    Fragment.extent_append, Fragment.extent_singleton, Nat.zero_add, blank, List.append_nil, width,
    Fragment.layout_moved]

/-- What comes after whitespace is tokenized as if it stood alone. -/
theorem tokenize_append_space
    {dialect : Dialect}
    {first second : String}
    {space : Char}
    {tokens : List Token}
    (isSpace : Unicode.isSpace space = true)
    (fits : (first ++ String.singleton space ++ second).length < Offset.limit)
    (reads : tokenize dialect first = .ok tokens) :
    (∀ others,
        tokenize dialect second = .ok others →
          tokenize dialect (first ++ String.singleton space ++ second) =
            .ok (tokens ++ others.map (Token.moved (first.length + 1)))) ∧
      ∀ fault,
        tokenize dialect second = .error (.fault fault) →
          tokenize dialect (first ++ String.singleton space ++ second) =
            .error (.fault (fault.moved (first.length + 1))) := by
  have line :
      first ++ String.singleton space ++ second =
        String.ofList (first.toList ++ space :: second.toList) := by
    apply String.toList_injective
    simp
  rw [line, String.length_ofList] at fits
  have sizes : first.toList.length + (second.toList.length + 1) < Offset.limit := by
    simpa using fits
  have firstFits : first.toList.length < Offset.limit := by
    omega
  have secondFits : second.toList.length < Offset.limit := by
    omega
  rw [← @String.ofList_toList first] at reads
  obtain ⟨fragments, firstRuns, rfl⟩ := runs_of_tokenize_ok firstFits reads
  have spells := (lawful_of_runs (sound_ofText _) firstRuns).2
  have extent : Fragment.extent fragments = first.length := by
    rw [Fragment.extent, spells]
    exact String.length_toList
  refine ⟨?_, ?_⟩
  · intro others othersRead
    rw [← @String.ofList_toList second] at othersRead
    obtain ⟨otherFragments, secondRuns, rfl⟩ := runs_of_tokenize_ok secondFits othersRead
    have runs := runs_append_space isSpace firstRuns secondRuns
    rw [line, tokenize_of_runs fits runs, resultAfter, answer, layout_append_blank, extent]
  · intro fault faulty
    rw [← @String.ofList_toList second] at faulty
    have secondRuns := runs_of_tokenize_error secondFits faulty
    have runs := runs_append_space isSpace firstRuns secondRuns
    have width : (Fragment.written (.blank space)).length = 1 := rfl
    rw [line, tokenize_of_runs fits runs, resultAfter, answer, Fragment.extent_append,
      Fragment.extent_singleton, width, extent]

/-- A keyword before whitespace, with an interpolation after it, and with a fault after it. -/
theorem tokenize_append_tab :
    tokenize .usual ("??tr\x7bif" ++ String.singleton '\t' ++ "y\"\x60a\x60\"") =
        .ok
          [⟨.word, ⟨0, 4⟩, some "??tr"⟩,
            ⟨.openBlock, ⟨4, 5⟩, none⟩,
            ⟨.ifKeyword, ⟨5, 7⟩, none⟩,
            ⟨.word, ⟨8, 9⟩, some "y"⟩,
            ⟨.string, ⟨9, 14⟩, some ""⟩,
            ⟨.word, ⟨11, 12⟩, some "a"⟩] ∧
      tokenize .usual ("??tr\x7bif" ++ String.singleton '\t' ++ "y'\x60") =
        .error (.fault ⟨.notInInterpolationString '\'', none, 10⟩) := by
  have reads :
      tokenize .usual "??tr\x7bif" =
        .ok
          [⟨.word, ⟨0, 4⟩, some "??tr"⟩,
            ⟨.openBlock, ⟨4, 5⟩, none⟩,
            ⟨.ifKeyword, ⟨5, 7⟩, none⟩] := by
    decide +kernel
  have others :
      tokenize .usual "y\"\x60a\x60\"" =
        .ok
          [⟨.word, ⟨0, 1⟩, some "y"⟩,
            ⟨.string, ⟨1, 6⟩, some ""⟩,
            ⟨.word, ⟨3, 4⟩, some "a"⟩] := by
    decide +kernel
  have faulty :
      tokenize .usual "y'\x60" = .error (.fault ⟨.notInInterpolationString '\'', none, 2⟩) := by
    decide +kernel
  exact
    ⟨(tokenize_append_space (by decide) (by decide) reads).1 _ others,
      (tokenize_append_space (by decide) (by decide) reads).2 _ faulty⟩

end Brace
