import Brace.Proofs.Names
import Brace.Proofs.Cover

namespace Brace

/-!
# Where keywords are tokens

A keyword of a line is a token wherever no name goes on before or after it, and nowhere else.
Strings apart, it is never missed: a stretch of word characters lies in one fragment, which can be
no word if the stretch is a keyword, and has to be the keyword alone if it is a symbol.
-/

/-- A name that is a token of its own, with the kind of this token. -/
structure Keyword (name : List Char) (kind : Kind) : Prop where
  listed : ⟨name, .token kind⟩ ∈ Symbol.table
  isKeyword : Symbol.isKeyword ⟨name, .token kind⟩ = true

/-- No name goes on before a stretch of a text or after it. -/
structure Freestanding (before after : List Char) : Prop where
  starts : before.getLast?.any isWordChar = false
  stops : after.head?.any isWordChar = false

namespace Keyword

variable {name : List Char} {kind : Kind}

theorem cases
    (keyword : Keyword name kind) :
    (name = ['i', 'f'] ∧ kind = .ifKeyword) ∨ (name = ['t', 'r', 'y'] ∧ kind = .tryKeyword) := by
  have all :
      ∀ symbol ∈ Symbol.table,
        symbol.isKeyword = true →
          symbol = ⟨['i', 'f'], .token .ifKeyword⟩ ∨
            symbol = ⟨['t', 'r', 'y'], .token .tryKeyword⟩ := by
    decide +kernel
  simpa using all _ keyword.listed keyword.isKeyword

theorem mem_keywords
    (keyword : Keyword name kind) :
    name ∈ keywords := by
  rcases keyword.cases with ⟨rfl, -⟩ | ⟨rfl, -⟩ <;> decide

theorem nonempty
    (keyword : Keyword name kind) :
    name ≠ [] :=
  Symbol.spelling_ne_nil keyword.listed

theorem inside
    (keyword : Keyword name kind) :
    ∀ c ∈ name, isWordChar c = true :=
  fun _ => Symbol.isWordChar_of_mem_keyword keyword.mem_keywords

/-- A keyword is neither a string nor a word. -/
theorem kind_ne
    (keyword : Keyword name kind) :
    kind ≠ .string ∧ kind ≠ .word := by
  rcases keyword.cases with ⟨-, rfl⟩ | ⟨-, rfl⟩ <;> decide

/-- A keyword that stands free is a run of word characters. -/
theorem isRun
    {before after : List Char}
    (keyword : Keyword name kind)
    (free : Freestanding before after) :
    IsRun isWordChar before name after :=
  ⟨keyword.nonempty, keyword.inside, free.starts, free.stops⟩

/-- The symbols in which a keyword occurs consist of word characters. -/
theorem forall_of_spelling
    {spelling front back : List Char}
    {other : Kind}
    (keyword : Keyword name kind)
    (member : ⟨spelling, .token other⟩ ∈ Symbol.table)
    (shape : spelling = front ++ name ++ back) :
    ∀ c ∈ spelling, isWordChar c = true := by
  have extendable : Symbol.extending spelling ≠ [] :=
    List.ne_nil_of_mem (Symbol.mem_extending.mpr ⟨member, List.prefix_refl _⟩)
  obtain ⟨c, rest, rfl⟩ := List.exists_cons_of_ne_nil keyword.nonempty
  refine (Symbol.uniform_of_extending_ne_nil extendable).resolve_right fun others => ?_
  have letter := keyword.inside c List.mem_cons_self
  rw [others c (by simp [shape])] at letter
  cases letter

end Keyword

theorem Freestanding.inner
    {before front back after : List Char}
    (free : Freestanding (before ++ front) (back ++ after)) :
    Freestanding front back where
  starts := by
    have starts := free.starts
    cases front using List.reverseRecOn with
    | nil => rfl
    | append_singleton front c => simpa using starts
  stops := by
    have stops := free.stops
    cases back with
    | nil => rfl
    | cons c back => exact stops

/-- What stands free between two characters that stand in no name stands free around them. -/
theorem Freestanding.between
    {before front back after : List Char}
    {c d : Char}
    (free : Freestanding front back)
    (opens : isWordChar c = false)
    (closes : isWordChar d = false) :
    Freestanding (before ++ c :: front) (back ++ d :: after) where
  starts := by
    have starts := free.starts
    cases front using List.reverseRecOn with
    | nil => simpa using opens
    | append_singleton front last =>
        rw [List.getLast?_concat] at starts
        rw [← List.cons_append, ← List.append_assoc, List.getLast?_concat]
        exact starts
  stops := by
    have stops := free.stops
    cases back with
    | nil => exact closes
    | cons first back => exact stops

/-- Nothing of one class of characters stands around a stretch of a text of this class. -/
theorem Freestanding.eq_nil
    {front run back : List Char}
    (free : Freestanding front back)
    (inside : ∀ c ∈ front ++ run ++ back, isWordChar c = true) :
    front = [] ∧ back = [] := by
  constructor
  · cases front using List.reverseRecOn with
    | nil => rfl
    | append_singleton front c =>
        have starts := free.starts
        rw [List.getLast?_concat, Option.any_some, inside c (by simp)] at starts
        cases starts
  · cases back with
    | nil => rfl
    | cons c back =>
        have stops := free.stops
        rw [List.head?_cons, Option.any_some, inside c (by simp)] at stops
        cases stops

section

variable
  {inner : String → Except Halt (List Token)}
  {dialect : Dialect}
  {fragments : List Fragment}
  {name before after : List Char}
  {kind : Kind}

/-- A fragment of word characters stands free. -/
theorem Fragment.Parted.freestanding
    {earlier later : List Fragment}
    {fragment : Fragment}
    (parted : Parted (earlier ++ fragment :: later))
    (nonempty : fragment.written ≠ [])
    (inside : ∀ c ∈ fragment.written, isWordChar c = true) :
    Freestanding (earlier.flatMap written) (later.flatMap written) where
  starts := by
    have known := parted earlier (fragment :: later) rfl
    obtain ⟨c, text, shape⟩ := List.exists_cons_of_ne_nil nonempty
    simpa [shape, joined, inside c (by simp [shape])] using known
  stops := by
    have known := parted (earlier ++ [fragment]) later (List.append_cons earlier fragment later)
    obtain ⟨text, c, shape⟩ := List.eq_nil_or_concat fragment.written |>.resolve_left nonempty
    rw [List.concat_eq_append] at shape
    simpa [shape, joined, inside c (by simp [shape])] using known

/-- A keyword that stands free outside of strings is a token. -/
theorem Fragment.mem_layout_of_free
    (sound : ∀ fragment ∈ fragments, fragment.Sound inner dialect)
    (wordlike : ∀ text, .word text ∈ fragments → Wordlike text)
    (parted : Parted fragments)
    (keyword : Keyword name kind)
    (line : fragments.flatMap written = before ++ name ++ after)
    (outside :
      ∀ token ∈ layout 0 fragments,
        token.kind = .string →
          token.span.stop ≤ before.length ∨ before.length + name.length ≤ token.span.start)
    (free : Freestanding before after) :
    ⟨kind, ⟨before.length, before.length + name.length⟩, none⟩ ∈ layout 0 fragments := by
  have positive := List.length_pos_iff.mpr keyword.nonempty
  obtain ⟨earlier, fragment, later, front, back, rfl, text, rfl, rfl⟩ :=
    parted.exists_fragment keyword.nonempty keyword.inside line
  have free : Freestanding front back := free.inner
  have fragmentSound := sound fragment (by simp)
  obtain ⟨letter, others, isName⟩ := List.exists_cons_of_ne_nil keyword.nonempty
  have isLetter : isWordChar letter = true := keyword.inside letter (by simp [isName])
  cases fragment with
  | blank c =>
      have same : letter ∈ (blank c).written := by simp [text, isName]
      rw [List.mem_singleton.mp same, isWordChar_of_isSpace fragmentSound] at isLetter
      cases isLetter
  | symbol spelling other =>
      have whole : spelling = front ++ name ++ back := text
      obtain ⟨rfl, rfl⟩ :=
        free.eq_nil (whole ▸ keyword.forall_of_spelling fragmentSound whole)
      rw [List.nil_append, List.append_nil] at whole
      subst whole
      cases Symbol.spelling_injective fragmentSound keyword.listed rfl
      refine mem_spread.mpr ⟨earlier, _, later, rfl, List.mem_singleton.mpr ?_⟩
      simp
  | word word =>
      have notKeyword := (wordlike word (by simp)).free front name back text (keyword.isRun free)
      exact absurd keyword.mem_keywords notKeyword
  | string delimiter parts =>
      have isToken :
          ⟨.string,
              ⟨(earlier.flatMap written).length,
                (earlier.flatMap written).length + (Part.extent parts + 2)⟩,
              some (Part.body parts)⟩ ∈
            layout 0 (earlier ++ .string delimiter parts :: later) := by
        refine mem_spread.mpr ⟨earlier, _, later, rfl, List.mem_cons.mpr (Or.inl ?_)⟩
        simp
      have size : Part.extent parts + 2 = (front ++ name ++ back).length := by
        rw [← text]
        simp [written, Part.extent]
      rcases outside _ isToken rfl with earlierEnds | laterStarts
      · simp only [List.length_append] at earlierEnds size
        omega
      · simp only [List.length_append] at laterStarts
        omega

end

/-- A keyword among the tokens of a text stands free in it, also where it is in an interpolation. -/
theorem exists_freestanding_of_tokenize
    {dialect : Dialect}
    {text : String}
    {tokens : List Token}
    {token : Token}
    {name : List Char}
    {kind : Kind}
    (keyword : Keyword name kind)
    (reads : tokenize dialect text = .ok tokens)
    (member : token ∈ tokens)
    (isKind : token.kind = kind) :
    ∃ before after,
      text.toList = before ++ name ++ after ∧
        token = ⟨kind, ⟨before.length, before.length + name.length⟩, none⟩ ∧
        Freestanding before after := by
  obtain ⟨fragments, runs, lawful, spelled, rfl⟩ := exists_fragments_of_tokenize reads
  have parted := Account.parted_of_runs (Account.parted_ofText _) runs
  obtain ⟨earlier, fragment, later, rfl, inFragment⟩ := mem_spread.mp member
  have fragmentSound := lawful.sound fragment (by simp)
  cases fragment with
  | blank c => cases inFragment
  | symbol spelling other =>
      obtain rfl := List.mem_singleton.mp inFragment
      cases isKind
      obtain rfl := Symbol.spelling_unique fragmentSound keyword.listed
      refine ⟨earlier.flatMap Fragment.written, later.flatMap Fragment.written, ?_, ?_, ?_⟩
      · rw [← spelled]
        simp [Fragment.written]
      · simp
      · exact parted.freestanding keyword.nonempty keyword.inside
  | word word =>
      obtain rfl := List.mem_singleton.mp inFragment
      exact absurd isKind.symm keyword.kind_ne.2
  | string delimiter parts =>
      rcases List.mem_cons.mp inFragment with rfl | nested
      · exact absurd isKind.symm keyword.kind_ne.1
      · obtain ⟨first, part, last, rfl, inPart⟩ := mem_spread.mp nested
        cases part with
        | segment raw others =>
            obtain ⟨found, isFound, rfl⟩ := List.mem_map.mp inPart
            have shorter : raw.length < text.length := by
              rw [← String.length_toList, ← spelled]
              simp only [Fragment.written, Part.written, List.flatMap_append, List.flatMap_cons,
                List.length_append, List.length_cons]
              omega
            obtain ⟨front, back, rawShape, rfl, free⟩ :=
              exists_freestanding_of_tokenize keyword
                (fragmentSound.2 (.segment raw others) (by simp)).2.2 isFound isKind
            rw [String.toList_ofList] at rawShape
            have noLetter : isWordChar interpolationMark = false :=
              Symbol.isWordChar_of_isMark (by decide)
            refine
              ⟨earlier.flatMap Fragment.written ++ delimiter :: first.flatMap Part.written ++
                  interpolationMark :: front,
                back ++ interpolationMark ::
                  (last.flatMap Part.written ++ delimiter :: later.flatMap Fragment.written),
                ?_, ?_, free.between noLetter noLetter⟩
            · rw [← spelled]
              simp [Fragment.written, Part.written, rawShape]
            · simp [Token.moved]
              omega
        | _ => cases inPart
termination_by text.length

/--
Where a keyword occurs in a text outside of its strings, the text has it as a token in this place
exactly if no name goes on before or after it.  And wherever a keyword is among the tokens, in an
interpolation or not, it occurs in the text in this way.
-/
theorem keyword_mem_iff
    {dialect : Dialect}
    {text : String}
    {tokens : List Token}
    {name : List Char}
    {kind : Kind}
    (reads : tokenize dialect text = .ok tokens)
    (keyword : Keyword name kind) :
    (∀ before after,
        text.toList = before ++ name ++ after →
          (∀ token ∈ tokens,
            token.kind = .string →
              token.span.stop ≤ before.length ∨
                before.length + name.length ≤ token.span.start) →
            (⟨kind, ⟨before.length, before.length + name.length⟩, none⟩ ∈ tokens ↔
              Freestanding before after)) ∧
      ∀ token ∈ tokens,
        token.kind = kind →
          ∃ before after,
            text.toList = before ++ name ++ after ∧
              token = ⟨kind, ⟨before.length, before.length + name.length⟩, none⟩ ∧
              Freestanding before after := by
  refine ⟨?_, fun token => exists_freestanding_of_tokenize keyword reads⟩
  intro before after shape outside
  constructor
  · intro member
    obtain ⟨front, back, other, same, free⟩ :=
      exists_freestanding_of_tokenize keyword reads member rfl
    have sameStart : before.length = front.length := by
      simpa using same
    rw [shape, List.append_assoc, List.append_assoc] at other
    obtain ⟨rfl, others⟩ := List.append_inj other sameStart
    rwa [List.append_cancel_left others]
  · intro free
    obtain ⟨fragments, runs, lawful, spelled, rfl⟩ := exists_fragments_of_tokenize reads
    have parted := Account.parted_of_runs (Account.parted_ofText _) runs
    exact
      Fragment.mem_layout_of_free lawful.sound (fun _ => wordlike_of_runs runs) parted keyword
        (spelled.trans shape) outside free

/-- Keywords after a longer name and an escaped quote, in a string, and in an interpolation. -/
theorem keyword_mem_iff_mixed :
    Freestanding "xif \\\"".toList " 'if' \"\x60try\x60\"".toList ∧
      ¬ Freestanding "x".toList " \\\"if 'if' \"\x60try\x60\"".toList ∧
      ∃ before after,
        "xif \\\"if 'if' \"\x60try\x60\"".toList = before ++ ['t', 'r', 'y'] ++ after ∧
          before.length = 16 ∧
          Freestanding before after := by
  have reads :
      tokenize .usual "xif \\\"if 'if' \"\x60try\x60\"" =
        .ok
          [⟨.word, ⟨0, 3⟩, some "xif"⟩, ⟨.word, ⟨4, 6⟩, some "\\\""⟩, ⟨.ifKeyword, ⟨6, 8⟩, none⟩,
            ⟨.string, ⟨9, 13⟩, some "if"⟩, ⟨.string, ⟨14, 21⟩, some ""⟩,
            ⟨.tryKeyword, ⟨16, 19⟩, none⟩] := by
    decide +kernel
  have ifListed : Keyword ['i', 'f'] .ifKeyword := ⟨by decide, by decide +kernel⟩
  have tryListed : Keyword ['t', 'r', 'y'] .tryKeyword := ⟨by decide, by decide +kernel⟩
  refine ⟨?_, ?_, ?_⟩
  · exact ((keyword_mem_iff reads ifListed).1 _ _ (by decide) (by decide)).mp (by decide)
  · exact mt ((keyword_mem_iff reads ifListed).1 _ _ (by decide) (by decide)).mpr (by decide)
  · obtain ⟨before, after, shape, same, free⟩ :=
      (keyword_mem_iff reads tryListed).2 ⟨.tryKeyword, ⟨16, 19⟩, none⟩ (by decide) rfl
    refine ⟨before, after, shape, ?_, free⟩
    simp only [Token.mk.injEq, Span.mk.injEq] at same
    exact same.2.1.1.symm

end Brace
