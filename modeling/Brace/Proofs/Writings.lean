import Mathlib.Logic.Function.Basic
import Brace.Listing

namespace Brace.Text

/-!
# Writings that can be read back

Numbers, quoted texts and JSON strings tell what was written, whatever comes after them.  A number
ends where its digits do.  In a text between quotes each character is written as itself, as a
backslash with a letter, or as a backslash with its code point, and none of these begins another.
-/

/-- What is written of a value tells the value, whatever comes after it. -/
def SelfDelimiting (write : α → List Char) : Prop :=
  ∀ first second rest others,
    write first ++ rest = write second ++ others →
      first = second

/-- Texts whose first characters are of a class, and the next one is not, agree piece by piece. -/
theorem append_inj_of_class
    {isIn : Char → Bool}
    {first second rest others : List Char}
    (firstInside : ∀ c ∈ first, isIn c = true)
    (secondInside : ∀ c ∈ second, isIn c = true)
    (stops : rest.head?.any isIn = false)
    (otherStops : others.head?.any isIn = false)
    (same : first ++ rest = second ++ others) :
    first = second ∧ rest = others := by
  have taken :
      ∀ {before after : List Char},
        (∀ c ∈ before, isIn c = true) →
          after.head?.any isIn = false →
            (before ++ after).takeWhile isIn = before := by
    intro before after inside ends
    rw [List.takeWhile_append_of_pos inside]
    cases after with
    | nil => simp
    | cons c after => simp_all
  have firsts : first = second := by
    rw [← taken firstInside stops, same, taken secondInside otherStops]
  subst firsts
  exact ⟨rfl, List.append_cancel_left same⟩

theorem SelfDelimiting.append_inj
    {write : α → List Char}
    {first second : α}
    {rest others : List Char}
    (delimits : SelfDelimiting write)
    (same : write first ++ rest = write second ++ others) :
    first = second ∧ rest = others := by
  obtain rfl := delimits _ _ _ _ same
  exact ⟨rfl, List.append_cancel_left same⟩

/-- Values that are written one after the other, up to a mark that begins none of them. -/
theorem SelfDelimiting.flatMap_append_inj
    {write : α → List Char}
    {mark : Char}
    {first second : List α}
    {rest others : List Char}
    (delimits : SelfDelimiting write)
    (opens : ∀ value, ∃ c more, write value = c :: more ∧ c ≠ mark)
    (same : first.flatMap write ++ mark :: rest = second.flatMap write ++ mark :: others) :
    first = second ∧ rest = others := by
  induction first generalizing second with
  | nil =>
      cases second with
      | nil => simpa using same
      | cons value second =>
          obtain ⟨c, more, written, other⟩ := opens value
          simp [written, Ne.symm other] at same
  | cons value first inductionHypothesis =>
      cases second with
      | nil =>
          obtain ⟨c, more, written, other⟩ := opens value
          simp [written, other] at same
      | cons otherValue second =>
          rw [List.flatMap_cons, List.flatMap_cons, List.append_assoc, List.append_assoc] at same
          obtain ⟨rfl, remaining⟩ := delimits.append_inj same
          obtain ⟨rfl, rests⟩ := inductionHypothesis remaining
          exact ⟨rfl, rests⟩

/-! ## Numbers -/

theorem digitChar_inj
    {first second : Nat}
    (firstSmall : first < 16)
    (secondSmall : second < 16)
    (same : Nat.digitChar first = Nat.digitChar second) :
    first = second := by
  have all : ∀ first < 16, ∀ second < 16, first.digitChar = second.digitChar → first = second := by
    decide
  exact all first firstSmall second secondSmall same

/-- A number is told by its digits. -/
theorem toDigits_inj
    {base : Nat}
    (large : 1 < base)
    (small : base ≤ 16)
    {first second : Nat}
    (same : Nat.toDigits base first = Nat.toDigits base second) :
    first = second := by
  -- The induction takes the last digit away.
  induction first using Nat.strongRecOn generalizing second with
  | _ first inductionHypothesis =>
      rw [Nat.toDigits_eq_if large, @Nat.toDigits_eq_if base second large] at same
      by_cases short : first < base
      · by_cases otherShort : second < base
        · rw [if_pos short, if_pos otherShort, List.singleton_inj] at same
          exact digitChar_inj (by omega) (by omega) same
        · rw [if_pos short, if_neg otherShort] at same
          have lengths := congrArg List.length same
          simp [Nat.toDigits_ne_nil] at lengths
      · by_cases otherShort : second < base
        · rw [if_neg short, if_pos otherShort] at same
          have lengths := congrArg List.length same
          simp [Nat.toDigits_ne_nil] at lengths
        · rw [if_neg short, if_neg otherShort] at same
          obtain ⟨leading, last⟩ := List.append_inj' same rfl
          have quotients : first / base = second / base :=
            inductionHypothesis _ (Nat.div_lt_self (by omega) large) leading
          have positive : 0 < base := by omega
          have remainders : first % base = second % base :=
            digitChar_inj (Nat.lt_of_lt_of_le (Nat.mod_lt first positive) small)
              (Nat.lt_of_lt_of_le (Nat.mod_lt second positive) small) (List.singleton_inj.mp last)
          rw [← Nat.div_add_mod first base, quotients, remainders, Nat.div_add_mod]

theorem exists_digitChar_of_mem_toDigits
    {base : Nat}
    (large : 1 < base)
    {number : Nat}
    {c : Char}
    (member : c ∈ Nat.toDigits base number) :
    ∃ digit < base, c = digit.digitChar := by
  induction number using Nat.strongRecOn with
  | _ number inductionHypothesis =>
      rw [Nat.toDigits_eq_if large] at member
      split at member
      · rename_i short
        exact ⟨number, short, List.mem_singleton.mp member⟩
      · rcases List.mem_append.mp member with leading | last
        · exact inductionHypothesis _ (Nat.div_lt_self (by omega) large) leading
        · exact ⟨number % base, Nat.mod_lt number (by omega), List.mem_singleton.mp last⟩

theorem isDigit_of_mem_toString
    {number : Nat}
    {c : Char}
    (member : c ∈ (toString number).toList) :
    c.isDigit = true := by
  rw [Nat.toString_eq_repr, Nat.toList_repr] at member
  exact Nat.isDigit_of_mem_toDigits (by decide) (by decide) member

theorem lineFeed_not_mem_toString
    (number : Nat) :
    '\n' ∉ (toString number).toList :=
  fun inside => absurd (isDigit_of_mem_toString inside) (by decide)

/-- A decimal number ends where its digits do. -/
theorem toString_append_inj
    {first second : Nat}
    {rest others : List Char}
    (stops : rest.head?.any Char.isDigit = false)
    (otherStops : others.head?.any Char.isDigit = false)
    (same : (toString first).toList ++ rest = (toString second).toList ++ others) :
    first = second ∧ rest = others := by
  obtain ⟨numbers, rests⟩ :=
    append_inj_of_class (fun _ => isDigit_of_mem_toString) (fun _ => isDigit_of_mem_toString)
      stops otherStops same
  rw [Nat.toString_eq_repr, Nat.toString_eq_repr, Nat.toList_repr, Nat.toList_repr] at numbers
  exact ⟨toDigits_inj (by decide) (by decide) numbers, rests⟩

/-! ## Characters between quotes -/

/--
How a character is written between double quotes: as itself, as a backslash with a letter that
stands for it, or as a backslash with its code point.
-/
inductive Escapes (standsFor : Char → Option Char) (numbered : Char → Option (List Char))
    (c : Char) : List Char → Prop
  | plain
      (noBackslash : c ≠ '\\')
      (noQuote : c ≠ '"')
      (noLineFeed : c ≠ '\n') :
      Escapes standsFor numbered c [c]
  | lettered {letter}
      (stands : standsFor letter = some c) :
      Escapes standsFor numbered c ['\\', letter]
  | numbered {digits}
      (numbers : numbered c = some digits) :
      Escapes standsFor numbered c ('\\' :: 'u' :: digits)

section

variable
  {standsFor : Char → Option Char}
  {numbered : Char → Option (List Char)}
  {write : Char → List Char}

/-- Escapes tell their characters if `u` is no letter for one, and code points tell theirs. -/
theorem SelfDelimiting.of_escapes
    (escapes : ∀ c, Escapes standsFor numbered c (write c))
    (free : standsFor 'u' = none)
    (numbers :
      ∀ first second digits others rest otherRest,
        numbered first = some digits →
          numbered second = some others →
            digits ++ rest = others ++ otherRest →
              first = second) :
    SelfDelimiting write := by
  intro first second rest others same
  have firstEscapes := escapes first
  have secondEscapes := escapes second
  generalize write first = written at firstEscapes same
  generalize write second = otherWritten at secondEscapes same
  cases firstEscapes with
  | plain noBackslash =>
      cases secondEscapes with
      | plain => simpa using (List.cons_eq_cons.mp same).1
      | lettered => simp [noBackslash] at same
      | numbered => simp [noBackslash] at same
  | lettered stands =>
      cases secondEscapes with
      | plain noBackslash => simp [Ne.symm noBackslash] at same
      | lettered otherStands =>
          obtain ⟨rfl, _⟩ : _ = _ ∧ rest = others := by
            simpa using same
          rw [stands] at otherStands
          exact Option.some.inj otherStands
      | numbered =>
          obtain ⟨rfl, _⟩ : _ = 'u' ∧ _ := by
            simpa using same
          rw [stands] at free
          cases free
  | numbered isNumbered =>
      cases secondEscapes with
      | plain noBackslash => simp [Ne.symm noBackslash] at same
      | lettered otherStands =>
          obtain ⟨rfl, _⟩ : 'u' = _ ∧ _ := by
            simpa using same
          rw [otherStands] at free
          cases free
      | numbered otherNumbered =>
          refine numbers _ _ _ _ rest others isNumbered otherNumbered ?_
          simpa using same

/-- A character that has a letter of its own is written with it, any other one in another way. -/
theorem Escapes.ite
    {c meant letter : Char}
    {written : List Char}
    (stands : standsFor letter = some meant)
    (otherwise : c ≠ meant → Escapes standsFor numbered c written) :
    Escapes standsFor numbered c (if c = meant then ['\\', letter] else written) := by
  split
  · rename_i same
    subst same
    exact .lettered stands
  · rename_i other
    exact otherwise other

/-- No escape begins with a double quote. -/
theorem Escapes.opens
    {c : Char}
    {written : List Char}
    (escapes : Escapes standsFor numbered c written) :
    ∃ first more, written = first :: more ∧ first ≠ '"' := by
  cases escapes with
  | plain _ noQuote _ => exact ⟨_, _, rfl, noQuote⟩
  | lettered => exact ⟨_, _, rfl, by decide⟩
  | numbered => exact ⟨_, _, rfl, by decide⟩

/-- No escape holds a line feed if no letter and no code point is written with one. -/
theorem Escapes.lineFeed_not_mem
    {c : Char}
    {written : List Char}
    (escapes : Escapes standsFor numbered c written)
    (letters : standsFor '\n' = none)
    (digits : ∀ c written, numbered c = some written → '\n' ∉ written) :
    '\n' ∉ written := by
  cases escapes with
  | plain _ _ noLineFeed => simpa using Ne.symm noLineFeed
  | @lettered letter stands =>
      have other : '\n' ≠ letter := by
        rintro rfl
        rw [stands] at letters
        cases letters
      simpa using other
  | numbered numbers => simpa using digits _ _ numbers

end

namespace Quoted

/-- The characters that have a letter of their own after a backslash. -/
def standsFor : Char → Option Char
  | '0' => some '\x00'
  | 't' => some '\t'
  | 'r' => some '\r'
  | 'n' => some '\n'
  | '\\' => some '\\'
  | '"' => some '"'
  | _ => none

/-- A code point after the letter for it. -/
def numbered (c : Char) : Option (List Char) :=
  some ('{' :: Nat.toDigits 16 c.toNat ++ ['}'])

theorem ne_of_mem_toDigits
    {number : Nat}
    {c : Char}
    (member : c ∈ Nat.toDigits 16 number) :
    c ≠ '}' ∧ c ≠ '\n' := by
  obtain ⟨digit, small, rfl⟩ := exists_digitChar_of_mem_toDigits (by decide) member
  have all : ∀ digit < 16, digit.digitChar ≠ '}' ∧ digit.digitChar ≠ '\n' := by
    decide
  exact all digit small

theorem escapes
    (hidden : Char → Bool)
    (c : Char) :
    Escapes standsFor numbered c (escapeHiding hidden '"' c) := by
  refine .ite rfl fun _ => .ite rfl fun _ => .ite rfl fun _ => ?_
  refine .ite rfl fun noLineFeed => .ite rfl fun noBackslash => .ite rfl fun noQuote => ?_
  split
  · exact .numbered rfl
  · exact .plain noBackslash noQuote noLineFeed

theorem selfDelimiting_escape
    (hidden : Char → Bool) :
    SelfDelimiting (escapeHiding hidden '"') := by
  refine .of_escapes (escapes hidden) rfl ?_
  intro first second digits others rest otherRest isNumbered otherNumbered same
  cases isNumbered
  cases otherNumbered
  have others :
      ∀ c : Char, ∀ digit ∈ Nat.toDigits 16 c.toNat, (digit != '}') = true := by
    intro c digit member
    simpa using (ne_of_mem_toDigits member).1
  have inner :
      Nat.toDigits 16 first.toNat ++ '}' :: rest =
        Nat.toDigits 16 second.toNat ++ '}' :: otherRest := by
    simpa using same
  have digits := (append_inj_of_class (others first) (others second) rfl rfl inner).1
  exact Char.toNat_inj.mp (toDigits_inj (by decide) (by decide) digits)

/-- A quoted text tells the text, whatever is hidden and whatever comes after it. -/
theorem selfDelimiting_textHiding
    (hidden : Char → Bool) :
    SelfDelimiting fun text => (textHiding hidden text).toList := by
  intro first second rest others same
  simp only [textHiding, String.toList_ofList, List.cons_append, List.append_assoc,
    List.nil_append, List.cons.injEq, true_and] at same
  have texts :=
    (selfDelimiting_escape hidden).flatMap_append_inj (fun c => (escapes hidden c).opens) same
  exact String.toList_injective texts.1

theorem lineFeed_not_mem_textHiding
    (hidden : Char → Bool)
    (text : String) :
    '\n' ∉ (textHiding hidden text).toList := by
  have noNumber : ∀ c written, numbered c = some written → '\n' ∉ written := by
    intro c written numbers inside
    cases numbers
    have digit : '\n' ∈ Nat.toDigits 16 c.toNat := by
      simpa using inside
    exact (ne_of_mem_toDigits digit).2 rfl
  have each : ∀ c ∈ text.toList, '\n' ∉ escapeHiding hidden '"' c :=
    fun c _ => (escapes hidden c).lineFeed_not_mem rfl noNumber
  simpa [textHiding] using each

end Quoted

namespace Json

/-- The characters that have a letter of their own after a backslash. -/
def standsFor : Char → Option Char
  | '"' => some '"'
  | '\\' => some '\\'
  | 'n' => some '\n'
  | 'r' => some '\r'
  | 't' => some '\t'
  | 'b' => some '\x08'
  | 'f' => some '\x0c'
  | _ => none

/-- A code point after the letter for it, which only control characters are written with. -/
def numbered (c : Char) : Option (List Char) :=
  if c.toNat < 0x20 then
    some ['0', '0', Nat.digitChar (c.toNat / 16), Nat.digitChar (c.toNat % 16)]
  else
    none

theorem escapes
    (c : Char) :
    Escapes standsFor numbered c (escape c) := by
  refine .ite rfl fun noQuote => .ite rfl fun noBackslash => .ite rfl fun noLineFeed => ?_
  refine .ite rfl fun _ => .ite rfl fun _ => .ite rfl fun _ => .ite rfl fun _ => ?_
  split
  · rename_i small
    exact .numbered (by rw [numbered, if_pos small])
  · exact .plain noBackslash noQuote noLineFeed

theorem selfDelimiting_escape : SelfDelimiting escape := by
  refine .of_escapes escapes rfl ?_
  intro first second digits others rest otherRest isNumbered otherNumbered same
  rw [numbered, Option.ite_none_right_eq_some, Option.some.injEq] at isNumbered otherNumbered
  obtain ⟨small, rfl⟩ := isNumbered
  obtain ⟨otherSmall, rfl⟩ := otherNumbered
  obtain ⟨high, low, _⟩ :
      Nat.digitChar (first.toNat / 16) = Nat.digitChar (second.toNat / 16) ∧
        Nat.digitChar (first.toNat % 16) = Nat.digitChar (second.toNat % 16) ∧
        rest = otherRest := by
    simpa using same
  have quotients := digitChar_inj (by omega) (by omega) high
  have remainders := digitChar_inj (by omega) (by omega) low
  exact Char.toNat_inj.mp (by omega)

/-- A JSON string tells the text, whatever comes after it. -/
theorem selfDelimiting_string : SelfDelimiting fun text => (string text).toList := by
  intro first second rest others same
  simp only [string, String.toList_ofList, List.cons_append, List.append_assoc,
    List.nil_append, List.cons.injEq, true_and] at same
  exact
    String.toList_injective
      (selfDelimiting_escape.flatMap_append_inj (fun c => (escapes c).opens) same).1

theorem lineFeed_not_mem_string
    (text : String) :
    '\n' ∉ (string text).toList := by
  have noNumber : ∀ c written, numbered c = some written → '\n' ∉ written := by
    intro c written numbers
    rw [numbered, Option.ite_none_right_eq_some, Option.some.injEq] at numbers
    obtain ⟨_, rfl⟩ := numbers
    simp
  have each : ∀ c ∈ text.toList, '\n' ∉ escape c :=
    fun c _ => (escapes c).lineFeed_not_mem rfl noNumber
  simpa [string] using each

end Json

end Brace.Text
