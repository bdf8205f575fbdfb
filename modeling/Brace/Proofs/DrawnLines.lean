import Mathlib.Data.List.DropRight
import Brace.Report.Drawing

namespace Brace

/-!
# Lines of a drawing and lines of a source

A drawing cuts the joined source after more characters than line feeds.  So it counts more lines
than there are as soon as one of these characters stands within a line, and it shows such a line in
parts.  What is shown for an offset is described here by what comes before it and after it.
-/

/-! ## Whitespace at the end -/

namespace Unicode

theorem trimRight_append_blank
    {text blank : List Char}
    (spaces : ∀ c ∈ blank, isSpace c = true) :
    trimRight (text ++ blank) = trimRight text := by
  have dropped : blank.reverse.dropWhile isSpace = [] := by
    rw [List.dropWhile_eq_nil_iff]
    intro c member
    exact spaces c (List.mem_reverse.mp member)
  simp [trimRight, List.dropWhile_append, dropped]

theorem trimRight_append_cons
    {c : Char}
    (front back : List Char)
    (solid : isSpace c = false) :
    trimRight (front ++ c :: back) = front ++ c :: trimRight back := by
  unfold trimRight
  rw [List.reverse_append, List.reverse_cons, List.append_assoc, List.dropWhile_append]
  split
  · rename_i nothing
    rw [List.isEmpty_iff] at nothing
    simp [solid, nothing]
  · simp

/-- What is trimmed is whitespace. -/
theorem exists_blank
    (text : List Char) :
    ∃ blank, text = trimRight text ++ blank ∧ ∀ c ∈ blank, isSpace c = true := by
  refine ⟨(text.reverse.takeWhile isSpace).reverse, ?_, ?_⟩
  · rw [trimRight, ← List.reverse_append, List.takeWhile_append_dropWhile, List.reverse_reverse]
  · intro c member
    exact List.mem_takeWhile_imp (List.mem_reverse.mp member)

theorem mem_of_mem_trimRight
    {text : List Char}
    {c : Char}
    (member : c ∈ trimRight text) :
    c ∈ text := by
  obtain ⟨blank, whole, -⟩ := exists_blank text
  rw [whole]
  exact List.mem_append_left blank member

theorem trimRight_trimRight
    (text : List Char) :
    trimRight (trimRight text) = trimRight text := by
  obtain ⟨blank, whole, spaces⟩ := exists_blank text
  rw [← trimRight_append_blank spaces, ← whole]

end Unicode

namespace SourceLine

/-! ## Where lines end -/

theorem isSpace_of_endsLine
    {c : Char}
    (ends : endsLine c = true) :
    Unicode.isSpace c = true := by
  simp only [endsLine, List.contains_eq_mem, decide_eq_true_eq, List.mem_cons, List.not_mem_nil,
    or_false] at ends
  simp only [Unicode.isSpace, Bool.or_eq_true, Bool.and_eq_true, decide_eq_true_eq]
  omega

theorem endsLine_of_isSpace
    {c : Char}
    (solid : Unicode.isSpace c = false) :
    endsLine c = false := by
  cases ends : endsLine c with
  | false => rfl
  | true =>
      rw [isSpace_of_endsLine ends] at solid
      cases solid

/-- Whether a line of a drawing ends at a character before `next`. -/
def breaksBefore (next : Option Char) (c : Char) : Bool :=
  endsLine c && !(c = '\r' && next == some '\n')

theorem breaksBefore_eq_false
    {next : Option Char}
    {c : Char} :
    breaksBefore next c = false ↔ (endsLine c = true → c = '\r' ∧ next = some '\n') := by
  simp [breaksBefore]

/-- How many lines of a drawing end in a text before `next`. -/
def breaks (next : Option Char) : List Char → Nat
  | [] => 0
  | c :: rest => breaks next rest + if breaksBefore (rest.head?.or next) c then 1 else 0

/-- The beginning of a text up to the first end of a line. -/
def firstPiece : List Char → List Char
  | [] => []
  | c :: rest => if breaksBefore rest.head? c then [c] else c :: firstPiece rest

/--
No line of a drawing ends within a line: a carriage return at its end belongs to the line feed after
it, and none of its other characters ends a line.
-/
def Undivided (line : List Char) : Prop :=
  ∀ front c back, line = front ++ c :: back → endsLine c = true → c = '\r' ∧ back = []

/-- No line ends in a text exactly if at most a return at its end does, before a line feed. -/
theorem breaks_eq_zero_iff
    {next : Option Char}
    {text : List Char} :
    breaks next text = 0 ↔
      ∀ front c back,
        text = front ++ c :: back →
          endsLine c = true → c = '\r' ∧ back = [] ∧ next = some '\n' := by
  induction text with
  | nil => simp [breaks]
  | cons d rest inductionHypothesis =>
      rw [breaks, Nat.add_eq_zero_iff, inductionHypothesis]
      constructor
      · rintro ⟨others, keeps⟩ front c back parted ends
        cases front with
        | cons first front =>
            rw [List.cons_append, List.cons.injEq] at parted
            exact others front c back parted.2 ends
        | nil =>
            cases parted
            have notHere : breaksBefore (rest.head?.or next) d = false := by
              simpa using keeps
            have joined := breaksBefore_eq_false.mp notHere ends
            cases rest with
            | nil => exact ⟨joined.1, rfl, joined.2⟩
            | cons feed rest =>
                -- The line feed after the return would end a line itself.
                have isFeed : feed = '\n' := Option.some.inj joined.2
                subst feed
                exact absurd (others [] '\n' rest rfl (by decide)).1 (by decide)
      · intro all
        refine ⟨fun front c back parted ends => all (d :: front) c back (by simp [parted]) ends, ?_⟩
        have notHere : breaksBefore (rest.head?.or next) d = false := by
          rw [breaksBefore_eq_false]
          intro ends
          obtain ⟨isReturn, rfl, atFeed⟩ := all [] d rest rfl ends
          exact ⟨isReturn, atFeed⟩
        simp [notHere]

theorem breaks_lineFeed_eq_zero_iff
    {line : List Char} :
    breaks (some '\n') line = 0 ↔ Undivided line := by
  simp [breaks_eq_zero_iff, Undivided]

instance (line : List Char) : Decidable (Undivided line) :=
  decidable_of_iff _ breaks_lineFeed_eq_zero_iff

theorem breaks_eq_zero_iff_of_ne
    {c : Char}
    {text : List Char}
    (noFeed : c ≠ '\n') :
    breaks (some c) text = 0 ↔ ∀ d ∈ text, endsLine d = false := by
  rw [breaks_eq_zero_iff]
  constructor
  · intro all d member
    obtain ⟨front, back, parted⟩ := List.mem_iff_append.mp member
    cases ends : endsLine d with
    | false => rfl
    | true => exact absurd (Option.some.inj (all front d back parted ends).2.2) noFeed
  · rintro all front d back rfl ends
    rw [all d (by simp)] at ends
    cases ends

/-! ## Cutting -/

theorem cut_cons
    (start : Nat)
    (line rest : List Char)
    (c : Char) :
    cut start line (c :: rest) =
      if breaksBefore rest.head? c then
        ⟨start, (c :: line).reverse⟩ :: cut (start + line.length + 1) [] rest
      else
        cut start (c :: line) rest := rfl

theorem start_le_of_mem_cut
    {start : Nat}
    {line text : List Char}
    {piece : SourceLine}
    (member : piece ∈ cut start line text) :
    start ≤ piece.start := by
  induction text generalizing start line with
  | nil =>
      rw [cut] at member
      split at member
      · cases member
      · rw [List.mem_singleton.mp member]
  | cons c rest inductionHypothesis =>
      rw [cut_cons] at member
      split at member
      · rcases List.mem_cons.mp member with rfl | later
        · exact Nat.le_refl _
        · have after := inductionHypothesis later
          omega
      · exact inductionHypothesis member

/-- What is cut first is the text up to the first end of a line, and all else begins later. -/
theorem exists_cut_firstPiece
    (start : Nat)
    (line rest : List Char)
    (c : Char) :
    ∃ others,
      cut start line (c :: rest) = ⟨start, line.reverse ++ firstPiece (c :: rest)⟩ :: others ∧
        ∀ piece ∈ others, start + line.length < piece.start := by
  induction rest generalizing c line with
  | nil =>
      rw [cut_cons, firstPiece]
      split
      · exact ⟨_, by simp; rfl, by simp [cut]⟩
      · exact ⟨[], by simp [cut, firstPiece], nofun⟩
  | cons d rest inductionHypothesis =>
      rw [cut_cons, firstPiece]
      split
      · refine ⟨_, by simp; rfl, ?_⟩
        intro piece member
        have after := start_le_of_mem_cut member
        omega
      · obtain ⟨others, cuts, later⟩ := inductionHypothesis (c :: line) d
        refine ⟨others, by simp [cuts], ?_⟩
        intro piece member
        have after := later piece member
        rw [List.length_cons] at after
        omega

/-- The lines that end in the first part of a text are cut off before the second part is read. -/
theorem exists_cut_append
    (start : Nat)
    (line front back : List Char)
    (c : Char) :
    ∃ done next current,
      cut start line (front ++ c :: back) = done ++ cut next current (c :: back) ∧
        done.length = breaks (some c) front ∧
        next + current.length = start + line.length + front.length ∧
        (breaks (some c) front = 0 → next = start ∧ current = front.reverse ++ line) := by
  induction front generalizing start line with
  | nil => exact ⟨[], start, line, rfl, rfl, rfl, fun _ => ⟨rfl, rfl⟩⟩
  | cons d front inductionHypothesis =>
      have head : (front ++ c :: back).head? = front.head?.or (some c) := by
        simp [List.head?_append]
      rw [List.cons_append, cut_cons, head, breaks]
      split
      · obtain ⟨done, next, current, cuts, count, size, -⟩ :=
          inductionHypothesis (start + line.length + 1) []
        refine
          ⟨⟨start, (d :: line).reverse⟩ :: done, next, current, by rw [cuts]; rfl,
            by rw [List.length_cons, count], ?_, by simp⟩
        rw [List.length_nil] at size
        rw [List.length_cons]
        omega
      · obtain ⟨done, next, current, cuts, count, size, whole⟩ :=
          inductionHypothesis start (d :: line)
        refine ⟨done, next, current, cuts, count, ?_, ?_⟩
        · rw [List.length_cons] at size ⊢
          omega
        · intro none
          obtain ⟨same, rest⟩ := whole none
          exact ⟨same, by simp [rest]⟩

/-- Lines with line feeds are cut into as many lines at least, and into more if one is divided. -/
theorem exists_cut_lines
    (start : Nat)
    (earlier : List String)
    (rest : List Char) :
    ∃ done,
      cut start [] (earlier.flatMap (fun line => line.toList ++ ['\n']) ++ rest) =
          done ++
            cut (start + (earlier.flatMap fun line => line.toList ++ ['\n']).length) [] rest ∧
        earlier.length ≤ done.length ∧
        (done.length = earlier.length ↔ ∀ line ∈ earlier, Undivided line.toList) := by
  induction earlier generalizing start with
  | nil => exact ⟨[], rfl, Nat.le_refl _, by simp⟩
  | cons line earlier inductionHypothesis =>
      generalize others : earlier.flatMap (fun line => line.toList ++ ['\n']) = text at *
      obtain ⟨parts, next, current, cuts, count, size, -⟩ :=
        exists_cut_append start [] line.toList (text ++ rest) '\n'
      obtain ⟨done, later, most, same⟩ := inductionHypothesis (next + current.length + 1)
      have atFeed : ∀ next, breaksBefore next '\n' = true := fun _ => by
        simp [breaksBefore, endsLine]
      refine ⟨parts ++ ⟨next, ('\n' :: current).reverse⟩ :: done, ?_, ?_, ?_⟩
      · rw [List.flatMap_cons, others, List.append_assoc, List.append_assoc, List.singleton_append,
          cuts, cut_cons, if_pos (atFeed _), later, List.append_assoc, List.cons_append]
        congr 4
        simp only [List.length_append, List.length_cons, List.length_nil] at size ⊢
        omega
      · simp only [List.length_append, List.length_cons]
        omega
      · rw [List.forall_mem_cons, ← same, ← breaks_lineFeed_eq_zero_iff, ← count]
        simp only [List.length_append, List.length_cons]
        omega

/-! ## The line of an offset -/

theorem holding_append
    {offset : Nat}
    {done others : List SourceLine}
    {piece : SourceLine}
    (here : piece.start ≤ offset)
    (later : ∀ other ∈ others, offset < other.start) :
    holding offset (done ++ piece :: others) = some (piece, done.length) := by
  have none :
      ((others.zipIdx (done.length + 1)).filter fun line => line.1.start ≤ offset) = [] := by
    rw [List.filter_eq_nil_iff]
    rintro ⟨other, index⟩ member
    have after := later other (List.fst_mem_of_mem_zipIdx member)
    simpa using after
  simp [holding, List.zipIdx_append, List.zipIdx_cons, List.filter_append, here, none]

/--
The line of a drawing that holds a character is not counted too low, and is counted right exactly if
no line before it is divided and no line ends between its beginning and the character.
-/
theorem exists_holding
    {c : Char}
    (earlier : List String)
    (front back : List Char)
    (noFeed : c ≠ '\n') :
    ∃ piece number,
      holding ((earlier.flatMap fun line => line.toList ++ ['\n']).length + front.length)
            (ofSource
              (earlier.flatMap (fun line => line.toList ++ ['\n']) ++ (front ++ c :: back))) =
          some (piece, number) ∧
        earlier.length ≤ number ∧
        (number = earlier.length ↔
          (∀ line ∈ earlier, Undivided line.toList) ∧ ∀ d ∈ front, endsLine d = false) ∧
        (number = earlier.length → piece.text = front ++ firstPiece (c :: back)) := by
  obtain ⟨done, cutLines, most, same⟩ := exists_cut_lines 0 earlier (front ++ c :: back)
  rw [Nat.zero_add] at cutLines
  generalize earlier.flatMap (fun line => line.toList ++ ['\n']) = text at *
  obtain ⟨parts, next, current, cutFront, count, size, whole⟩ :=
    exists_cut_append text.length [] front back c
  obtain ⟨others, cutPiece, later⟩ := exists_cut_firstPiece next current back c
  have filled : (text ++ (front ++ c :: back)).isEmpty = false := by
    simp
  have pieces :
      ofSource (text ++ (front ++ c :: back)) =
        (done ++ parts) ++ ⟨next, current.reverse ++ firstPiece (c :: back)⟩ :: others := by
    rw [ofSource, filled, cutLines, cutFront, cutPiece, List.append_assoc]
    rfl
  rw [List.length_nil, Nat.add_zero] at size
  have number : (done ++ parts).length = earlier.length ↔
      done.length = earlier.length ∧ breaks (some c) front = 0 := by
    rw [List.length_append, ← count]
    omega
  have held :
      holding (text.length + front.length) (ofSource (text ++ (front ++ c :: back))) =
        some (⟨next, current.reverse ++ firstPiece (c :: back)⟩, (done ++ parts).length) := by
    rw [pieces]
    refine holding_append ?_ ?_
    · dsimp only
      omega
    · rw [← size]
      exact later
  refine ⟨_, _, held, ?_, ?_, ?_⟩
  · rw [List.length_append]
    omega
  · rw [number, same, breaks_eq_zero_iff_of_ne noFeed]
  · intro right
    obtain ⟨-, rest⟩ := whole (number.mp right).2
    simp [rest]

/-! ## The text of a line -/

theorem firstPiece_append
    {body : List Char}
    (whole : ∀ c ∈ body, endsLine c = false)
    (rest : List Char) :
    firstPiece (body ++ rest) = body ++ firstPiece rest := by
  induction body with
  | nil => rfl
  | cons c body inductionHypothesis =>
      rw [List.forall_mem_cons] at whole
      rw [List.cons_append, firstPiece, inductionHypothesis whole.2]
      simp [breaksBefore, whole.1]

/-- A line is a text in which no line ends, and whitespace. -/
theorem exists_firstPiece
    (text : List Char) :
    ∃ body blank,
      firstPiece text = body ++ blank ∧
        (∀ c ∈ body, endsLine c = false) ∧
        ∀ c ∈ blank, Unicode.isSpace c = true := by
  induction text with
  | nil => exact ⟨[], [], rfl, nofun, nofun⟩
  | cons c rest inductionHypothesis =>
      rw [firstPiece]
      split
      · rename_i breaksHere
        rw [breaksBefore, Bool.and_eq_true] at breaksHere
        exact ⟨[], [c], rfl, nofun, by simp [isSpace_of_endsLine breaksHere.1]⟩
      · rename_i goesOn
        cases ends : endsLine c with
        | false =>
            obtain ⟨body, blank, parted, whole, spaces⟩ := inductionHypothesis
            refine ⟨c :: body, blank, by rw [parted]; rfl, ?_, spaces⟩
            rw [List.forall_mem_cons]
            exact ⟨ends, whole⟩
        | true =>
            -- A return before a line feed, which ends the line.
            obtain ⟨isReturn, atFeed⟩ := breaksBefore_eq_false.mp (by simpa using goesOn) ends
            obtain ⟨rest, rfl⟩ := List.head?_eq_some_iff.mp atFeed
            subst isReturn
            refine ⟨[], ['\r', '\n'], ?_, nofun, ?_⟩
            · simp [firstPiece, breaksBefore, endsLine]
            · simp [Unicode.isSpace]

theorem firstPiece_blank
    {blank rest : List Char}
    (spaces : ∀ c ∈ blank, Unicode.isSpace c = true)
    (atEnd : rest = [] ∨ rest.head? = some '\n') :
    ∀ c ∈ firstPiece (blank ++ rest), Unicode.isSpace c = true := by
  induction blank with
  | nil =>
      rcases atEnd with rfl | atFeed
      · exact nofun
      · obtain ⟨rest, rfl⟩ := List.head?_eq_some_iff.mp atFeed
        simp [firstPiece, breaksBefore, endsLine, Unicode.isSpace]
  | cons c blank inductionHypothesis =>
      rw [List.forall_mem_cons] at spaces
      rw [List.cons_append, firstPiece]
      split
      · simpa using spaces.1
      · rw [List.forall_mem_cons]
        exact ⟨spaces.1, inductionHypothesis spaces.2⟩

/-- A text is shown whole exactly if no line ends in it before the whitespace at its end. -/
theorem trimRight_firstPiece_iff
    {text rest : List Char}
    (atEnd : rest = [] ∨ rest.head? = some '\n') :
    Unicode.trimRight (firstPiece (text ++ rest)) = Unicode.trimRight text ↔
      ∀ c ∈ Unicode.trimRight text, endsLine c = false := by
  constructor
  · intro shown
    obtain ⟨body, blank, parted, whole, spaces⟩ := exists_firstPiece (text ++ rest)
    rw [← shown, parted, Unicode.trimRight_append_blank spaces]
    intro c member
    exact whole c (Unicode.mem_of_mem_trimRight member)
  · intro whole
    obtain ⟨blank, parted, spaces⟩ := Unicode.exists_blank text
    have same :
        firstPiece (text ++ rest) = Unicode.trimRight text ++ firstPiece (blank ++ rest) := by
      rw [← firstPiece_append whole, ← List.append_assoc, ← parted]
    rw [same, Unicode.trimRight_append_blank (firstPiece_blank spaces atEnd),
      Unicode.trimRight_trimRight]

/-- A line with a character that is not whitespace is shown whole if its end after this one is. -/
theorem trimRight_append_firstPiece_iff
    {c : Char}
    {rest : List Char}
    (front back : List Char)
    (solid : Unicode.isSpace c = false)
    (atEnd : rest = [] ∨ rest.head? = some '\n') :
    Unicode.trimRight (front ++ firstPiece (c :: (back ++ rest))) =
        Unicode.trimRight (front ++ c :: back) ↔
      ∀ d ∈ Unicode.trimRight back, endsLine d = false := by
  have goesOn : breaksBefore (back ++ rest).head? c = false :=
    breaksBefore_eq_false.mpr fun ends => by
      rw [endsLine_of_isSpace solid] at ends
      cases ends
  rw [firstPiece, goesOn, if_neg Bool.false_ne_true, Unicode.trimRight_append_cons _ _ solid,
    Unicode.trimRight_append_cons _ _ solid, List.append_cancel_left_eq, List.cons.injEq,
    and_iff_right rfl, trimRight_firstPiece_iff atEnd]

end SourceLine

end Brace
