import Mathlib.Data.Set.List
import Brace.Proofs.Files
import Brace.Proofs.Lines

namespace Brace.Unicode

/-- A text that ends in no whitespace keeps its last character when it is trimmed. -/
theorem trim_concat
    {text : List Char}
    {c : Char}
    (solid : isSpace c = false) :
    trim (text ++ [c]) = trimLeft text ++ [c] := by
  have left : trimLeft (text ++ [c]) = trimLeft text ++ [c] := by
    unfold trimLeft
    rw [List.dropWhile_append]
    split
    · rename_i spaces
      simp [List.isEmpty_iff.mp spaces, solid]
    · rfl
  simp [trim, left, trimRight, solid]

end Brace.Unicode

namespace Brace.CommandLine.Prompt

/-!
# Entries at the prompt

The lines of a session fall into entries: all lines of an entry but the last one are typed with a
backslash at their end.  The session lists each entry as a source of its own.  What is left of the
lines is an entry that never ends, or begins with the line that asks to quit.
-/

open Emission

/-- Whether a line is typed to be continued by the next one. -/
def continues (line : String) : Bool :=
  line.toList.getLast? == some '\\'

@[simp] theorem continues_push
    (line : String) :
    continues (line.push '\\') = true := by
  simp [continues]

@[simp] theorem continued?_push
    (line : String) :
    continued? (line.push '\\') = some line := by
  simp [continued?]

theorem continued?_eq_none
    {line : String}
    (ends : continues line = false) :
    continued? line = none :=
  if_neg (ne_true_of_eq_false ends)

/-- A line that is continued is some line with a backslash after it. -/
theorem exists_of_continues
    {line : String}
    (goesOn : continues line = true) :
    ∃ kept : String, line = kept.push '\\' := by
  have last : line.toList.getLast? = some '\\' := by
    simpa [continues] using goesOn
  obtain ⟨kept, shape⟩ := List.getLast?_eq_some_iff.mp last
  refine ⟨String.ofList kept, ?_⟩
  apply String.toList_injective
  simp [shape]

/-- A line that is continued does not ask to quit. -/
theorem isQuit_push
    (line : String) :
    isQuit (line.push '\\') = false := by
  have trimmed : Unicode.trim (line.push '\\').toList = Unicode.trimLeft line.toList ++ ['\\'] := by
    rw [String.toList_push]
    exact Unicode.trim_concat (by decide)
  have other :
      ∀ word : String,
        word.toList.getLast? ≠ some '\\' →
          String.ofList (Unicode.trimLeft line.toList ++ ['\\']) ≠ word := by
    rintro word differs rfl
    simp at differs
  simp only [isQuit, trimmed, Bool.or_eq_false_iff, beq_eq_false_iff_ne]
  exact ⟨other ":quit" (by decide), other ":q" (by decide)⟩

/-- Lines that are typed as one entry. -/
structure Entry where
  /-- The lines that are continued, without the backslashes at their ends. -/
  continued : List String
  last : String
  ends : continues last = false

namespace Entry

/-- The lines of an entry, as they are tokenized. -/
def lines (entry : Entry) : List String :=
  entry.continued ++ [entry.last]

/-- The lines of an entry, as they are typed. -/
def typed (entry : Entry) : List String :=
  entry.continued.map (fun line => line.push '\\') ++ [entry.last]

/-- An entry as a source. -/
def source (entry : Entry) : Source :=
  ⟨"<repl>", entry.lines⟩

end Entry

/-- What is left of the lines of a session when all entries have ended. -/
inductive Leftover : List String → Prop
  /-- An entry that does not end, or nothing at all. -/
  | unfinished {lines}
      (goesOn : ∀ line ∈ lines, continues line = true) :
      Leftover lines
  /-- The line that asks to quit, in place of an entry, and all that comes after it. -/
  | quit {line lines}
      (asks : isQuit line = true) :
      Leftover (line :: lines)

/-- The lines of a session fall into some entries. -/
structure Cut (lines : List String) (entries : List Entry) (left : List String) : Prop where
  whole : lines = entries.flatMap Entry.typed ++ left
  wanted : ∀ entry ∈ entries, entry.typed.head?.any isQuit = false
  leftover : Leftover left

/-! ## One way to cut -/

/-- Typed lines tell where an entry ends and which lines it has. -/
theorem Entry.typed_append_inj
    {first second : Entry}
    {rest others : List String}
    (same : first.typed ++ rest = second.typed ++ others) :
    first = second ∧ rest = others := by
  obtain ⟨continued, last, ends⟩ := first
  obtain ⟨otherContinued, otherLast, otherEnds⟩ := second
  simp only [typed, List.append_assoc, List.singleton_append] at same
  induction continued generalizing otherContinued with
  | nil =>
      cases otherContinued with
      | nil => simpa using same
      | cons line otherContinued =>
          obtain ⟨rfl, _⟩ := List.cons.inj same
          simp at ends
  | cons line continued inductionHypothesis =>
      cases otherContinued with
      | nil =>
          obtain ⟨rfl, _⟩ := List.cons.inj same
          simp at otherEnds
      | cons otherLine otherContinued =>
          obtain ⟨sameLine, sameRest⟩ := List.cons.inj same
          have lines : line = otherLine := by
            apply String.toList_injective
            simpa using congrArg String.toList sameLine
          obtain ⟨sameEntry, sameLeft⟩ := inductionHypothesis otherContinued sameRest
          simp only [mk.injEq] at sameEntry
          simp [lines, sameEntry, sameLeft]

/-- What is left over does not begin with an entry that could be cut off. -/
theorem Leftover.not_typed_append
    {entry : Entry}
    {rest : List String}
    (wanted : entry.typed.head?.any isQuit = false) :
    ¬ Leftover (entry.typed ++ rest) := by
  intro leftover
  generalize shape : entry.typed ++ rest = left at leftover
  cases leftover with
  | unfinished goesOn =>
      have ends := goesOn entry.last (by simp [← shape, Entry.typed])
      rw [entry.ends] at ends
      cases ends
  | @quit line lines asks =>
      have nonempty : entry.typed ≠ [] := by
        simp [Entry.typed]
      have first : (entry.typed ++ rest).head? = some line := by
        rw [shape, List.head?_cons]
      rw [List.head?_append_of_ne_nil _ nonempty] at first
      rw [first, Option.any_some, asks] at wanted
      cases wanted

theorem Cut.unique
    {lines left otherLeft : List String}
    {entries others : List Entry}
    (cut : Cut lines entries left)
    (other : Cut lines others otherLeft) :
    others = entries ∧ otherLeft = left := by
  obtain ⟨rfl, wanted, leftover⟩ := cut
  obtain ⟨same, otherWanted, otherLeftover⟩ := other
  induction entries generalizing others with
  | nil =>
      cases others with
      | nil => exact ⟨rfl, same.symm⟩
      | cons other others =>
          rw [List.flatMap_nil, List.nil_append, List.flatMap_cons, List.append_assoc] at same
          rw [same] at leftover
          exact absurd leftover (Leftover.not_typed_append (otherWanted other (by simp)))
  | cons entry entries inductionHypothesis =>
      cases others with
      | nil =>
          rw [List.flatMap_nil, List.nil_append, List.flatMap_cons, List.append_assoc] at same
          rw [← same] at otherLeftover
          exact absurd otherLeftover (Leftover.not_typed_append (wanted entry (by simp)))
      | cons other others =>
          rw [List.flatMap_cons, List.flatMap_cons, List.append_assoc, List.append_assoc] at same
          obtain ⟨rfl, sameRest⟩ := Entry.typed_append_inj same
          obtain ⟨rfl, rfl⟩ :=
            inductionHypothesis (fun e member => wanted e (by simp [member])) sameRest
              fun e member => otherWanted e (by simp [member])
          exact ⟨rfl, rfl⟩

/-- Lines after the continued lines of an entry fall into entries. -/
theorem exists_cut_continued
    (held lines : List String) :
    ∃ entries left, Cut (held.map (fun line => line.push '\\') ++ lines) entries left := by
  induction lines generalizing held with
  | nil =>
      refine ⟨[], held.map fun line => line.push '\\', by simp, by simp, .unfinished ?_⟩
      simp
  | cons line lines inductionHypothesis =>
      cases ends : continues line with
      | true =>
          obtain ⟨kept, rfl⟩ := exists_of_continues ends
          simpa using inductionHypothesis (held ++ [kept])
      | false =>
          by_cases asks : held = [] ∧ isQuit line = true
          · obtain ⟨rfl, asks⟩ := asks
            exact ⟨[], line :: lines, rfl, by simp, .quit asks⟩
          · obtain ⟨entries, left, whole, wanted, leftover⟩ := inductionHypothesis []
            rw [List.map_nil, List.nil_append] at whole
            refine ⟨⟨held, line, ends⟩ :: entries, left, ?_, ?_, leftover⟩
            · simp [Entry.typed, ← whole]
            · rw [List.forall_mem_cons]
              refine ⟨?_, wanted⟩
              cases held with
              | nil => simpa [Entry.typed] using asks
              | cons first held => simp [Entry.typed, isQuit_push]

/-- The lines of a session fall into entries. -/
theorem exists_cut
    (lines : List String) :
    ∃ entries left, Cut lines entries left :=
  exists_cut_continued [] lines

/-! ## Sessions -/

section

variable {settings : Settings} {held : List String} {line : String}
  {rest : List (Except TypedFailure String)}

/-- A line that is continued is held, and nothing is listed. -/
theorem session_push :
    (session settings held (.ok (line.push '\\') :: rest)).Alike
      (session settings (held ++ [line]) rest) := by
  have taken :
      take settings held (line.push '\\') = ⟨[], .reading (held ++ [line])⟩ := by
    simp [take, isQuit_push]
  simp only [session, takeTyped, taken]
  exact ⟨by simp, rfl⟩

/-- Lines that are continued are held one after the other. -/
theorem session_continued
    (continued : List String) :
    (session settings held
        (continued.map (fun line => .ok (line.push '\\')) ++ rest)).Alike
      (session settings (held ++ continued) rest) := by
  induction continued generalizing held with
  | nil =>
      rw [List.append_nil]
      exact .refl _
  | cons line continued inductionHypothesis =>
      have others := @inductionHypothesis (held ++ [line])
      rw [List.append_assoc] at others
      exact session_push.trans others

/-- A line that ends an entry submits it, and the session goes on unless the work is abandoned. -/
theorem session_last
    (wanted : (held.isEmpty && isQuit line) = false)
    (ends : continues line = false)
    (whole : ((Source.mk "<repl>" (held ++ [line])).process settings).verdict ≠ .broken) :
    (session settings held (.ok line :: rest)).Alike
      ((session settings [] rest).after
        ((Source.mk "<repl>" (held ++ [line])).process settings).emissions) := by
  simp only [session, takeTyped, take, wanted, continued?_eq_none ends, submit]
  cases verdict : ((Source.mk "<repl>" (held ++ [line])).process settings).verdict with
  | broken => exact absurd verdict whole
  | _ => exact ⟨by simp, rfl⟩

/-- Work that is abandoned ends the session. -/
theorem session_last_broken
    (wanted : (held.isEmpty && isQuit line) = false)
    (ends : continues line = false)
    (broken : ((Source.mk "<repl>" (held ++ [line])).process settings).verdict = .broken) :
    (session settings held (.ok line :: rest)).verdict = .broken := by
  simp only [session, takeTyped, take, wanted, continued?_eq_none ends, submit, broken]
  rfl

/-- An entry that does not begin with a wish to quit is read to its last line. -/
theorem session_typed
    (entry : Entry) :
    (session settings [] (entry.typed.map .ok ++ rest)).Alike
      (session settings entry.continued (.ok entry.last :: rest)) := by
  have reads := @session_continued settings [] (.ok entry.last :: rest) entry.continued
  simpa [Entry.typed, Function.comp_def] using reads

theorem Entry.wanted_last
    {entry : Entry}
    (wanted : entry.typed.head?.any isQuit = false) :
    (entry.continued.isEmpty && isQuit entry.last) = false := by
  obtain ⟨continued, last, ends⟩ := entry
  cases continued with
  | nil => simpa [typed] using wanted
  | cons line continued => rfl

/-- What is left over lists nothing, and ends the session without blame. -/
theorem session_leftover
    {left : List String}
    (leftover : Leftover left) :
    (session settings [] (left.map .ok)).Alike ⟨[], .clean⟩ := by
  cases leftover with
  | unfinished goesOn =>
      have isMapped : left ∈ Set.range (List.map fun line : String => line.push '\\') := by
        rw [Set.range_list_map]
        intro line member
        obtain ⟨kept, rfl⟩ := exists_of_continues (goesOn line member)
        exact Set.mem_range_self kept
      obtain ⟨kept, rfl⟩ := isMapped
      have reads := @session_continued settings [] [] kept
      simp only [List.append_nil, List.nil_append] at reads
      rw [List.map_map]
      exact reads.trans ⟨outputs_log settings _, rfl⟩
  | quit asks =>
      simp only [List.map_cons, session, takeTyped, take, List.isEmpty_nil, asks, Bool.true_and,
        ↓reduceIte]
      exact ⟨by simp, rfl⟩

variable {entries : List Entry} {left : List String}

/-- A session lists its entries one after the other, each as a source of its own. -/
theorem session_entries
    (wanted : ∀ entry ∈ entries, entry.typed.head?.any isQuit = false)
    (leftover : Leftover left)
    (whole : ∀ entry ∈ entries, (entry.source.process settings).verdict ≠ .broken) :
    (session settings [] ((entries.flatMap Entry.typed ++ left).map .ok)).Alike
      ⟨entries.flatMap fun entry => (entry.source.process settings).emissions, .clean⟩ := by
  induction entries with
  | nil => exact session_leftover leftover
  | cons entry entries inductionHypothesis =>
      rw [List.forall_mem_cons] at wanted whole
      have others := inductionHypothesis wanted.2 whole.2
      rw [List.flatMap_cons, List.append_assoc, List.map_append]
      refine (session_typed entry).trans ?_
      refine (session_last (Entry.wanted_last wanted.1) entry.ends whole.1).trans ?_
      exact others.after rfl

/-- A session that is not abandoned has no entry on which the work is. -/
theorem whole_of_session
    (wanted : ∀ entry ∈ entries, entry.typed.head?.any isQuit = false)
    (whole :
      (session settings [] ((entries.flatMap Entry.typed ++ left).map .ok)).verdict ≠ .broken) :
    ∀ entry ∈ entries, (entry.source.process settings).verdict ≠ .broken := by
  induction entries with
  | nil => simp
  | cons entry entries inductionHypothesis =>
      rw [List.forall_mem_cons] at wanted ⊢
      rw [List.flatMap_cons, List.append_assoc, List.map_append, (session_typed entry).verdict]
        at whole
      have wantedLast := Entry.wanted_last wanted.1
      have wholeFirst : (entry.source.process settings).verdict ≠ .broken :=
        fun broken => whole (session_last_broken wantedLast entry.ends broken)
      refine ⟨wholeFirst, inductionHypothesis wanted.2 ?_⟩
      rwa [(session_last wantedLast entry.ends wholeFirst).verdict] at whole

end

/-! ## Typed lines -/

/-- The lines of a text that is typed are delivered if none of them is changed by erasing. -/
theorem typed_of_toUTF8
    {world : World}
    {text : String}
    (input : world.input = text.toUTF8)
    (kept : ∀ line ∈ Text.Lines.ofFile text, Text.Erasure.settle line = some line) :
    world.typed = (Text.Lines.ofFile text).map .ok := by
  rw [World.typed, input, Text.Lines.ofInput_toUTF8, List.map_map]
  refine List.map_congr_left ?_
  intro line member
  simp only [Function.comp_apply, typedLine, decode_toUTF8, kept line member]

/-! ## Runs -/

/-- What several pieces of work list together is what each of them lists. -/
theorem outputText_flatMap
    (emissions : α → List Emission)
    (pieces : List α) :
    outputText (pieces.flatMap emissions) =
      String.join (pieces.map fun piece => outputText (emissions piece)) := by
  induction pieces with
  | nil => rfl
  | cons piece pieces inductionHypothesis =>
      rw [List.flatMap_cons, List.map_cons, String.join_cons, ← inductionHypothesis]
      simp only [outputText, List.filterMap_append, String.join_append]

section

variable {arguments : List String} {options : Options} {world : World}

/-- A run that is given no source announces its settings and takes typed lines. -/
theorem run_of_prompt
    (parsed : Options.ofArguments arguments = .ok options)
    (inline : options.command = none)
    (unnamed : options.files = []) :
    run arguments world =
      ⟨announcement options.settings ++
          (Prompt.session options.settings [] world.typed).emissions,
        (Prompt.session options.settings [] world.typed).verdict.exitCode⟩ := by
  simp [run, parsed, perform, inline, unnamed]

/--
The lines of a session can be cut into entries in one way.  Unless the work on one of the entries is
abandoned, which it is not if they fit the offsets, the session lists them one after the other, each
as if it were the only one, and ends without blame.
-/
theorem run_through_entries
    {lines : List String}
    (parsed : Options.ofArguments arguments = .ok options)
    (inline : options.command = none)
    (unnamed : options.files = [])
    (delivered : world.typed = lines.map .ok) :
    ∃ entries left,
      Cut lines entries left ∧
        (∀ others otherLeft, Cut lines others otherLeft → others = entries ∧ otherLeft = left) ∧
        ((∀ entry ∈ entries, entry.source.Fits) → (run arguments world).exitCode ≠ 101) ∧
        ((run arguments world).exitCode ≠ 101 →
          outputText (run arguments world).emissions =
              String.join
                (entries.map fun entry =>
                  outputText (entry.source.process options.settings).emissions) ∧
            (run arguments world).exitCode = 0) := by
  obtain ⟨entries, left, cut⟩ := exists_cut lines
  refine ⟨entries, left, cut, fun others otherLeft other => cut.unique other, ?_⟩
  obtain ⟨whole, wanted, leftover⟩ := cut
  rw [run_of_prompt parsed inline unnamed, delivered, whole]
  simp only [outputText_run, ne_eq, Verdict.exitCode_eq_abandoned, Verdict.exitCode_eq_zero]
  refine ⟨?_, ?_⟩
  · intro fits broken
    have alike :=
      @session_entries options.settings _ _ wanted leftover fun entry member =>
        Source.not_broken_process (fits entry member)
    rw [alike.verdict] at broken
    cases broken
  · intro unbroken
    have alike := session_entries wanted leftover (whole_of_session wanted unbroken)
    refine ⟨?_, alike.verdict⟩
    rw [alike.outputs]
    exact outputText_flatMap _ entries

/-- Three entries, of which the second is at fault, before a wish to quit with spaces around it. -/
theorem run_through_entries_mixed :
    outputText
          (run ["-v"]
            ⟨fun _ => .error .missing,
              "if\\\n:q\n'\nok\\\\\r\nb\n :quit \nc".toUTF8⟩).emissions =
        "1:0..2  If\n2:0..1  KeyValSeparator\n2:1..2  Word  \"q\"\n" ++
          "1:0..3  Word  \"ok\\\\\"\n2:0..1  Word  \"b\"\n" ∧
      (run ["-v"]
          ⟨fun _ => .error .missing,
            "if\\\n:q\n'\nok\\\\\r\nb\n :quit \nc".toUTF8⟩).exitCode = 0 := by
  generalize isWorld :
    World.mk (fun _ => .error .missing)
      "if\\\n:q\n'\nok\\\\\r\nb\n :quit \nc".toUTF8 = world
  have parsed : Options.ofArguments ["-v"] = .ok ⟨[], none, false, false, none, 1⟩ := by
    rfl
  have cutText :
      Text.Lines.ofFile "if\\\n:q\n'\nok\\\\\r\nb\n :quit \nc" =
        ["if\\", ":q", "'", "ok\\\\", "b", " :quit ", "c"] := by
    decide
  have delivered :
      world.typed = ["if\\", ":q", "'", "ok\\\\", "b", " :quit ", "c"].map .ok := by
    rw [← cutText, ← isWorld]
    refine typed_of_toUTF8 rfl ?_
    rw [cutText]
    intro line member
    refine Text.Erasure.settle_eq_self ?_
    revert line
    decide
  have cut :
      Cut ["if\\", ":q", "'", "ok\\\\", "b", " :quit ", "c"]
        [⟨["if"], ":q", rfl⟩, ⟨[], "'", rfl⟩, ⟨["ok\\"], "b", rfl⟩] [" :quit ", "c"] :=
    ⟨by decide, by decide, .quit (by decide)⟩
  obtain ⟨entries, left, _, only, fits, lists⟩ := run_through_entries parsed rfl rfl delivered
  obtain ⟨rfl, rfl⟩ := only _ _ cut
  have whole := fits (by
    simp only [List.forall_mem_cons, List.not_mem_nil, false_implies, implies_true, and_true]
    exact ⟨⟨by decide, by decide⟩, ⟨by decide, by decide⟩, ⟨by decide, by decide⟩⟩)
  refine ⟨(lists whole).1.trans ?_, (lists whole).2⟩
  decide +kernel

end

end Brace.CommandLine.Prompt
