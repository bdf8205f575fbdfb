import Brace.Proofs.Entries

namespace Brace.CommandLine

/-!
# Ways to hand over lines

The lines of an entry can be handed to a run in a file, as inline source or at the prompt.  Each way
has lines that it cannot carry; those that all of them can carry are listed the same in all ways,
and a run that is handed a file ends like one that is handed inline source.
-/

open Emission

/-! ## An empty last line -/

/-- An empty last line adds nothing to a listing, nor to the end if there is a number for it. -/
theorem Source.processLines_concat_empty
    {source : Source}
    {settings : Settings}
    {lexer : Lexer}
    {index : Nat}
    {lines : List String} :
    outputs (source.processLines settings lexer index (lines ++ [""])).emissions =
        outputs (source.processLines settings lexer index lines).emissions ∧
      (index < Offset.limit →
        index + lines.length + 1 ≠ Offset.limit →
          (source.processLines settings lexer index (lines ++ [""])).verdict =
            (source.processLines settings lexer index lines).verdict) := by
  induction lines generalizing lexer index with
  | nil =>
      by_cases few : index + 1 < Offset.limit
      · have empty : tokenize lexer.dialect "" = .ok [] :=
          tokenize_of_runs (by decide) .ended
        rw [List.nil_append, processLines_of_ok empty few]
        exact ⟨by simp [processLines], fun _ _ => rfl⟩
      · rw [List.nil_append, List.length_nil]
        refine ⟨?_, fun _ _ => by omega⟩
        simp only [processLines, Offset.add, if_neg few, outputs_log]
        rfl
  | cons text lines inductionHypothesis =>
      by_cases few : index + 1 < Offset.limit
      · have next : Offset.add index 1 = .ok (index + 1) :=
          Offset.add_eq_ok.mpr ⟨few, rfl⟩
        simp only [List.cons_append, processLines, next]
        cases Lexer.tokenizeLine lexer.dialect text (index + 1) with
        | error halt => cases halt <;> exact ⟨rfl, fun _ _ => rfl⟩
        | ok tokens =>
            obtain ⟨listed, ended⟩ := @inductionHypothesis (lexer.add tokens) (index + 1)
            refine ⟨by simp [listed], fun _ numbered => ended few ?_⟩
            rw [List.length_cons] at numbered
            omega
      · simp [processLines, Offset.add, few]

/-- What a source is called has no effect on what is listed, nor on how the work ends. -/
theorem Source.process_renamed
    (settings : Settings)
    (name other : String)
    (lines : List String) :
    ((Source.mk name lines).process settings).Alike ((Source.mk other lines).process settings) :=
  process_alike ⟨rfl, rfl⟩ rfl

/-- A source with an empty last line is listed like one without, whatever they are called. -/
theorem Source.process_concat_empty
    (settings : Settings)
    (name other : String)
    (lines : List String) :
    outputs ((Source.mk name (lines ++ [""])).process settings).emissions =
        outputs ((Source.mk other lines).process settings).emissions ∧
      (lines.length + 1 ≠ Offset.limit →
        ((Source.mk name (lines ++ [""])).process settings).verdict =
          ((Source.mk other lines).process settings).verdict) := by
  obtain ⟨listed, ended⟩ :=
    @processLines_concat_empty ⟨name, lines ++ [""]⟩ settings (.ofDialect settings.dialect) 0 lines
  have renamed :
      ((Source.mk name (lines ++ [""])).processLines settings (.ofDialect settings.dialect) 0
          lines).Alike
        ((Source.mk other lines).processLines settings (.ofDialect settings.dialect) 0 lines) :=
    processLines_alike ⟨rfl, rfl⟩ rfl
  refine ⟨by simp [process, listed, renamed.outputs], fun numbered => ?_⟩
  exact (ended (by decide) (by omega)).trans renamed.verdict

/-- Nothing more to do leaves all as it is. -/
theorem Outcome.andThen_nothing_alike
    (outcome : Outcome) :
    (outcome.andThen ⟨[], .clean⟩).Alike outcome := by
  obtain ⟨emissions, verdict⟩ := outcome
  cases verdict <;> exact ⟨by simp [andThen], rfl⟩

/-! ## Arguments for all wishes -/

/-- A long option that comes with its value. -/
theorem Parse.step_long
    {parse : Parse}
    {name : String}
    (idle : parse.awaiting = none)
    (optional : parse.filesOnly = false)
    (solid : '=' ∉ name.toList)
    (value : String) :
    parse.step ("--" ++ name ++ "=" ++ value) = parse.long name (some value) := by
  have named : ∀ c ∈ name.toList, (!decide (c = '=')) = true := by
    intro c member
    rw [Bool.not_eq_true', decide_eq_false_iff_not]
    rintro rfl
    exact solid member
  have shape :
      ("--" ++ name ++ "=" ++ value).toList =
        '-' :: '-' :: (name.toList ++ '=' :: value.toList) := by
    simp
  simp [Parse.step, idle, optional, shape, List.takeWhile_append_of_pos named,
    List.dropWhile_append_of_pos named]

/-- Where only files can follow, all arguments are added as files. -/
theorem Parse.foldlM_files
    {names : List String}
    (named : "" ∉ names)
    (options : Options) :
    names.foldlM Parse.step ⟨options, none, true⟩ =
      .ok ⟨{ options with files := options.files ++ names }, none, true⟩ := by
  induction names generalizing options with
  | nil => simp [pure, Except.pure]
  | cons name names inductionHypothesis =>
      rw [List.mem_cons, not_or] at named
      have filled : name.isEmpty = false := by
        rw [Bool.eq_false_iff]
        intro empty
        exact named.1 (String.isEmpty_iff.mp empty).symm
      have added :
          Parse.step ⟨options, none, true⟩ name =
            .ok ⟨{ options with files := options.files ++ [name] }, none, true⟩ := by
        simp [Parse.step, Parse.addFile, filled, pure, Except.pure]
      simp [added, inductionHypothesis named.2, bind, Except.bind]

/-- All wishes can be put into arguments, unless there are both files and inline source. -/
theorem exists_ofArguments
    {files : List String}
    {command : Option String}
    (named : "" ∉ files)
    (apart : command = none ∨ files = [])
    (json : Bool)
    (interpolate : Option String) :
    ∃ arguments,
      Options.ofArguments arguments = .ok { files, command, json, interpolate } := by
  obtain ⟨form, setsForm⟩ :
      ∃ arguments, List.foldlM Parse.step {} arguments = .ok (⟨{ json }, none, false⟩ : Parse) := by
    cases json
    · exact ⟨[], rfl⟩
    · exact ⟨["--json"], rfl⟩
  obtain ⟨delimiters, setsDelimiters⟩ :
      ∃ arguments,
        List.foldlM Parse.step ⟨{ json }, none, false⟩ arguments =
          .ok (⟨{ json, interpolate }, none, false⟩ : Parse) := by
    cases interpolate with
    | none => exact ⟨[], rfl⟩
    | some value =>
        refine ⟨["--" ++ "interpolate" ++ "=" ++ value], ?_⟩
        rw [List.foldlM_cons, Parse.step_long rfl rfl (by decide)]
        rfl
  obtain ⟨source, setsSource⟩ :
      ∃ arguments,
        List.foldlM Parse.step ⟨{ json, interpolate }, none, false⟩ arguments =
          .ok (⟨{ command, json, interpolate }, none, false⟩ : Parse) := by
    cases command with
    | none => exact ⟨[], rfl⟩
    | some value =>
        refine ⟨["--" ++ "command" ++ "=" ++ value], ?_⟩
        rw [List.foldlM_cons, Parse.step_long rfl rfl (by decide)]
        rfl
  have reads :
      List.foldlM Parse.step {} (form ++ delimiters ++ source ++ "--" :: files) =
        .ok (⟨{ files, command, json, interpolate }, none, true⟩ : Parse) := by
    simp only [List.foldlM_append, setsForm, setsDelimiters, setsSource, bind, Except.bind,
      List.foldlM_cons]
    exact Parse.foldlM_files named { command, json, interpolate }
  refine ⟨form ++ delimiters ++ source ++ "--" :: files, ?_⟩
  simp only [Options.ofArguments, reads, bind, Except.bind, Parse.finish]
  rcases apart with rfl | rfl <;> simp [pure, Except.pure]

namespace Prompt

/-! ## Lines that can be handed over -/

/-- The ways in which lines can be handed to a run. -/
inductive Route
  | file
  | inline
  | prompt
  deriving Repr, DecidableEq

namespace Entry

/-- No line of an entry is cut apart or changed on any route, and they do not ask to quit. -/
structure Portable (entry : Entry) : Prop where
  noFeed : ∀ line ∈ entry.lines, '\n' ∉ line.toList
  noSeparator : ∀ line ∈ entry.lines, ¬ Text.Lines.separator <:+: line.toList
  noReturn : ∀ line ∈ entry.lines, line.toList.getLast? ≠ some '\r'
  unasked : ∀ line, entry.lines = [line] → isQuit line = false

/-- A run is handed the lines of an entry. -/
inductive Handed (entry : Entry) (options : Options) (world : World) : Route → Prop
  /-- The lines are joined by line feeds in the only file. -/
  | file {name}
      (noInline : options.command = none)
      (named : options.files = [name])
      (holds : world.file name = .ok ("\n".intercalate entry.lines).toUTF8) :
      Handed entry options world .file
  /-- The lines are joined by the two characters `\n`. -/
  | inline
      (joins : options.command = some ("\\n".intercalate entry.lines)) :
      Handed entry options world .inline
  /--
  The lines are typed, all but the last one with a backslash at the end.  What is typed ends in a
  line feed, or in the last line if that is not empty.
  -/
  | prompt {ending}
      (noInline : options.command = none)
      (unnamed : options.files = [])
      (types : world.input = ("\n".intercalate entry.typed ++ ending).toUTF8)
      (ended : ending = "\n" ∨ ending = "" ∧ entry.last ≠ "")
      (unerased : ∀ line ∈ entry.typed, Text.Erasure.settle line = some line) :
      Handed entry options world .prompt

/-- On each route some run is handed the lines, in either form and with any delimiters. -/
theorem exists_handed
    (entry : Entry)
    (route : Route)
    (unerased : route = .prompt → ∀ line ∈ entry.typed, Text.Erasure.settle line = some line)
    (json : Bool)
    (interpolate : Option String) :
    ∃ arguments options world,
      Options.ofArguments arguments = .ok options ∧
        entry.Handed options world route ∧
        options.json = json ∧ options.interpolate = interpolate := by
  cases route with
  | file =>
      obtain ⟨arguments, parsed⟩ :=
        @exists_ofArguments ["source"] none (by simp) (.inl rfl) json interpolate
      exact
        ⟨arguments, _, ⟨fun _ => .ok ("\n".intercalate entry.lines).toUTF8, .empty⟩, parsed,
          .file rfl rfl rfl, rfl, rfl⟩
  | inline =>
      obtain ⟨arguments, parsed⟩ :=
        @exists_ofArguments [] (some ("\\n".intercalate entry.lines)) (by simp) (.inr rfl) json
          interpolate
      exact ⟨arguments, _, .ofTexts [], parsed, .inline rfl, rfl, rfl⟩
  | prompt =>
      obtain ⟨arguments, parsed⟩ :=
        @exists_ofArguments [] none (by simp) (.inl rfl) json interpolate
      exact
        ⟨arguments, _,
          ⟨fun _ => .error .missing, ("\n".intercalate entry.typed ++ "\n").toUTF8⟩, parsed,
          .prompt rfl rfl rfl (.inl rfl) (unerased rfl), rfl, rfl⟩

variable {entry : Entry} {options : Options} {world : World}

/-! ## One route at a time -/

/-- A file whose lines are joined by line feeds has these lines, but for an empty last line. -/
theorem ofFile_lines
    (portable : entry.Portable) :
    Text.Lines.ofFile ("\n".intercalate entry.lines) =
      entry.continued ++ if entry.last = "" then [] else [entry.last] :=
  Text.Lines.ofFile_intercalate portable.noFeed fun line member =>
    portable.noReturn line (List.mem_append_left _ member)

/-- Lines that are typed are cut apart as they are, with the backslashes at their ends. -/
theorem ofFile_typed
    {ending : String}
    (portable : entry.Portable)
    (ended : ending = "\n" ∨ ending = "" ∧ entry.last ≠ "") :
    Text.Lines.ofFile ("\n".intercalate entry.typed ++ ending) = entry.typed := by
  have solid : ∀ line ∈ entry.typed, '\n' ∉ line.toList := by
    have noFeed := portable.noFeed
    simp only [lines, typed, List.mem_append, List.mem_map, List.mem_singleton] at noFeed ⊢
    rintro line (⟨kept, member, rfl⟩ | rfl)
    · simpa using noFeed kept (.inl member)
    · exact noFeed _ (.inr rfl)
  have bare :
      ∀ line ∈ entry.continued.map (fun line => line.push '\\'),
        line.toList.getLast? ≠ some '\r' := by
    simp
  rcases ended with rfl | ⟨rfl, filled⟩
  · have nonempty : entry.typed ≠ [] := by
      simp [typed]
    have joined :
        "\n".intercalate entry.typed ++ "\n" = "\n".intercalate (entry.typed ++ [""]) := by
      rw [String.intercalate_append_of_ne_nil nonempty (by simp), String.intercalate_singleton,
        String.append_empty]
    have bareTyped : ∀ line ∈ entry.typed, line.toList.getLast? ≠ some '\r' := by
      rw [typed, List.forall_mem_append, List.forall_mem_singleton]
      exact ⟨bare, portable.noReturn entry.last (by simp [lines])⟩
    have solidAll : ∀ line ∈ entry.typed ++ [""], '\n' ∉ line.toList := by
      rw [List.forall_mem_append, List.forall_mem_singleton]
      exact ⟨solid, by simp⟩
    rw [joined, Text.Lines.ofFile_intercalate solidAll bareTyped, if_pos rfl, List.append_nil]
  · rw [String.append_empty]
    refine (Text.Lines.ofFile_intercalate solid bare).trans ?_
    rw [if_neg filled]
    rfl

/-- The lines of the file are listed like the entry, which may have an empty line after them. -/
theorem process_file
    (portable : entry.Portable)
    (settings : Settings)
    (name : String) :
    outputs
          ((Source.mk name (Text.Lines.ofFile ("\n".intercalate entry.lines))).process
            settings).emissions =
        outputs (entry.source.process settings).emissions ∧
      ((entry.last = "" → entry.lines.length ≠ Offset.limit) →
        ((Source.mk name (Text.Lines.ofFile ("\n".intercalate entry.lines))).process
            settings).verdict =
          (entry.source.process settings).verdict) := by
  rw [ofFile_lines portable]
  split
  · rename_i empty
    have same := Source.process_concat_empty settings "<repl>" name entry.continued
    rw [List.append_nil, source, lines, empty]
    refine ⟨same.1.symm, fun numbered => (same.2 ?_).symm⟩
    simpa using numbered
  · have alike := Source.process_renamed settings name "<repl>" entry.lines
    exact ⟨alike.outputs, fun _ => alike.verdict⟩

/-- A session on the lines of an entry alone lists the entry. -/
theorem outputs_session
    (portable : entry.Portable)
    (settings : Settings) :
    outputs (session settings [] (entry.typed.map .ok)).emissions =
      outputs (entry.source.process settings).emissions := by
  have reads := @session_typed settings [] entry
  have wanted : (entry.continued.isEmpty && isQuit entry.last) = false := by
    cases held : entry.continued with
    | nil => exact portable.unasked entry.last (by simp [lines, held])
    | cons line held => rfl
  rw [List.append_nil] at reads
  rw [reads.outputs]
  simp only [session, takeTyped, take, wanted, continued?_eq_none entry.ends, submit, source, lines]
  -- The session ends here, whether the work on the entry is abandoned or nothing is left.
  split <;> simp

/-- What a run that is handed the lines of an entry does is what is done about the entry. -/
theorem Handed.perform
    {route : Route}
    (handed : entry.Handed options world route)
    (portable : entry.Portable) :
    outputs (perform options world).emissions =
        outputs (entry.source.process options.settings).emissions ∧
      (route ≠ .prompt →
        (entry.last = "" → entry.lines.length ≠ Offset.limit) →
          (perform options world).verdict =
            (entry.source.process options.settings).verdict) := by
  cases handed with
  | @file name noInline named holds =>
      have reads : world.text name = .ok ("\n".intercalate entry.lines) := by
        simp only [World.text, holds]
        exact decode_toUTF8 _
      have alike := fun outcome : Outcome => outcome.andThen_nothing_alike
      obtain ⟨listed, ended⟩ := process_file portable options.settings name
      simp only [CommandLine.perform, noInline, named, List.isEmpty_cons, Bool.false_eq_true,
        ↓reduceIte, processFiles, reads]
      exact
        ⟨(alike _).outputs.trans listed, fun _ numbered => (alike _).verdict.trans (ended numbered)⟩
  | inline joins =>
      have cut : Text.Lines.ofInline ("\\n".intercalate entry.lines) = entry.lines :=
        Text.Lines.ofInline_intercalate (by simp [lines]) portable.noSeparator
      have alike := Source.process_renamed options.settings "<command>" "<repl>" entry.lines
      simp only [CommandLine.perform, joins, cut]
      exact ⟨alike.outputs, fun _ _ => alike.verdict⟩
  | prompt noInline unnamed types ended unerased =>
      have cut := ofFile_typed portable ended
      have typed : world.typed = entry.typed.map .ok := by
        rw [← cut] at unerased ⊢
        exact typed_of_toUTF8 types unerased
      simp only [CommandLine.perform, noInline, unnamed, List.isEmpty_nil, ↓reduceIte, typed]
      exact ⟨outputs_session portable options.settings, fun typed => absurd rfl typed⟩

end Entry

/-! ## Runs -/

section

variable {arguments others : List String} {options other : Options} {world otherWorld : World}
  {route otherRoute : Route}

/--
Runs that are handed the same lines list the same, on whatever routes these come, provided that they
read strings alike and list in the same form.  In a file and inline they also lead to the same exit
code, unless the last line is empty and its number is no offset, which only inline source needs.
-/
theorem run_alike_of_handed
    {entry : Entry}
    (portable : entry.Portable)
    (parsed : Options.ofArguments arguments = .ok options)
    (handed : entry.Handed options world route)
    (otherParsed : Options.ofArguments others = .ok other)
    (otherHanded : entry.Handed other otherWorld otherRoute)
    (alike : options.settings.Alike other.settings) :
    outputText (run arguments world).emissions = outputText (run others otherWorld).emissions ∧
      (route ≠ .prompt →
        otherRoute ≠ .prompt →
          (entry.last = "" → entry.lines.length ≠ Offset.limit) →
            (run arguments world).exitCode = (run others otherWorld).exitCode) := by
  have same := @Source.process_alike entry.source entry.source _ _ alike rfl
  obtain ⟨listed, ended⟩ := handed.perform portable
  obtain ⟨otherListed, otherEnded⟩ := otherHanded.perform portable
  simp only [run, parsed, otherParsed]
  refine ⟨?_, ?_⟩
  · simp [outputText_run, listed, otherListed, same.outputs]
  · intro noPrompt otherNoPrompt numbered
    simp [ended noPrompt numbered, otherEnded otherNoPrompt numbered, same.verdict]

/-- A backslash before a separator, an `n` after it, and an empty last line. -/
theorem run_alike_of_handed_thrice :
    outputText (run ["f"] (.ofTexts [("f", "a\\\nn if\n")])).emissions =
        "1:0..2  Word  \"a\\\\\"\n2:0..1  Word  \"n\"\n2:2..4  If\n" ∧
      outputText
          (run ["-v"] ⟨fun _ => .error .missing, "a\\\\\nn if\\\n\n".toUTF8⟩).emissions =
        "1:0..2  Word  \"a\\\\\"\n2:0..1  Word  \"n\"\n2:2..4  If\n" ∧
      (run ["f"] (.ofTexts [("f", "a\\\nn if\n")])).exitCode = 0 := by
  have portable : Entry.Portable ⟨["a\\", "n if"], "", rfl⟩ :=
    ⟨by decide, by decide, by decide, by simp [Entry.lines]⟩
  have inline :
      Entry.Handed ⟨["a\\", "n if"], "", rfl⟩ ⟨[], some "a\\\\nn if\\n", false, false, none, 0⟩
        (.ofTexts []) .inline :=
    .inline (by decide)
  have file :
      Entry.Handed ⟨["a\\", "n if"], "", rfl⟩ ⟨["f"], none, false, false, none, 0⟩
        (.ofTexts [("f", "a\\\nn if\n")]) .file := by
    have joined : "a\\\nn if\n" = "\n".intercalate ["a\\", "n if", ""] := by
      decide
    exact .file rfl rfl (by rw [joined]; rfl)
  have prompt :
      Entry.Handed ⟨["a\\", "n if"], "", rfl⟩ ⟨[], none, false, false, none, 1⟩
        ⟨fun _ => .error .missing, "a\\\\\nn if\\\n\n".toUTF8⟩ .prompt := by
    have joined : "a\\\\\nn if\\\n\n" = "\n".intercalate ["a\\\\", "n if\\", ""] ++ "\n" := by
      decide
    refine .prompt rfl rfl (congrArg String.toUTF8 joined) (.inl rfl) ?_
    intro line member
    refine Text.Erasure.settle_eq_self ?_
    revert line
    decide
  have parsed :
      Options.ofArguments ["-c", "a\\\\nn if\\n"] =
        .ok ⟨[], some "a\\\\nn if\\n", false, false, none, 0⟩ := by
    rfl
  have parsedFile : Options.ofArguments ["f"] = .ok ⟨["f"], none, false, false, none, 0⟩ := by
    rfl
  have parsedPrompt : Options.ofArguments ["-v"] = .ok ⟨[], none, false, false, none, 1⟩ := by
    rfl
  obtain ⟨asFile, sameEnd⟩ :=
    run_alike_of_handed portable parsedFile file parsed inline ⟨rfl, rfl⟩
  obtain ⟨asPrompt, -⟩ :=
    run_alike_of_handed portable parsedPrompt prompt parsed inline ⟨rfl, rfl⟩
  rw [asFile, asPrompt, sameEnd (by decide) (by decide) (by simp [Entry.lines, Offset.limit])]
  decide +kernel

end

end Prompt

end Brace.CommandLine
