import Brace.Proofs.Alike

namespace Brace.CommandLine

/-!
# Work on files

A run over files works through those before the first that cannot be read, each on its own: it
lists what can be listed of each, complains once of each that has a fault, then of the one that
cannot be read, and ends without blame only if there is nothing to complain of.
-/

open Emission

/-! ## Two pieces of work -/

theorem Verdict.and_eq_clean
    {first second : Verdict} :
    first.and second = .clean ↔ first = .clean ∧ second = .clean := by
  cases first <;> cases second <;> decide

theorem Verdict.and_eq_broken
    {first second : Verdict} :
    first.and second = .broken ↔ first = .broken ∨ second = .broken := by
  cases first <;> cases second <;> decide

theorem Verdict.exitCode_eq_zero
    {verdict : Verdict} :
    verdict.exitCode = 0 ↔ verdict = .clean := by
  cases verdict <;> decide

theorem Verdict.exitCode_eq_abandoned
    {verdict : Verdict} :
    verdict.exitCode = 101 ↔ verdict = .broken := by
  cases verdict <;> decide

theorem Verdict.exitCode_eq_one
    {verdict : Verdict} :
    verdict.exitCode = 1 ↔ verdict ≠ .clean ∧ verdict ≠ .broken := by
  cases verdict <;> decide

theorem Verdict.eq_of_clean_iff
    {first second : Verdict}
    (whole : first ≠ .broken)
    (otherWhole : second ≠ .broken)
    (clean : first = .clean ↔ second = .clean) :
    first = second := by
  cases first <;> cases second <;> simp_all

namespace Outcome

variable {first second : Outcome}

/-- Work that is not abandoned is followed by more. -/
theorem andThen_of_whole
    (whole : first.verdict ≠ .broken) :
    first.andThen second =
      ⟨first.emissions ++ second.emissions, first.verdict.and second.verdict⟩ := by
  unfold andThen
  split
  · rename_i broken
    exact absurd broken whole
  · rfl

/-- Two pieces of work are abandoned together exactly if one of them is. -/
theorem andThen_verdict_ne_broken :
    (first.andThen second).verdict ≠ .broken ↔
      first.verdict ≠ .broken ∧ second.verdict ≠ .broken := by
  by_cases broken : first.verdict = .broken
  · simp [andThen, broken]
  · rw [andThen_of_whole broken]
    simp [Verdict.and_eq_broken, not_or]

end Outcome

/-! ## Files with given texts -/

/-- The bytes of a text stand for it. -/
theorem decode_toUTF8
    (text : String) :
    decode text.toUTF8 = .ok text := by
  unfold decode String.fromUTF8?
  rw [String.toUTF8_eq_toByteArray, dif_pos text.isValidUTF8]
  rfl

namespace World

/-- Files with given names and texts, and nothing typed. -/
def ofTexts (texts : List (String × String)) : World where
  file name :=
    match texts.lookup name with
    | some text => .ok text.toUTF8
    | none => .error .missing
  input := .empty

theorem text_ofTexts
    (texts : List (String × String))
    (name : String) :
    (ofTexts texts).text name =
      match texts.lookup name with
      | some text => .ok text
      | none => .error .missing := by
  unfold text
  change (match texts.lookup name with
    | some text => Except.ok text.toUTF8
    | none => .error .missing) >>= decode = _
  cases texts.lookup name with
  | none => rfl
  | some text => exact decode_toUTF8 text

end World

/-! ## What is to be said -/

/-- The texts that list the lines of a source before the first that cannot be tokenized. -/
def Source.listed (settings : Settings) (source : Source) : List String :=
  listedLines settings.form 0 (leadingTokens settings.dialect source.lines)

/-- What a run over files complains of. -/
inductive Complaint
  | faulty (source : Source) (fault : Fault)
  | unread (name : String) (failure : ReadFailure)
  deriving Repr, DecidableEq

namespace Complaint

/-- How a complaint is made. -/
def outcome (settings : Settings) : Complaint → Outcome
  | faulty source fault => source.report settings fault
  | unread name failure => failed settings ("Failed to read '" ++ name ++ "': " ++ failure.message)

/-- The text is all that is written when the complaint is made. -/
def Told (settings : Settings) (complaint : Complaint) (text : String) : Prop :=
  complaint.outcome settings = ⟨[.report text], .faulty⟩

end Complaint

/-- The fault of the first line that cannot be tokenized. -/
def Source.complaint? (dialect : Dialect) (source : Source) : Option Complaint :=
  (firstFault? dialect 0 source.lines).map (.faulty source)

namespace World

/-- The files before the first that cannot be read. -/
def sources (world : World) : List String → List Source
  | [] => []
  | name :: names =>
      match world.text name with
      | .ok text => ⟨name, Text.Lines.ofFile text⟩ :: world.sources names
      | .error _ => []

/-- The first file that cannot be read. -/
def unread? (world : World) : List String → Option Complaint
  | [] => none
  | name :: names =>
      match world.text name with
      | .ok _ => world.unread? names
      | .error failure => some (.unread name failure)

/-- Each file that can be worked through and has a fault, and then the one that cannot be read. -/
def complaints (world : World) (dialect : Dialect) (names : List String) : List Complaint :=
  (world.sources names).filterMap (Source.complaint? dialect) ++ (world.unread? names).toList

/-- Every file can be read, and every line of it tokenized. -/
def Sound (world : World) (dialect : Dialect) (names : List String) : Prop :=
  ∀ name ∈ names,
    ∃ text,
      world.text name = .ok text ∧
        ∀ line ∈ Text.Lines.ofFile text, ∃ tokens, tokenize dialect line = .ok tokens

/-- What becomes of files unless the work on them is abandoned. -/
structure Works
    (world : World)
    (settings : Settings)
    (names : List String)
    (outcome : Outcome) : Prop where
  lists : outputs outcome.emissions = (world.sources names).flatMap (Source.listed settings)
  tells :
    List.Forall₂ (Complaint.Told settings) (world.complaints settings.dialect names)
      (reports outcome.emissions)
  clean : outcome.verdict = .clean ↔ world.Sound settings.dialect names

end World

/-! ## One file -/

section

variable {source : Source} {settings : Settings} {index : Nat} {lines : List String}
  {outcome : Outcome}

/-- The work on a source is clean if all of its lines can be tokenized, and only then. -/
theorem Source.Works.clean_iff
    (works : source.Works settings index lines outcome) :
    outcome.verdict = .clean ↔
      ∀ line ∈ lines, ∃ tokens, tokenize settings.dialect line = .ok tokens := by
  have ends := works.ends
  cases first : firstFault? settings.dialect index lines with
  | none =>
      obtain ⟨found, tokenized⟩ := works.whole first
      rw [first] at ends
      cases ends with
      | clean quiet => exact ⟨fun _ line member => tokenized.exists_of_mem member, fun _ => rfl⟩
  | some fault =>
      obtain ⟨before, text, after, _, halted, parted, _, halts, _⟩ := exists_of_firstFault? first
      rw [first] at ends
      cases ends with
      | faulty reported tells =>
          refine ⟨nofun, fun sound => ?_⟩
          obtain ⟨tokens, reads⟩ := sound text (by simp [parted])
          rw [reads] at halts
          cases halts

/-- The work on a source makes the complaint that there is. -/
theorem Source.Works.tells
    (works : source.Works settings 0 source.lines outcome) :
    List.Forall₂ (Complaint.Told settings) (source.complaint? settings.dialect).toList
      (reports outcome.emissions) := by
  have ends := works.ends
  unfold complaint?
  cases first : firstFault? settings.dialect 0 source.lines with
  | none =>
      rw [first] at ends
      cases ends with
      | clean quiet =>
          rw [quiet]
          exact .nil
  | some fault =>
      rw [first] at ends
      cases ends with
      | faulty reported tells =>
          rw [tells]
          exact .cons reported .nil

end

/-! ## All files -/

section

variable {world : World} {settings : Settings} {name : String} {names : List String}

/-- A run that must end with a message complains once. -/
theorem exists_failed
    (settings : Settings)
    (message : String) :
    ∃ text, failed settings message = ⟨[.report text], .faulty⟩ := by
  unfold failed
  split <;> exact ⟨_, rfl⟩

/-- A file that cannot be read ends the work. -/
theorem World.works_unread
    {failure : ReadFailure}
    (unread : world.text name = .error failure) :
    world.Works settings (name :: names) ((Complaint.unread name failure).outcome settings) := by
  obtain ⟨text, told⟩ :=
    exists_failed settings ("Failed to read '" ++ name ++ "': " ++ failure.message)
  have outcome : (Complaint.unread name failure).outcome settings = ⟨[.report text], .faulty⟩ :=
    told
  rw [outcome]
  refine ⟨?_, ?_, ?_⟩
  · simp [sources, unread]
  · simpa [complaints, sources, unread?, unread, Complaint.Told] using outcome
  · refine ⟨nofun, fun sound => ?_⟩
    obtain ⟨_, reads, _⟩ := sound name (by simp)
    rw [unread] at reads
    cases reads

/-- A file that can be read is worked through before the others. -/
theorem World.Works.cons
    {text : String}
    {first second : Outcome}
    (reads : world.text name = .ok text)
    (whole : first.verdict ≠ .broken)
    (works :
      Source.Works ⟨name, Text.Lines.ofFile text⟩ settings 0 (Text.Lines.ofFile text) first)
    (rest : world.Works settings names second) :
    world.Works settings (name :: names) (first.andThen second) := by
  rw [Outcome.andThen_of_whole whole]
  refine ⟨?_, ?_, ?_⟩
  · simp [sources, reads, works.lists, rest.lists, Source.listed]
  · have tells := List.rel_append works.tells rest.tells
    simpa [complaints, sources, unread?, reads, List.filterMap_eq_flatMap_toList] using tells
  · have sound :
        world.Sound settings.dialect (name :: names) ↔
          (∀ line ∈ Text.Lines.ofFile text, ∃ tokens, tokenize settings.dialect line = .ok tokens) ∧
            world.Sound settings.dialect names := by
      simp [Sound, reads]
    rw [Verdict.and_eq_clean, works.clean_iff, rest.clean, sound]

/-- The work on files does what it has to do, unless it is abandoned. -/
theorem works_processFiles
    (whole : (processFiles settings world names).verdict ≠ .broken) :
    world.Works settings names (processFiles settings world names) := by
  induction names with
  | nil => exact ⟨rfl, .nil, by simp [processFiles, World.Sound]⟩
  | cons name names inductionHypothesis =>
      cases reads : world.text name with
      | error failure =>
          simp only [processFiles, reads]
          exact World.works_unread reads
      | ok text =>
          simp only [processFiles, reads] at whole ⊢
          obtain ⟨wholeFirst, wholeRest⟩ := Outcome.andThen_verdict_ne_broken.mp whole
          exact
            .cons reads wholeFirst (Source.works_process wholeFirst) (inductionHypothesis wholeRest)

/-- The work on files that fit the offsets is not abandoned. -/
theorem not_broken_processFiles
    (fits : ∀ source ∈ world.sources names, source.Fits) :
    (processFiles settings world names).verdict ≠ .broken := by
  induction names with
  | nil => exact nofun
  | cons name names inductionHypothesis =>
      cases reads : world.text name with
      | error failure =>
          obtain ⟨text, told⟩ :=
            exists_failed settings ("Failed to read '" ++ name ++ "': " ++ failure.message)
          simp only [processFiles, reads, told]
          exact nofun
      | ok text =>
          simp only [processFiles, World.sources, reads, List.forall_mem_cons] at fits ⊢
          exact
            Outcome.andThen_verdict_ne_broken.mpr
              ⟨Source.not_broken_process fits.1, inductionHypothesis fits.2⟩

end

/-! ## Runs -/

/-- Options that ask for the same to be tokenized, in whatever form. -/
structure Options.SameWork (first second : Options) : Prop where
  files : first.files = second.files
  command : first.command = second.command
  interpolate : first.interpolate = second.interpolate

namespace Options.SameWork

variable {first second : Options}

theorem dialect
    (same : first.SameWork second) :
    first.settings.dialect = second.settings.dialect := by
  simp [settings, same.interpolate]

/-- The count of `-v` and `--no-color` have no effect on the form. -/
theorem alike
    (same : first.SameWork second)
    (sameForm : first.json = second.json) :
    first.settings.Alike second.settings :=
  ⟨same.dialect, by simp [settings, sameForm]⟩

end Options.SameWork

section

variable {arguments : List String} {options : Options} {world : World}

/-- A run that is given files announces its settings and works through the files. -/
theorem run_of_files
    (parsed : Options.ofArguments arguments = .ok options)
    (inline : options.command = none)
    (named : options.files ≠ []) :
    run arguments world =
      ⟨announcement options.settings ++
          (processFiles options.settings world options.files).emissions,
        (processFiles options.settings world options.files).verdict.exitCode⟩ := by
  simp [run, parsed, perform, inline, named]

@[simp] theorem outputText_run
    (settings : Settings)
    (emissions : List Emission) :
    outputText (announcement settings ++ emissions) = String.join (outputs emissions) := by
  have silent : outputs (announcement settings) = [] := outputs_log settings _
  change String.join (outputs _) = _
  simp [silent]

@[simp] theorem reports_run
    (settings : Settings)
    (emissions : List Emission) :
    reports (announcement settings ++ emissions) = reports emissions := by
  simp [announcement]

/--
A run over files is not abandoned if they fit the offsets.  Unless it is, it lists the lines of each
file before the first that cannot be read, up to the first line of it that cannot be tokenized;
complains of each of these files that has such a line and then of the one that cannot be read; and
ends with 0 if there is nothing to complain of, with 1 otherwise.  How much is logged and in which
colors has no effect on the listing and the exit code, nor has the form on the exit code.
-/
theorem run_through_files
    (parsed : Options.ofArguments arguments = .ok options)
    (inline : options.command = none)
    (named : options.files ≠ []) :
    ((∀ source ∈ world.sources options.files, source.Fits) →
        (run arguments world).exitCode ≠ 101) ∧
      ((run arguments world).exitCode ≠ 101 →
        outputText (run arguments world).emissions =
            String.join ((world.sources options.files).flatMap (Source.listed options.settings)) ∧
          List.Forall₂ (Complaint.Told options.settings)
            (world.complaints options.settings.dialect options.files)
            (reports (run arguments world).emissions) ∧
          ((run arguments world).exitCode = 0 ↔
            world.Sound options.settings.dialect options.files) ∧
          (¬ world.Sound options.settings.dialect options.files →
            (run arguments world).exitCode = 1)) ∧
      ∀ others other,
        Options.ofArguments others = .ok other →
          other.SameWork options →
            (other.json = options.json →
              outputText (run others world).emissions = outputText (run arguments world).emissions ∧
                (run others world).exitCode = (run arguments world).exitCode) ∧
            ((run others world).exitCode ≠ 101 →
              (run arguments world).exitCode ≠ 101 →
                (run others world).exitCode = (run arguments world).exitCode) := by
  rw [run_of_files parsed inline named]
  simp only [outputText_run, reports_run, ne_eq, Verdict.exitCode_eq_abandoned,
    Verdict.exitCode_eq_zero]
  refine ⟨not_broken_processFiles, ?_, ?_⟩
  · intro whole
    have works := works_processFiles whole
    refine ⟨congrArg String.join works.lists, works.tells, works.clean, fun unsound => ?_⟩
    exact Verdict.exitCode_eq_one.mpr ⟨fun clean => unsound (works.clean.mp clean), whole⟩
  · intro others other otherParsed same
    have otherInline : other.command = none := same.command.trans inline
    have otherNamed : other.files ≠ [] := same.files ▸ named
    rw [run_of_files otherParsed otherInline otherNamed, same.files]
    simp only [outputText_run, Verdict.exitCode_eq_abandoned]
    refine ⟨?_, ?_⟩
    · intro sameForm
      have alike := processFiles_alike (same.alike sameForm) world options.files
      exact ⟨congrArg String.join alike.outputs, congrArg Verdict.exitCode alike.verdict⟩
    · intro otherWhole whole
      have otherClean := (works_processFiles otherWhole).clean
      have clean := (works_processFiles whole).clean
      rw [same.dialect] at otherClean
      have sameVerdict :=
        Verdict.eq_of_clean_iff otherWhole whole (otherClean.trans clean.symm)
      exact congrArg Verdict.exitCode sameVerdict

/-- Three of four files are looked at: one with a fault, one without, and one that is missing. -/
theorem run_through_files_mixed :
    outputText
          (run ["-vv", "a", "b", "c", "a"]
            (.ofTexts [("a", "if\n\"x\nfor"), ("b", "ok")])).emissions =
        "1:0..2  If\n1:0..2  Word  \"ok\"\n" ∧
      (run ["--no-color", "a", "b", "c", "a"]
          (.ofTexts [("a", "if\n\"x\nfor"), ("b", "ok")])).exitCode = 1 := by
  generalize isWorld : World.ofTexts [("a", "if\n\"x\nfor"), ("b", "ok")] = world
  have parsed :
      Options.ofArguments ["-vv", "a", "b", "c", "a"] =
        .ok ⟨["a", "b", "c", "a"], none, false, false, none, 2⟩ := by
    rfl
  have otherParsed :
      Options.ofArguments ["--no-color", "a", "b", "c", "a"] =
        .ok ⟨["a", "b", "c", "a"], none, false, true, none, 0⟩ := by
    rfl
  have first : world.text "a" = .ok "if\n\"x\nfor" := by
    rw [← isWorld, World.text_ofTexts]
    rfl
  have second : world.text "b" = .ok "ok" := by
    rw [← isWorld, World.text_ofTexts]
    rfl
  have missing : world.text "c" = .error .missing := by
    rw [← isWorld, World.text_ofTexts]
    rfl
  have sources :
      world.sources ["a", "b", "c", "a"] = [⟨"a", ["if", "\"x", "for"]⟩, ⟨"b", ["ok"]⟩] := by
    simp only [World.sources, first, second, missing]
    decide
  have unsound : ¬ world.Sound .usual ["a", "b", "c", "a"] := by
    intro sound
    obtain ⟨_, reads, _⟩ := sound "c" (by simp)
    rw [missing] at reads
    cases reads
  obtain ⟨whole, told, same⟩ := @run_through_files _ _ world parsed rfl (by simp)
  have fits : ∀ source ∈ world.sources ["a", "b", "c", "a"], source.Fits := by
    simp only [sources, List.forall_mem_cons, List.not_mem_nil, false_implies, implies_true,
      and_true]
    exact ⟨⟨by decide, by decide⟩, ⟨by decide, by decide⟩⟩
  obtain ⟨lists, -, -, blamed⟩ := told (whole fits)
  obtain ⟨alike, -⟩ := same _ _ otherParsed ⟨rfl, rfl, rfl⟩
  refine ⟨?_, ?_⟩
  · rw [lists, sources]
    decide +kernel
  · rw [(alike rfl).2]
    exact blamed unsound

end

end Brace.CommandLine
