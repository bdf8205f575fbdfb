import Mathlib.Logic.Function.Iterate
import Brace.Proofs.Misplaced
import Brace.Proofs.Overlong

namespace Brace

/-!
# Following the advice on misplaced marks

The report of a misplaced interpolation mark advises to escape it.  A backslash put there is
effective whatever comes before the mark, for the audit of the line comes to it in a state that
passes the two.  So what is reported next lies further on in the line, and each mark is escaped once
at most.
-/

namespace Audit

/-- Some characters lead the audit of every line that begins with them to a state. -/
structure Passes (dialect : Dialect) (before : List Char) (state : State) : Prop where
  sound : state.Sound
  leads : ∀ more, fault dialect (before ++ more) = faultFrom dialect state before.length more

variable {dialect : Dialect} {before after : List Char} {state : State} {found : Fault}

theorem passes_nil : Passes dialect [] (.plain false) :=
  ⟨trivial, fun _ => rfl⟩

/-- A misplaced mark lies after the characters that were passed, and is passed once escaped. -/
theorem Passes.exists_escaped
    (passes : Passes dialect before state)
    (misplaces : found.cause.misplacesMark = true)
    (faulty : fault dialect (before ++ after) = some found) :
    ∃ skipped rest next,
      after = skipped ++ interpolationMark :: rest ∧
        found = ⟨found.cause, none, (before ++ skipped).length⟩ ∧
        Passes dialect (before ++ skipped ++ ['\\', interpolationMark]) next := by
  rw [passes.leads] at faulty
  obtain ⟨skipped, rest, next, rfl, rejects, same, leads⟩ :=
    rejection_of_misplaced passes.sound misplaces faulty
  refine ⟨skipped, rest, next, rfl, by rwa [List.length_append], rejects.sound, ?_⟩
  intro more
  have escaped := rejects.faultFrom_escaped (before.length + skipped.length) more
  rw [List.append_assoc, List.append_assoc, passes.leads, leads]
  simpa [Nat.add_assoc] using escaped

end Audit

variable {dialect : Dialect} {text : List Char} {fault : Fault}

theorem audit_of_tokenize_error
    (fits : text.length < Offset.limit)
    (faulty : tokenize dialect (String.ofList text) = .error (.fault fault)) :
    Audit.fault dialect text = some fault := by
  rw [← String.length_ofList] at fits
  have found := ((tokenize_error_iff_audit fits).1 fault).mp faulty
  rwa [String.toList_ofList] at found

/-- A misplaced mark is found by the audit of a text, whether the text fits the offsets or not. -/
theorem audit_of_misplaced
    (misplaces : fault.cause.misplacesMark = true)
    (faulty : tokenize dialect (String.ofList text) = .error (.fault fault)) :
    Audit.fault dialect text = some fault := by
  by_cases fits : text.length < Offset.limit
  · exact audit_of_tokenize_error fits faulty
  · -- The mark is one of the characters that can be counted, so it is met in the same state.
    have faultyFirst := tokenize_take_of_fault (Nat.not_lt.mp fits) faulty
    have short := length_take_lt_limit text
    obtain ⟨before, after, next, shape, rejects, same, leads⟩ :=
      @Audit.rejection_of_misplaced dialect (.plain false) 0 _ fault trivial misplaces
        (audit_of_tokenize_error short faultyFirst)
    rw [← List.take_append_drop (Offset.limit - 1) text, shape, List.append_assoc, Audit.fault,
      leads, List.cons_append, rejects.faultFrom_mark, ← same]

/-- The text with a backslash before the character at an offset. -/
def escapeAt (text : String) (offset : Nat) : String :=
  String.ofList (text.toList.insertIdx offset '\\')

theorem escapeAt_append
    (before after : List Char) :
    escapeAt (String.ofList (before ++ after)) before.length =
      String.ofList (before ++ '\\' :: after) := by
  rw [escapeAt, String.toList_ofList, Account.insertIdx_length_append]

/-- The text with the advice on it followed, if it has a misplaced mark. -/
def heed (dialect : Dialect) (text : String) : String :=
  match tokenize dialect text with
  | .error (.fault fault) =>
      if fault.cause.misplacesMark then escapeAt text fault.offset else text
  | _ => text

/-- No interpolation mark is reported to be misplaced in a text. -/
def Placed (dialect : Dialect) (text : String) : Prop :=
  ∀ fault, tokenize dialect text = .error (.fault fault) → fault.cause.misplacesMark = false

/-- A text without a misplaced mark is left as it is. -/
theorem heed_of_placed
    {text : String}
    (placed : Placed dialect text) :
    heed dialect text = text := by
  unfold heed
  split
  · rename_i fault faulty
    rw [placed fault faulty]
    rfl
  · rfl

/-- The advice is followed at a mark that was not passed yet, and this mark is passed then. -/
theorem placed_or_heeded
    {before after : List Char}
    {state : Audit.State}
    (passes : Audit.Passes dialect before state) :
    Placed dialect (String.ofList (before ++ after)) ∨
      ∃ skipped rest next,
        after = skipped ++ interpolationMark :: rest ∧
          heed dialect (String.ofList (before ++ after)) =
            String.ofList (before ++ skipped ++ ['\\', interpolationMark] ++ rest) ∧
          Audit.Passes dialect (before ++ skipped ++ ['\\', interpolationMark]) next := by
  by_cases placed : Placed dialect (String.ofList (before ++ after))
  · exact Or.inl placed
  · right
    obtain ⟨fault, faulty, misplaces⟩ :
        ∃ fault,
          tokenize dialect (String.ofList (before ++ after)) = .error (.fault fault) ∧
            fault.cause.misplacesMark = true := by
      simpa [Placed] using placed
    obtain ⟨skipped, rest, next, rfl, same, passesMark⟩ :=
      passes.exists_escaped misplaces (audit_of_misplaced misplaces faulty)
    refine ⟨skipped, rest, next, rfl, ?_, passesMark⟩
    have offset : fault.offset = (before ++ skipped).length := congrArg Fault.offset same
    simp only [heed, faulty, misplaces, ↓reduceIte]
    rw [offset, ← List.append_assoc, escapeAt_append]
    simp

/-- The advice is followed as often as there are marks after the characters that are passed. -/
theorem placed_of_heeded
    {before after : List Char}
    {state : Audit.State}
    {marks : Nat}
    (passes : Audit.Passes dialect before state)
    (few : after.count interpolationMark ≤ marks) :
    Placed dialect ((heed dialect)^[marks] (String.ofList (before ++ after))) := by
  induction marks generalizing before after state with
  | zero =>
      rcases @placed_or_heeded dialect before after state passes with
        placed | ⟨skipped, rest, next, rfl, -, -⟩
      · exact placed
      · simp at few
  | succ marks inductionHypothesis =>
      rcases @placed_or_heeded dialect before after state passes with
        placed | ⟨skipped, rest, next, rfl, heeded, passesMark⟩
      · rwa [Function.iterate_fixed (heed_of_placed placed)]
      · rw [Function.iterate_succ_apply, heeded]
        refine inductionHypothesis passesMark ?_
        rw [List.count_append, List.count_cons_self] at few
        omega

/--
The report of a misplaced mark advises to escape it.  With a backslash before the mark, no mark at
this place or before it is misplaced any more; and once the advice has been followed as often as
there are marks in the text, or before, no mark is misplaced.
-/
theorem heeded_advice
    (dialect : Dialect)
    (text : String) :
    (∀ fault,
        tokenize dialect text = .error (.fault fault) →
          fault.cause.misplacesMark = true →
            (∃ lead trail, fault.cause.help = some (lead ++ Fault.Cause.escapedMark ++ trail)) ∧
              ∀ other,
                tokenize dialect (escapeAt text fault.offset) = .error (.fault other) →
                  other.cause.misplacesMark = true →
                    fault.offset + 1 < other.offset) ∧
      Placed dialect ((heed dialect)^[text.toList.count interpolationMark] text) := by
  obtain ⟨text, rfl⟩ : ∃ characters, text = String.ofList characters :=
    ⟨text.toList, String.ofList_toList.symm⟩
  refine ⟨?_, ?_⟩
  · intro fault faulty misplaces
    refine ⟨Fault.Cause.help_of_misplacesMark misplaces, ?_⟩
    intro other otherFaulty otherMisplaces
    obtain ⟨skipped, rest, next, rfl, same, passes⟩ :=
      Audit.passes_nil.exists_escaped misplaces (audit_of_misplaced misplaces faulty)
    have offset : fault.offset = skipped.length := congrArg Fault.offset same
    rw [offset, escapeAt_append] at otherFaulty
    have otherFound := audit_of_misplaced otherMisplaces otherFaulty
    have apart :
        skipped ++ '\\' :: interpolationMark :: rest =
          [] ++ skipped ++ ['\\', interpolationMark] ++ rest := by
      simp
    rw [apart] at otherFound
    obtain ⟨between, -, -, -, otherSame, -⟩ := passes.exists_escaped otherMisplaces otherFound
    have otherOffset : other.offset = _ := congrArg Fault.offset otherSame
    rw [offset, otherOffset]
    simp only [List.nil_append, List.length_append, List.length_cons]
    omega
  · rw [String.toList_ofList]
    exact @placed_of_heeded dialect [] text (.plain false) _ Audit.passes_nil (Nat.le_refl _)

/-- Two misplaced marks of a text, the second one of which is met once the first one is escaped. -/
theorem heeded_advice_twice :
    (∃ lead trail,
        Fault.Cause.help .notInString = some (lead ++ Fault.Cause.escapedMark ++ trail)) ∧
      1 + 1 < 5 ∧
      (heed .usual)^[2] "?\x60'x\x60" = "?\\\x60'x\\\x60" ∧
      Fault.Cause.misplacesMark .stringNotEnded = false := by
  have outside : tokenize .usual "?\x60'x\x60" = .error (.fault ⟨.notInString, none, 1⟩) := by
    decide +kernel
  have forbidden :
      tokenize .usual (escapeAt "?\x60'x\x60" 1) =
        .error (.fault ⟨.notInInterpolationString '\'', none, 5⟩) := by
    decide +kernel
  have heeded : (heed .usual)^[2] "?\x60'x\x60" = "?\\\x60'x\\\x60" := by
    decide +kernel
  have unended :
      tokenize .usual ((heed .usual)^[2] "?\x60'x\x60") =
        .error (.fault ⟨.stringNotEnded, none, 3⟩) := by
    rw [heeded]
    decide +kernel
  obtain ⟨advises, placed⟩ := heeded_advice .usual "?\x60'x\x60"
  obtain ⟨helps, further⟩ := advises _ outside rfl
  exact ⟨helps, further _ forbidden rfl, heeded, placed _ unended⟩

end Brace
