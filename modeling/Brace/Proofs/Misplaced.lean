import Brace.Proofs.Prospect
import Brace.Report.Wording

namespace Brace

/-!
# Misplaced interpolation marks

An interpolation mark is misplaced outside of strings, and in strings whose delimiter allows no
interpolation.  An audit that finds a misplaced mark comes to the mark in a state that rejects it,
whatever comes after the mark; and this state passes the mark once a backslash stands before it.
-/

/-- Whether a cause is an interpolation mark in a place where none is allowed. -/
def Fault.Cause.misplacesMark : Fault.Cause → Bool
  | notInString => true
  | notInInterpolationString _ => true
  | _ => false

/-- The causes that are put right by an escaped mark are the misplaced marks. -/
theorem Fault.Cause.help_of_misplacesMark
    {cause : Fault.Cause}
    (misplaces : cause.misplacesMark = true) :
    ∃ lead trail, cause.help = some (lead ++ escapedMark ++ trail) := by
  cases cause with
  | notInString => exact ⟨_, _, rfl⟩
  | notInInterpolationString delimiter =>
      exact ⟨"interpolate in a double-quoted string or escape it as ", "", by simp [help]⟩
  | stringNotEnded => cases misplaces
  | interpolationNotEnded => cases misplaces

namespace Audit

variable {dialect : Dialect} {state : State} {cause : Fault.Cause}

theorem State.Rejects.sound
    (rejects : state.Rejects dialect cause) :
    state.Sound := by
  cases rejects with
  | outside => trivial
  | forbidden quote plain => exact quote

/-- A state that rejects a mark passes it after a backslash. -/
theorem State.Rejects.faultFrom_escaped
    (rejects : state.Rejects dialect cause)
    (position : Nat)
    (more : List Char) :
    faultFrom dialect state position ('\\' :: interpolationMark :: more) =
      faultFrom dialect state (position + 2) more := by
  cases rejects with
  | outside =>
      rw [faultFrom, if_pos rfl, faultFrom, if_neg interpolationMark_ne_backslash, if_pos rfl]
  | forbidden quote plain => exact faultFrom_taken (by decide)

/--
The way of an audit to a misplaced mark: characters that lead it to a state which rejects the mark,
whatever comes after them.
-/
inductive Rejection (dialect : Dialect) (state : State) (position : Nat) (text : List Char)
    (fault : Fault) : Prop
  | meets (before after : List Char) (next : State)
      (shape : text = before ++ interpolationMark :: after)
      (rejects : next.Rejects dialect fault.cause)
      (found : fault = ⟨fault.cause, none, position + before.length⟩)
      (leads :
        ∀ more,
          faultFrom dialect state position (before ++ more) =
            faultFrom dialect next (position + before.length) more)

/-- The way to a misplaced mark is that from where some characters lead, after these characters. -/
theorem Rejection.prepend
    {state next : State}
    {position : Nat}
    {taken text : List Char}
    {fault : Fault}
    (same :
      ∀ more,
        faultFrom dialect state position (taken ++ more) =
          faultFrom dialect next (position + taken.length) more)
    (rejection : Rejection dialect next (position + taken.length) text fault) :
    Rejection dialect state position (taken ++ text) fault := by
  obtain ⟨before, after, last, rfl, rejects, found, leads⟩ := rejection
  refine .meets (taken ++ before) after last ?_ rejects ?_ ?_
  · rw [List.append_assoc]
  · rw [List.length_append, ← Nat.add_assoc]
    exact found
  · intro more
    rw [List.append_assoc, same, leads, List.length_append, Nat.add_assoc]

/-- What misplaces a mark at which an audit ends is the state that it ends in. -/
theorem State.Stops.rejects
    {position : Nat}
    {fault : Fault}
    (stops : state.Stops dialect position fault)
    (misplaces : fault.cause.misplacesMark = true) :
    state.Rejects dialect fault.cause ∧ fault = ⟨fault.cause, none, position⟩ := by
  cases stops with
  | rejected rejects => exact ⟨rejects, rfl⟩
  | @inside delimiter start mark raw found unmarked faulty =>
      have unended : found.cause = .stringNotEnded := cause_of_unmarked unmarked faulty
      have moved : (found.moved (mark + 1)).cause = .stringNotEnded := unended
      rw [moved] at misplaces
      cases misplaces

/-- The end of a text misplaces no mark. -/
theorem misplacesMark_of_ended
    {position : Nat}
    {fault : Fault}
    (found : faultFrom dialect state position [] = some fault) :
    fault.cause.misplacesMark = false := by
  cases state with
  | plain armed => simp [faultFrom] at found
  | quoted delimiter start =>
      rw [faultFrom] at found
      cases found
      rfl
  | segment delimiter start mark raw =>
      rw [faultFrom] at found
      cases found
      rfl

/-- A backslash at the end of a string so far misplaces no mark. -/
theorem misplacesMark_of_dangling
    {delimiter : Char}
    {start position : Nat}
    {fault : Fault}
    (found : faultFrom dialect (.quoted delimiter start) position ['\\'] = some fault) :
    fault.cause.misplacesMark = false := by
  rw [faultFrom, if_pos rfl, if_neg (by simp)] at found
  exact misplacesMark_of_ended found

/-- An audit that finds a misplaced mark comes to it in a state that rejects it. -/
theorem rejection_of_misplaced
    {state : State}
    {position : Nat}
    {text : List Char}
    {fault : Fault}
    (sound : state.Sound)
    (misplaces : fault.cause.misplacesMark = true)
    (found : faultFrom dialect state position text = some fault) :
    Rejection dialect state position text fault := by
  -- The induction is on the text: what an advance leaves of it is shorter.
  by_cases left : text = []
  · rw [left] at found
    rw [misplacesMark_of_ended found] at misplaces
    cases misplaces
  · cases @advance dialect position state text sound left with
    | passes taken rest next shape nonempty nextSound outside leads =>
        have shorter := length_lt_of_shape shape nonempty
        rw [shape, leads] at found
        rw [shape]
        exact (rejection_of_misplaced nextSound misplaces found).prepend leads
    | dangles delimiter start shape isQuoted quote =>
        rw [shape, isQuoted] at found
        rw [misplacesMark_of_dangling found] at misplaces
        cases misplaces
    | stops rest _ shape stops =>
        rw [shape, stops.faultFrom_mark] at found
        cases found
        obtain ⟨rejects, same⟩ := stops.rejects misplaces
        exact .meets [] rest state shape rejects same fun _ => rfl
termination_by text.length

end Audit

end Brace
