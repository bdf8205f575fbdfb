import Brace.Scan.Stretch

namespace Brace

/-!
# Tokenizing a line

The tokens of one line, or of the text of one interpolation, which is tokenized by the same rules.
Offsets count from the start of the text.
-/

/--
The tokens of a text.  The text of an interpolation is shorter than the text around it, so that the
other branch is never taken; `tokenize_eq` leaves it out.
-/
def tokenize (dialect : Dialect) (text : String) : Except Halt (List Token) :=
  Scan.run
    (fun raw => if _shorter : raw.length < text.length then tokenize dialect raw else .ok [])
    dialect
    (Scan.ofText text)
termination_by text.length

/-- Tokenizing is a scan in which interpolations are tokenized in the same way. -/
theorem tokenize_eq (dialect : Dialect) (text : String) :
    tokenize dialect text = (Scan.ofText text).run (tokenize dialect) dialect := by
  rw [tokenize]
  refine Scan.run_congr ?_
  intro raw short
  have size : (Scan.ofText text).stretch = text.length := by
    exact String.length_toList
  rw [size] at short
  exact dif_pos short

end Brace
