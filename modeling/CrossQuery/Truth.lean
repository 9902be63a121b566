/-!
# Truth values

The three truth values of conditions on rows with missing values, and Kleene's connectives.
-/

set_option autoImplicit false

namespace CrossQuery

inductive Truth where
  | no
  | unknown
  | yes
deriving DecidableEq, Inhabited

namespace Truth

/-- The truth value of a test that has an answer. -/
def ofBool (value : Bool) : Truth :=
  if value then .yes else .no

/-- Whether a condition holds for certain. -/
def holds (truth : Truth) : Bool :=
  truth == .yes

/-- Conjunction: a false part decides, and an unknown one leaves the rest open. -/
def and : Truth → Truth → Truth
  | .no, _ => .no
  | _, .no => .no
  | .yes, .yes => .yes
  | _, _ => .unknown

/-- Disjunction: a true part decides, and an unknown one leaves the rest open. -/
def or : Truth → Truth → Truth
  | .yes, _ => .yes
  | _, .yes => .yes
  | .no, .no => .no
  | _, _ => .unknown

/-- Negation, which leaves what is unknown unknown. -/
def not : Truth → Truth
  | .no => .yes
  | .unknown => .unknown
  | .yes => .no

@[simp] theorem holds_ofBool (value : Bool) : (ofBool value).holds = value := by
  cases value <;> rfl

@[simp] theorem not_not (truth : Truth) : truth.not.not = truth := by
  cases truth <;> rfl

end Truth

end CrossQuery
