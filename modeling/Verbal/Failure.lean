/-!
# Failures

Building an expression never fails. A failure shows when its pattern is compiled, or while a text
is matched.
-/

namespace Verbal

/-- Why an expression could not be evaluated. -/
inductive Failure where
  | invalidPattern (pattern message : String)
  | evaluation (message : String)
  deriving Repr, DecidableEq

namespace Failure

/-- The failure as it is shown. -/
def display : Failure → String
  | invalidPattern pattern message =>
    "invalid pattern " ++ "\x60" ++ pattern ++ "\x60: " ++ message
  | evaluation message => "evaluation error: " ++ message

/-- Whether it is the pattern that failed. -/
def isInvalidPattern : Failure → Bool
  | invalidPattern _ _ => true
  | evaluation _ => false

end Failure

end Verbal
