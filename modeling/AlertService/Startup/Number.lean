import AlertService.Text.Blank
import AlertService.Text.Digits

/-!
# Numbers in settings

A setting that is a number may have blanks around it, a plus sign and leading zeros.
-/

namespace AlertService

inductive NumberError where
  | empty
  | invalidDigit
  | tooLarge
deriving DecidableEq

namespace NumberError

def message : NumberError → String
  | .empty => "cannot parse integer from empty string"
  | .invalidDigit => "invalid digit found in string"
  | .tooLarge => "number too large to fit in target type"

end NumberError

namespace Setting

/-- Reads digits from left to right after the number `n`; every prefix has to stay below `bound`. -/
def readDigits (bound n : Nat) : List Char → Except NumberError Nat
  | [] => .ok n
  | c :: cs =>
    match Text.digitValue? c with
    | none => .error .invalidDigit
    | some d => if n * 10 + d < bound then readDigits bound (n * 10 + d) cs else .error .tooLarge

/-- The number below `bound` that a text writes. -/
def number (bound : Nat) (s : String) : Except NumberError Nat :=
  match Text.trim s.toList with
  | [] => .error .empty
  | ['+'] => .error .invalidDigit
  | '+' :: ds => readDigits bound 0 ds
  | ds => readDigits bound 0 ds

end Setting

end AlertService
