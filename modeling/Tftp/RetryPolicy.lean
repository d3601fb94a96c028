import Tftp.Fault

/-! # Retry policy

    A session resends its last packet at most `retries` times, waiting `timeout` seconds for the
    peer each time, before it gives up.  Both settings must be numbers (a flag counts as 0 or 1)
    that are not negative; `retries` is checked first, then `timeout`.  The retry count is the
    integer part of what was given, which an infinite or undefined double does not have; the
    timeout is kept as given, integer, double or flag. -/

namespace Tftp

/-- A timeout as given: a number of seconds, or a flag that counts as 0 or 1 second. -/
inductive Timeout where
  | number (n : Number)
  | flag (b : Bool)
  deriving Inhabited

/-- The seconds a timeout stands for. -/
def Timeout.amount : Timeout → Number
  | .number n => n
  | .flag b => .int (if b then 1 else 0)

/-- How often a session resends its last packet, and how long it waits for the peer. -/
structure RetryPolicy where
  retries : Nat
  timeout : Timeout
  deriving Inhabited

/-- Why a retry policy cannot be made. -/
inductive PolicyError where
  /-- a setting is negative; the setting's name and the value as a literal -/
  | negative (setting : String) (shown : String)
  /-- a setting is no number; its type name -/
  | notComparable (typeName : String)
  /-- the retry count is an infinite double -/
  | infinite
  /-- the retry count is an undefined double -/
  | undefined

namespace PolicyError

/-- The error as a failure of the host: an invalid value, or a value of the wrong kind. -/
def failure : PolicyError → Failure
  | .negative setting shown => Failure.ofHost .value (setting ++ " must not be negative, got " ++ shown)
  | .notComparable t =>
    Failure.ofHost .type ("'<' not supported between instances of '" ++ t ++ "' and 'int'")
  | .infinite => Failure.ofHost .overflow "cannot convert float infinity to integer"
  | .undefined => Failure.ofHost .value "cannot convert float NaN to integer"

end PolicyError

namespace RetryPolicy

/-- Three retries and five seconds. -/
def standard : RetryPolicy := ⟨defaultRetries, .number (.int defaultTimeout)⟩

/-- The seconds the policy waits for the peer. -/
def seconds (p : RetryPolicy) : Number := p.timeout.amount

/-- A setting that is a number and not negative. -/
def checkSetting (setting : String) (v : Value) : Except PolicyError Number :=
  match v.toNumber? with
  | none => .error (.notComparable v.typeName)
  | some n => if n.isNeg then .error (.negative setting (Literal.value v)) else .ok n

/-- The integer part of a retry count. -/
def wholeRetries : Number → Except PolicyError Nat
  | .int n => .ok n.toNat
  | .float x =>
    if x.isNaN then .error .undefined
    else if x.isInf then .error .infinite
    else .ok (truncateDouble x).toNat

/-- The timeout as given: a flag stays a flag. -/
def timeoutOf (v : Value) (n : Number) : Timeout :=
  match v with
  | .bool b => .flag b
  | _ => .number n

/-- The policy with the given settings. -/
def make (retries timeout : Value) : Except PolicyError RetryPolicy := do
  let r ← checkSetting "retries" retries
  let t ← checkSetting "timeout" timeout
  let count ← wholeRetries r
  pure ⟨count, timeoutOf timeout t⟩

end RetryPolicy

end Tftp
