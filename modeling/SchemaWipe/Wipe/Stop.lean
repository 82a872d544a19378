import SchemaWipe.Guard
import SchemaWipe.Wipe.Failure

/-! Why an operation ends without a result. -/
namespace SchemaWipe

/-- The ways in which an operation ends early. Only the first three are the program's own errors. -/
inductive Stop where
  | fault (cause : Settings.Fault)
  | refusal (cause : Guard.Refusal)
  | failure (cause : Wipe.Failure)
  /-- An error of a call that nothing explained. -/
  | raised (error : Database.Error)
  | breakdown (cause : Breakdown)

/-- The end of an operation whose settings cannot be read. -/
def Stop.ofSettings : Settings.Error → Stop
  | .fault cause => .fault cause
  | .breakdown cause => .breakdown cause

/-- The explanation of an early end. -/
def Stop.message : Stop → String
  | fault cause => cause.message
  | refusal cause => cause.message
  | failure cause => cause.message
  | raised error => error.message
  | breakdown cause => cause.message

end SchemaWipe
