import SchemaWipe.Calendar
import SchemaWipe.Number.Literal
import SchemaWipe.Text.Quoted

/-! Failures that no rule of the program foresees. They are not among its own errors, so nothing
catches them on the way out. -/
namespace SchemaWipe

/-- The cause of an unforeseen failure. -/
inductive Breakdown where
  /-- An infinite number was to become a whole one. -/
  | infiniteInteger
  /-- A whole number has more digits than may be written. -/
  | unwritableInteger
  /-- A whole number has more digits than may be read. -/
  | unreadableInteger (digits : Nat)
  /-- A text marked as a whole number is none in its base. -/
  | notInteger (base : Nat) (text : String)
  /-- A text marked as a number is none. -/
  | notNumber (text : String)
  /-- A text marked as a number is empty. -/
  | emptyNumber
  /-- A power of sixty is too large for a fractional number. -/
  | unboundedScale
  /-- A text marked as a truth value is no word for one. -/
  | notSwitch (word : String)
  /-- A text marked as a date is none. -/
  | notTimestamp
  /-- The numbers of a date name no day or time. -/
  | calendar (fault : Calendar.Fault)
  /-- An escape names a number beyond the last character; `huge` beyond thirty-one bits. -/
  | character (huge : Bool)
  /-- A collection contains itself. -/
  | endless
  /-- The name of a log level stands for a text that names no level. -/
  | logLevel (text : String)
  /-- The name of a log level stands for something that is neither a number nor a text. -/
  | logLevelKind (shown : String)
  /-- The input ended before a password was given. -/
  | endOfInput
  deriving DecidableEq

namespace Breakdown

/-- The explanation of a failure. -/
def message : Breakdown → String
  | infiniteInteger => "cannot convert float infinity to integer"
  | unwritableInteger =>
    s!"Exceeds the limit ({Number.digitLimit} digits) for integer string conversion; " ++
      "use sys.set_int_max_str_digits() to increase the limit"
  | unreadableInteger digits =>
    s!"Exceeds the limit ({Number.digitLimit} digits) for integer string conversion: " ++
      s!"value has {digits} digits; use sys.set_int_max_str_digits() to increase the limit"
  | notInteger base text =>
    s!"invalid literal for int() with base {base}: " ++
      String.ofList ((Text.quote text.toList).take 200)
  | notNumber text => "could not convert string to float: " ++ Text.quoted text
  | emptyNumber => "string index out of range"
  | unboundedScale => "int too large to convert to float"
  | notSwitch word => Text.quoted word
  | notTimestamp => "'NoneType' object has no attribute 'groupdict'"
  | calendar fault => fault.message
  | character huge =>
    if huge then "Python int too large to convert to C int"
    else "chr() arg not in range(0x110000)"
  | endless => "maximum recursion depth exceeded"
  | logLevel text => "Unknown level: " ++ Text.quoted text
  | logLevelKind shown => "Level not an integer or a valid string: " ++ shown
  | endOfInput => ""

end Breakdown
end SchemaWipe
