import RelayPool.Document.Text
import RelayPool.Text.Utf8

/-!
# Faults of documents

Why a file holds no document, and why a well-formed document holds no value.
-/

namespace RelayPool.Yaml

/-- Why a well-formed document holds no value. -/
inductive ValueFault
  | numeral (fault : Number.NumeralFault)
  | calendar (fault : Calendar.Fault)
  | emptyNumeral
  | truthValue (written : String)
  | timestamp
  | timestampOfMapping
  | codePoint
  | codePointTooLarge
  | scaleTooLarge
  deriving DecidableEq, Repr

/-- The sentence that reports a fault. -/
def ValueFault.message : ValueFault → String
  | .numeral fault => fault.message
  | .calendar fault => fault.message
  | .emptyNumeral => "string index out of range"
  | .truthValue written => Text.quoted written
  | .timestamp => "'NoneType' object has no attribute 'groupdict'"
  | .timestampOfMapping => "expected string or bytes-like object, got 'list'"
  | .codePoint => "chr() arg not in range(0x110000)"
  | .codePointTooLarge => "Python int too large to convert to C int"
  | .scaleTooLarge => "int too large to convert to float"

/-- Why a file holds no document, or a document no value. -/
inductive Fault
  | encoding (fault : Text.Utf8.Fault)
  | malformed
  | value (fault : ValueFault)
  deriving DecidableEq, Repr

end RelayPool.Yaml
