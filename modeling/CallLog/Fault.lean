import CallLog.Class
import CallLog.Issue

/-!
# Faults

A fault is a failure that no program asked for: the library or the evaluation of a program meets
input that it cannot go on with. The constructors are causes. The class of the exception that a
fault is seen as, and its text, follow from the cause.
-/

namespace CallLog

/-- The cause of a failure. -/
inductive Fault where
  /-- a level name that names no level; `shown` displays it -/
  | unknownLevel (shown : String)
  | levelNotConcrete
  /-- something that cannot be called was to be logged -/
  | notCallable (shown : String)
  /-- something that is neither a name nor a class nor a module was to name a logger -/
  | noLoggerName (shown : String)
  /-- a numeral that is too long to read -/
  | longNumeral (digits : Nat)
  /-- an integer that is too long to write -/
  | longInteger
  | noExport (name : String)
  | invalid (issues : List Issue)
  /-- a value that refuses to be displayed -/
  | noDisplay
  | noLength (className : String)
  | noMember (owner : String) (name : String)
  /-- a member that was looked for by a rule of the owner's own -/
  | noSuchMember (name : String)
  | unknownName (name : String)
  | notExpression
  | indexOutOfRange
  | missingKey (shown : String)
  | tooFewOperands
  | tooManyOperands
  | needsMapping
  | badConversion
  /-- a number that is too large for its place -/
  | tooLargeNumber
  /-- a text that is too long to be kept -/
  | outOfMemory
  /-- a keyword that the receiver already has from another source -/
  | keywordClash (name : String)
  /-- arguments that do not fit a signature -/
  | unbound (reason : String)
  /-- a value that cannot be the key of a weak table -/
  | notReferable (className : String)
  | unhashable (className : String)
  /-- an operation that a value of the class does not have -/
  | unsupported (reason : String)
  | noSignature (shown : String)
  | notRaisable
  | callDepth
  /-- a computation that would wait forever -/
  | deadlock
  /-- a coroutine that was ended by the exception that stands for the end of an iteration -/
  | stoppedCoroutine
  /-- a coroutine that was awaited before -/
  | spentCoroutine
  deriving Repr, DecidableEq

namespace Fault

/-- The class of the exception that a fault is seen as. -/
def kind : Fault → KnownClass
  | unknownLevel _ | levelNotConcrete | longNumeral _ | longInteger | badConversion
  | noSignature _ => .valueError
  | noExport _ | noMember _ _ | noSuchMember _ => .attributeError
  | invalid _ => .validationError
  | noDisplay | deadlock | stoppedCoroutine | spentCoroutine => .runtimeError
  | unknownName _ => .nameError
  | notExpression => .syntaxError
  | indexOutOfRange => .indexError
  | missingKey _ => .keyError
  | callDepth => .recursionError
  | tooLargeNumber => .overflowError
  | outOfMemory => .memoryError
  | notCallable _ | noLoggerName _ | noLength _ | tooFewOperands | tooManyOperands | needsMapping
  | keywordClash _ | unbound _ | notReferable _ | unhashable _ | unsupported _ | notRaisable =>
    .typeError

/-- The text of a fault. -/
def message : Fault → String
  | unknownLevel shown => "unknown log level: " ++ shown
  | levelNotConcrete => "log_level must be a concrete level, not DERIVED"
  | notCallable shown => "cannot log " ++ shown ++ ": not callable"
  | noLoggerName shown => "cannot derive a logger name from " ++ shown
  | longNumeral digits =>
    "Exceeds the limit (4300 digits) for integer string conversion: value has " ++
      toString digits ++ " digits; use sys.set_int_max_str_digits() to increase the limit"
  | longInteger =>
    "Exceeds the limit (4300 digits) for integer string conversion; " ++
      "use sys.set_int_max_str_digits() to increase the limit"
  | noExport name => "module 'logpoint' has no attribute '" ++ name ++ "'"
  | invalid issues => toString issues.length ++ " validation errors"
  | noDisplay => "no repr"
  | noLength className => "object of type '" ++ className ++ "' has no len()"
  | noMember owner name => owner ++ " has no attribute '" ++ name ++ "'"
  | noSuchMember name => name
  | unknownName name => "name '" ++ name ++ "' is not defined"
  | notExpression => "Forward reference must be an expression"
  | indexOutOfRange => "list index out of range"
  | missingKey shown => shown
  | tooFewOperands => "not enough arguments for format string"
  | tooManyOperands => "not all arguments converted during string formatting"
  | needsMapping => "format requires a mapping"
  | badConversion => "unsupported format character"
  | tooLargeNumber => "the number is too large"
  | outOfMemory => "out of memory"
  | keywordClash name => "got multiple values for argument '" ++ name ++ "'"
  | unbound reason => reason
  | notReferable className => "cannot create weak reference to '" ++ className ++ "' object"
  | unhashable className => "unhashable type: '" ++ className ++ "'"
  | unsupported reason => reason
  | noSignature shown => "no signature found for " ++ shown
  | notRaisable => "exceptions must derive from BaseException"
  | callDepth => "maximum recursion depth exceeded"
  | deadlock => "the lock is held"
  | stoppedCoroutine => "coroutine raised StopIteration"
  | spentCoroutine => "cannot reuse already awaited coroutine"

end Fault

end CallLog
