/-!
# Classes

The classes of the values that are logged. A `KnownClass` exists from the start; its line of
ancestors is fixed. A class that a program makes is known by a reference to the object that holds
its name and its attributes, together with the known classes among its ancestors, which no later
change can touch.

The line of ancestors of a class begins with the class itself and is ordered so that a class stands
before its bases.
-/

namespace CallLog

/-- A class that exists before any program runs. -/
inductive KnownClass where
  /-- the class of all values -/
  | object
  | int
  | bool
  | float
  | str
  | bytes
  | list
  | tuple
  | dict
  | set
  | function
  | builtinFunction
  | method
  | generator
  | ellipsis
  | notImplemented
  /-- the class of modules -/
  | moduleType
  | byteArray
  | classMethod
  | complex
  | enumerate
  | filter
  | frozenSet
  | map
  | memoryView
  | property
  | range
  | reversed
  | slice
  | staticMethod
  | superType
  | zip
  /-- the class of classes -/
  | type
  /-- the class of the one value `None` -/
  | noneType
  /-- the annotation that admits every value -/
  | any
  /-- the root of the validated records -/
  | baseModel
  | invoice
  | receipt
  | base
  | left
  | right
  | bottom
  /-- a class whose values have a text of their own -/
  | loud
  /-- a class whose values cannot be displayed -/
  | mute
  | outer
  | inner
  /-- the mark that keeps a parameter out of the generated message -/
  | dontLog
  | baseException
  | exception
  | valueError
  | typeError
  | keyError
  | indexError
  | lookupError
  | runtimeError
  | osError
  | timeoutError
  | arithmeticError
  | zeroDivisionError
  | keyboardInterrupt
  | systemExit
  | notImplementedError
  | recursionError
  | connectionError
  | stopIteration
  | attributeError
  | nameError
  | syntaxError
  | assertionError
  | bufferError
  | eofError
  | importError
  | moduleNotFoundError
  | memoryError
  | referenceError
  | stopAsyncIteration
  | systemError
  | floatingPointError
  | overflowError
  | blockingIOError
  | childProcessError
  | fileExistsError
  | fileNotFoundError
  | interruptedError
  | isADirectoryError
  | notADirectoryError
  | permissionError
  | processLookupError
  | brokenPipeError
  | connectionAbortedError
  | connectionRefusedError
  | connectionResetError
  | unboundLocalError
  | indentationError
  | tabError
  | unicodeError
  | unicodeDecodeError
  | unicodeEncodeError
  | unicodeTranslateError
  | generatorExit
  | baseExceptionGroup
  | exceptionGroup
  | warning
  | bytesWarning
  | deprecationWarning
  | encodingWarning
  | futureWarning
  | importWarning
  | pendingDeprecationWarning
  | resourceWarning
  | runtimeWarning
  | syntaxWarning
  | unicodeWarning
  | userWarning
  | appError
  | childError
  | validationError
  deriving Repr, DecidableEq, Inhabited

namespace KnownClass

/-- The ancestors of a class of exceptions that derives from the common one. -/
def errorAncestors : List KnownClass :=
  [exception, baseException, object]

/-- The ancestors of a known class, ordered. -/
def ancestors : KnownClass → List KnownClass
  | object => []
  | bool => [int, object]
  | invoice => [baseModel, object]
  | receipt => [invoice, baseModel, object]
  | left | right | loud | mute | inner => [base, object]
  | bottom => [left, right, base, object]
  | exception | keyboardInterrupt | systemExit | generatorExit | baseExceptionGroup =>
    [baseException, object]
  | keyError | indexError => lookupError :: errorAncestors
  | timeoutError | connectionError | blockingIOError | childProcessError | fileExistsError
  | fileNotFoundError | interruptedError | isADirectoryError | notADirectoryError
  | permissionError | processLookupError => osError :: errorAncestors
  | brokenPipeError | connectionAbortedError | connectionRefusedError | connectionResetError =>
    connectionError :: osError :: errorAncestors
  | zeroDivisionError | floatingPointError | overflowError => arithmeticError :: errorAncestors
  | notImplementedError | recursionError => runtimeError :: errorAncestors
  | unicodeError | validationError => valueError :: errorAncestors
  | unicodeDecodeError | unicodeEncodeError | unicodeTranslateError =>
    unicodeError :: valueError :: errorAncestors
  | moduleNotFoundError => importError :: errorAncestors
  | unboundLocalError => nameError :: errorAncestors
  | indentationError => syntaxError :: errorAncestors
  | tabError => indentationError :: syntaxError :: errorAncestors
  | exceptionGroup => baseExceptionGroup :: errorAncestors
  | bytesWarning | deprecationWarning | encodingWarning | futureWarning | importWarning
  | pendingDeprecationWarning | resourceWarning | runtimeWarning | syntaxWarning
  | unicodeWarning | userWarning => warning :: errorAncestors
  | childError => appError :: valueError :: errorAncestors
  | valueError | typeError | lookupError | runtimeError | osError | arithmeticError
  | stopIteration | attributeError | nameError | syntaxError | appError | assertionError
  | bufferError | eofError | importError | memoryError | referenceError | stopAsyncIteration
  | systemError | warning => errorAncestors
  | _ => [object]

/-- The line of ancestors of a known class, the class itself first. -/
def line (k : KnownClass) : List KnownClass :=
  k :: k.ancestors

/-- The qualified name of a known class. -/
def qualname : KnownClass → String
  | object => "object"
  | int => "int"
  | bool => "bool"
  | float => "float"
  | str => "str"
  | bytes => "bytes"
  | list => "list"
  | tuple => "tuple"
  | dict => "dict"
  | set => "set"
  | function => "function"
  | builtinFunction => "builtin_function_or_method"
  | method => "method"
  | generator => "generator"
  | ellipsis => "ellipsis"
  | notImplemented => "NotImplementedType"
  | moduleType => "module"
  | byteArray => "bytearray"
  | classMethod => "classmethod"
  | complex => "complex"
  | enumerate => "enumerate"
  | filter => "filter"
  | frozenSet => "frozenset"
  | map => "map"
  | memoryView => "memoryview"
  | property => "property"
  | range => "range"
  | reversed => "reversed"
  | slice => "slice"
  | staticMethod => "staticmethod"
  | superType => "super"
  | zip => "zip"
  | type => "type"
  | noneType => "NoneType"
  | any => "Any"
  | baseModel => "BaseModel"
  | invoice => "Invoice"
  | receipt => "Receipt"
  | base => "Base"
  | left => "Left"
  | right => "Right"
  | bottom => "Bottom"
  | loud => "Loud"
  | mute => "Mute"
  | outer => "Outer"
  | inner => "Outer.Inner"
  | dontLog => "DontLog"
  | baseException => "BaseException"
  | exception => "Exception"
  | valueError => "ValueError"
  | typeError => "TypeError"
  | keyError => "KeyError"
  | indexError => "IndexError"
  | lookupError => "LookupError"
  | runtimeError => "RuntimeError"
  | osError => "OSError"
  | timeoutError => "TimeoutError"
  | arithmeticError => "ArithmeticError"
  | zeroDivisionError => "ZeroDivisionError"
  | keyboardInterrupt => "KeyboardInterrupt"
  | systemExit => "SystemExit"
  | notImplementedError => "NotImplementedError"
  | recursionError => "RecursionError"
  | connectionError => "ConnectionError"
  | stopIteration => "StopIteration"
  | attributeError => "AttributeError"
  | nameError => "NameError"
  | syntaxError => "SyntaxError"
  | assertionError => "AssertionError"
  | bufferError => "BufferError"
  | eofError => "EOFError"
  | importError => "ImportError"
  | moduleNotFoundError => "ModuleNotFoundError"
  | memoryError => "MemoryError"
  | referenceError => "ReferenceError"
  | stopAsyncIteration => "StopAsyncIteration"
  | systemError => "SystemError"
  | floatingPointError => "FloatingPointError"
  | overflowError => "OverflowError"
  | blockingIOError => "BlockingIOError"
  | childProcessError => "ChildProcessError"
  | fileExistsError => "FileExistsError"
  | fileNotFoundError => "FileNotFoundError"
  | interruptedError => "InterruptedError"
  | isADirectoryError => "IsADirectoryError"
  | notADirectoryError => "NotADirectoryError"
  | permissionError => "PermissionError"
  | processLookupError => "ProcessLookupError"
  | brokenPipeError => "BrokenPipeError"
  | connectionAbortedError => "ConnectionAbortedError"
  | connectionRefusedError => "ConnectionRefusedError"
  | connectionResetError => "ConnectionResetError"
  | unboundLocalError => "UnboundLocalError"
  | indentationError => "IndentationError"
  | tabError => "TabError"
  | unicodeError => "UnicodeError"
  | unicodeDecodeError => "UnicodeDecodeError"
  | unicodeEncodeError => "UnicodeEncodeError"
  | unicodeTranslateError => "UnicodeTranslateError"
  | generatorExit => "GeneratorExit"
  | baseExceptionGroup => "BaseExceptionGroup"
  | exceptionGroup => "ExceptionGroup"
  | warning => "Warning"
  | bytesWarning => "BytesWarning"
  | deprecationWarning => "DeprecationWarning"
  | encodingWarning => "EncodingWarning"
  | futureWarning => "FutureWarning"
  | importWarning => "ImportWarning"
  | pendingDeprecationWarning => "PendingDeprecationWarning"
  | resourceWarning => "ResourceWarning"
  | runtimeWarning => "RuntimeWarning"
  | syntaxWarning => "SyntaxWarning"
  | unicodeWarning => "UnicodeWarning"
  | userWarning => "UserWarning"
  | appError => "AppError"
  | childError => "ChildError"
  | validationError => "ValidationError"

/-- The name of a known class: the last component of its qualified name. -/
def name : KnownClass → String
  | inner => "Inner"
  | k => k.qualname

/-- Whether a class is another one or derives from it. -/
def isSubclass (k l : KnownClass) : Bool :=
  k.line.contains l

/-- Whether the values of a class can be raised. -/
def isRaisable (k : KnownClass) : Bool :=
  k.isSubclass baseException

/-- The module that a known class belongs to. -/
def module : KnownClass → String
  | baseModel => "pydantic.main"
  | any => "typing"
  | dontLog => "logpoint.models"
  | validationError => "pydantic_core._pydantic_core"
  | invoice | receipt | base | left | right | bottom | loud | mute | outer | inner => "__main__"
  | _ => "builtins"

end KnownClass

/-- A class: one of the known ones, or one that a program made. -/
inductive Class where
  | known (k : KnownClass)
  /-- the class held by the object `ref`, with the known classes among its ancestors in order -/
  | made (ref : Nat) (ancestors : List KnownClass)
  deriving Repr, DecidableEq, Inhabited

namespace Class

/-- The known classes in the line of ancestors of a class. -/
def ancestors : Class → List KnownClass
  | known k => k.line
  | made _ ks => ks

/-- Whether a class derives from a known class, or is that class. -/
def derivesFrom (c : Class) (k : KnownClass) : Bool :=
  c.ancestors.contains k

/-- Whether the values of a class can be raised. -/
def isRaisable (c : Class) : Bool :=
  c.derivesFrom .baseException

end Class

end CallLog
