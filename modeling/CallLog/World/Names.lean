import CallLog.World.Lookup

/-!
# Names that all programs share

A name that a module does not hold may still be known to it: there are classes, functions and
constants that all programs share. `World.nameGet?` is what a name stands for in an expression of a
module; the attributes of a module are only what it holds.
-/

namespace CallLog

namespace World

/-- The classes that all programs know by their names. -/
def sharedClasses : List KnownClass :=
  [.object, .int, .bool, .float, .str, .bytes, .list, .tuple, .dict, .set, .type, .byteArray,
   .classMethod, .complex, .enumerate, .filter, .frozenSet, .map, .memoryView, .property, .range,
   .reversed, .slice, .staticMethod, .superType, .zip, .baseException, .exception, .valueError,
   .typeError, .keyError, .indexError, .lookupError, .runtimeError, .osError, .timeoutError,
   .arithmeticError, .zeroDivisionError, .keyboardInterrupt, .systemExit, .notImplementedError,
   .recursionError, .connectionError, .stopIteration, .attributeError, .nameError, .syntaxError,
   .assertionError, .bufferError, .eofError, .importError, .moduleNotFoundError, .memoryError,
   .referenceError, .stopAsyncIteration, .systemError, .floatingPointError, .overflowError,
   .blockingIOError, .childProcessError, .fileExistsError, .fileNotFoundError, .interruptedError,
   .isADirectoryError, .notADirectoryError, .permissionError, .processLookupError,
   .brokenPipeError, .connectionAbortedError, .connectionRefusedError, .connectionResetError,
   .unboundLocalError, .indentationError, .tabError, .unicodeError, .unicodeDecodeError,
   .unicodeEncodeError, .unicodeTranslateError, .generatorExit, .baseExceptionGroup,
   .exceptionGroup, .warning, .bytesWarning, .deprecationWarning, .encodingWarning,
   .futureWarning, .importWarning, .pendingDeprecationWarning, .resourceWarning, .runtimeWarning,
   .syntaxWarning, .unicodeWarning, .userWarning]

/-- The functions that all programs know, the one that gives a length apart. -/
def sharedFunctions : List String :=
  ["abs", "aiter", "all", "anext", "any", "ascii", "bin", "breakpoint", "callable", "chr",
   "compile", "delattr", "dir", "divmod", "eval", "exec", "format", "getattr", "globals", "hasattr",
   "hash", "hex", "id", "input", "isinstance", "issubclass", "iter", "locals", "max", "min", "next",
   "oct", "open", "ord", "pow", "print", "repr", "round", "setattr", "sorted", "sum", "vars",
   "__import__", "__build_class__"]

/-- What all programs know that is neither a class nor a function. -/
def sharedConstant? : String → Option Value
  | "None" => some .none
  | "True" | "__debug__" => some (.bool true)
  | "False" => some (.bool false)
  | "Ellipsis" => some (.fresh (.known .ellipsis))
  | "NotImplemented" => some (.fresh (.known .notImplemented))
  | "EnvironmentError" | "IOError" => some (.type (.ofKnown .osError))
  | "copyright" | "credits" | "license" | "exit" | "quit" | "help" | "__builtins__" =>
    some (.fresh (.known .object))
  | _ => none

/-- What a name stands for that all programs share. -/
def shared? (name : String) : Option Value :=
  match sharedClasses.find? fun k => k.qualname = name with
  | some k => some (.type (.ofKnown k))
  | none =>
    if name = "len" then some len
    else if sharedFunctions.contains name then some (.fresh (.known .builtinFunction))
    else sharedConstant? name

/-- What a module says about itself. -/
def moduleLabel? (world : World) (ref : Nat) (name : String) : Option Value :=
  match world.object? ref with
  | some (.module n _) =>
    if name = "__name__" then some (.str n)
    else if ["__doc__", "__package__", "__loader__", "__spec__"].contains name then some .none
    else none
  | _ => none

/-- What a name stands for in the expressions of a module that it is not given in. -/
def outerGet? (world : World) (home : Nat) (name : String) : Option Value :=
  ((builtin? name).orElse fun _ => world.moduleLabel? home name).orElse fun _ => shared? name

/-- What a name stands for in the expressions of a module. -/
def nameGet? (world : World) (home : Nat) (name : String) : Option Value :=
  ((world.moduleMembers home).get? name).orElse fun _ => world.outerGet? home name

end World

end CallLog
