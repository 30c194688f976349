import CallLog.Value

/-!
# Errors of the system

An exception of the class `OSError`, or of a class that derives from it, is made from an error
number, a description and, where files are concerned, the names of one or two of them. The number
chooses the class of an exception that is asked of `OSError` itself. An exception that knows a file
names it in its text; the file is then no longer one of the arguments that it shows.
-/

namespace CallLog

/-- The class of the errors of the system with a number, if they have a class of their own. -/
def KnownClass.ofErrorNumber? : Int → Option KnownClass
  | 1 | 13 => some .permissionError
  | 2 => some .fileNotFoundError
  | 3 => some .processLookupError
  | 4 => some .interruptedError
  | 10 => some .childProcessError
  | 11 | 114 | 115 => some .blockingIOError
  | 17 => some .fileExistsError
  | 20 => some .notADirectoryError
  | 21 => some .isADirectoryError
  | 32 | 108 => some .brokenPipeError
  | 103 => some .connectionAbortedError
  | 104 => some .connectionResetError
  | 110 => some .timeoutError
  | 111 => some .connectionRefusedError
  | _ => none

namespace Value

/-- Whether an exception of a class takes a third argument for the name of a file: of a blocked
operation it may be the number of characters that were written. -/
def isFileName (c : Class) (v : Value) : Bool :=
  !v.isNone && !(c = .known .blockingIOError && v.count?.isSome)

/-- The names of the files that an exception with some arguments is about. -/
def files (c : Class) (args : List Value) : List Value :=
  if c.derivesFrom .osError then
    match args with
    | [_, _, f] | [_, _, f, _] => if isFileName c f then [f] else []
    | [_, _, f, _, g] => if !isFileName c f then [] else if g.isNone then [f] else [f, g]
    | _ => []
  else []

/-- How many of its arguments an exception shows. -/
def shownCount (c : Class) (args : List Value) : Nat :=
  if (files c args).isEmpty then args.length else 2

end Value

/-- The class of the exception that a class makes of some arguments. -/
def Class.ofArguments (c : Class) (args : List Value) : Class :=
  match c, args with
  | .known .osError, [n, _] | .known .osError, [n, _, _] | .known .osError, [n, _, _, _]
  | .known .osError, [n, _, _, _, _] =>
    ((n.count?.bind KnownClass.ofErrorNumber?).map Class.known).getD c
  | c, _ => c

/-- The exception that a class makes of some arguments. -/
def Value.exception (c : Class) (args : List Value) : Value :=
  .error (c.ofArguments args) args

end CallLog
