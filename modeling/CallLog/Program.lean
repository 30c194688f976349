import CallLog.Metadata
import CallLog.Provider
import CallLog.Converter
import CallLog.Signature

/-!
# Programs

A program is a list of items that are executed in order and give names to functions, classes and
other values, in a module, in the body of a class or inside a function. What a function does when it
is called is one `Deed`. Functions and classes may be decorated; among the decorations is the one
that makes the library log their calls.

Names are followed from the module by paths. The first step of a path may lead into a function whose
items live inside it.
-/

namespace CallLog

/-- A way from the module to a value. -/
structure Path where
  /-- the function whose names the way begins with, if it does not begin in the module -/
  inside : Option String := none
  steps : List String
  deriving Repr, DecidableEq

/-- What a function does. -/
inductive Deed where
  /-- ends without a result -/
  | rest
  | give (v : Value)
  /-- ends with an argument -/
  | argument (name : String)
  /-- ends with the list of all arguments, the receiver left out -/
  | arguments
  | raises (r : Raised)
  /-- raises an argument -/
  | raisesArgument (name : String)
  /-- puts a value at the end of an argument that is a list, and ends with the list -/
  | append (name : String) (v : Value)
  /-- calls what a path leads to with some of the arguments -/
  | call (path : Path) (pass : List String)
  /-- calls a method of the receiver with some of the arguments -/
  | method (name : String) (pass : List String)
  /-- counts an argument down to zero by calls along a path, and ends with the list of the counts -/
  | countdown (name : String) (path : Path)
  /-- does something inside a log context -/
  | within (values : List (String × Value)) (deed : Deed)
  /-- lets other tasks run once before it does something -/
  | pause (deed : Deed)

/-- A level as a decoration gives it. -/
inductive LevelSource where
  | member (l : Level)
  | value (v : Value)

/-- A logger as a decoration gives it. -/
inductive LoggerSource where
  | value (v : Value)
  /-- the module of the program -/
  | module
  | path (p : Path)

/-- The arguments of the decoration that logs calls. -/
structure LogOptions where
  message : Value := .str ""
  level : LevelSource := .member .derived
  logger : LoggerSource := .value .none
  converters : Option Converters := none
  providers : Option (List Provider) := none

/-- A decoration of a function or class. -/
inductive Decoration where
  /-- logs calls, without arguments -/
  | bare
  | static
  | cls
  /-- logs calls -/
  | logged (options : LogOptions)
  /-- sets attributes -/
  | set (attributes : List (String × Value))

/-- The configuration of a module or class as a program gives it. -/
inductive ConfigSource where
  /-- the entries of a configuration -/
  | entries (es : List (Value × Value))
  /-- a value that need not be a configuration -/
  | raw (v : Value)

/-- A function as a program writes it. -/
structure FunctionText where
  name : String
  params : List Param := []
  returns : Option TypeHint := none
  isAsync : Bool := false
  decorations : List Decoration := []
  deed : Deed := .rest

/-- What a name is made to stand for. -/
inductive Assigned where
  | value (v : Value)
  /-- what another name stands for -/
  | source (p : Path)
  /-- an instance of a class -/
  | instance (p : Path)
  /-- a function with some arguments given -/
  | partly (p : Path) (given : List Value)
  /-- what a decoration makes of what a name stands for -/
  | decorated (d : Decoration) (p : Path)

/-- An item of a program. -/
inductive Item where
  | function (f : FunctionText)
  | cls (name : String) (bases : List Path) (config : Option ConfigSource)
      (decorations : List Decoration) (body : List Item)
  /-- items inside a function that is called once -/
  | inside (function : String) (body : List Item)
  | lambda (name : String) (params : List String) (deed : Deed)
  | property (name : String) (deed : Deed)
  | delete (name : String)
  | assign (p : Path) (value : Assigned)

end CallLog
