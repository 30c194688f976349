import CallLog.Raised

/-!
# Providers

A context variable is a key with a provider of its value. A provider is asked anew at every log
point; it may count how often it was asked, in a cell of the journal, its answer may depend on that,
and it may fail.
-/

namespace CallLog

/-- Where the value of a context variable comes from. -/
inductive Source where
  | const (v : Value)
  /-- one more each time, counted in a cell -/
  | count (cell : Nat)
  /-- an answer of its own each time, by the count in a cell -/
  | answers (cell : Nat) (answer : Nat → Except Raised Value)
  | raises (c : Class) (args : List Value)
  deriving Inhabited

/-- A context variable. -/
structure Provider where
  key : String
  source : Source
  deriving Inhabited

end CallLog
