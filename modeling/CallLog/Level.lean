import CallLog.Text.Blank
import CallLog.Text.LetterCase

/-!
# Levels

The severity of a log point. `derived` is no severity of its own: it says that the level comes from
the scope around. A level is read from its name, in any mixture of capital and small letters and
with any white space around it; `warning` is a second name of `warn`.
-/

namespace CallLog

/-- The severity of a log point. -/
inductive Level where
  | trace
  | debug
  | info
  | warn
  | error
  | derived
  deriving Repr, DecidableEq, Inhabited

namespace Level

/-- Every level, the least severe first and `derived` last. -/
def all : List Level := [trace, debug, info, warn, error, derived]

/-- The name of a level as it is written. -/
def name : Level → String
  | trace => "trace"
  | debug => "debug"
  | info => "info"
  | warn => "warn"
  | error => "error"
  | derived => "derived"

/-- The number of a level: it is compared with the threshold of a logger. -/
def number : Level → Nat
  | trace => 5
  | debug => 10
  | info => 20
  | warn => 30
  | error => 40
  | derived => 0

/-- The method of a logger that emits at the level. Loggers have no method for `trace`. -/
def method : Level → String
  | trace => "debug"
  | debug => "debug"
  | info => "info"
  | warn => "warning"
  | error => "error"
  | derived => "debug"

/-- The level whose written name is exactly the text. -/
def ofName? (text : List Char) : Option Level :=
  all.find? fun level => level.name.toList == text

/-- A level name brought into its written form: trimmed and in small letters. -/
def normalize (text : List Char) : List Char :=
  (Text.trim text).flatMap Text.lower

/-- The level that a text names. -/
def read? (text : List Char) : Option Level :=
  let name := normalize text
  if name = "warning".toList then some warn else ofName? name

/-- The threshold that lets a level through: nothing lies below `trace`. -/
def threshold : Level → Nat
  | trace => 0
  | level => level.number

end Level

end CallLog
