import CallLog.Format
import CallLog.Journal
import CallLog.Level
import CallLog.Value.Operation

/-!
# Structured loggers

A logger has a name and a threshold, which it keeps from the moment it is made. It writes a record
for each event that reaches the threshold. The fields of a record are, in order of precedence: the
event and the level, which nothing replaces; the fields given with the event; the name of the
logger; the values bound by enclosing log contexts. An event can ask for two more: an exception that
`exc_info` is becomes the field `exception`, and where `stack_info` holds as a condition, the stack
becomes the field `stack`. They replace what the event has under these names, whether or not that
could be shown.

Besides the methods that write records a logger has some that do something else with an event.

The library reports on its own work through loggers of its own, see `Reporting`.
-/

namespace CallLog

/-- A structured logger. -/
structure Logger where
  name : String
  /-- the least level number that the logger writes -/
  threshold : Nat
  deriving Repr, DecidableEq

namespace Logger

/-- What a method of a logger does with an event. -/
inductive Method where
  /-- writes a record with a level number and the level that it shows -/
  | writes (number : Nat) (level : String)
  /-- writes an error with the exception that is being handled -/
  | writesException
  /-- makes a record of the lowest level, which cannot be written -/
  | writesNothing
  /-- puts off the writing until it is awaited, which nobody does -/
  | defers
  /-- puts off the writing of a record whose event follows its level -/
  | defersAtLevel
  /-- takes bound names back; `isStrict` says whether they have to be bound -/
  | forgets (isStrict : Bool)
  /-- does not take an event -/
  | refuses
  deriving Repr, DecidableEq

/-- The level number of a method that writes records, and the level that they show. -/
def methodLevel? : String → Option (Nat × String)
  | "debug" => some (10, "debug")
  | "info" | "msg" => some (20, "info")
  | "warning" | "warn" => some (30, "warning")
  | "error" => some (40, "error")
  | "critical" | "fatal" => some (50, "critical")
  | _ => none

/-- The method of a name. -/
def method? (name : String) : Option Method :=
  match methodLevel? name, name with
  | some (number, level), _ => some (.writes number level)
  | none, "exception" => some .writesException
  | none, "notset" => some .writesNothing
  | none, "adebug" | none, "ainfo" | none, "amsg" | none, "awarning" | none, "awarn"
  | none, "aerror" | none, "acritical" | none, "afatal" | none, "aexception"
  | none, "anotset" => some .defers
  | none, "alog" => some .defersAtLevel
  | none, "unbind" => some (.forgets true)
  | none, "try_unbind" => some (.forgets false)
  | none, "log" | none, "is_enabled_for" | none, "get_effective_level" | none, "bind"
  | none, "new" => some .refuses
  | none, _ => none

/-- Whether a logger writes records of a level number. -/
def isEnabledFor (logger : Logger) (level : Nat) : Bool :=
  logger.threshold ≤ level

/-- The text of an exception in a record: its class, and its text if it has one. -/
def exceptionText (naming : Naming) : Raised → String
  | .fault f => f.kind.name
  | .made c args =>
    match (Raised.made c args).text naming with
    | .ok [] => naming.nameOf c
    | .ok cs => naming.nameOf c ++ ": " ++ String.ofList cs
    | .error _ => naming.nameOf c ++ ": <exception str() failed>"

/-- The exception that the value of `exc_info` is or holds. A triple holds one if it is made of a
class of exceptions, an exception and no traceback. -/
def exceptionOf? : Value → Option Raised
  | .tuple [.type (.cls c), v, .none] => if c.isRaisable then Raised.ofValue? v else none
  | v => Raised.ofValue? v

/-- Whether an event asks for something: what it has under a name holds as a condition. -/
def asksFor (name : String) (fields : List (String × Value)) : Bool :=
  (fields.lookup name).any Value.isTrue

/-- The fields that an event has more in a handler of a failure: an `exc_info` that is bound around
and holds as a condition, but is no exception, stands for the failure. -/
def handled (bound : List (String × Value)) (r : Raised) : List (String × Value) :=
  if asksFor "exc_info" bound && ((bound.lookup "exc_info").bind exceptionOf?).isNone then
    [("exc_info", r.toValue)]
  else []

/-- The name of a field that a record does not take from its event: it stands for something else or
is written by the logger itself. -/
def isReserved (name : String) : Bool :=
  ["exc_info", "stack_info", "timestamp", "event", "level"].contains name

/-- The fields of a record before the logger's own: given ones over the name of the logger, and
after these the bound ones whose names are still free. -/
def gather (logger : Logger) (bound given : List (String × Value)) : List (String × Value) :=
  let put (fields : List (String × Value)) (entry : String × Value) :=
    Document.insert entry.1 entry.2 fields
  let own := given.foldl put [("logger", .str logger.name)]
  own ++ bound.filter fun (name, _) => (own.lookup name).isNone

/-- The documents of some fields. -/
def documents (naming : Naming) : List (String × Value) → Except Fault Record
  | [] => .ok []
  | (name, v) :: rest => do
    let document ← Document.ofValue naming v
    return (name, document) :: (← documents naming rest)

/-- The text of a stack in a record, without the calls that are on it. -/
def stackText : String :=
  "Stack (most recent call last):"

/-- The fields that an event asks for: an exception and the stack. -/
def rendered (naming : Naming) (fields : List (String × Value)) : Record :=
  let exception := ((fields.lookup "exc_info").bind exceptionOf?).map fun r =>
    ("exception", .str (exceptionText naming r))
  let stack := if asksFor "stack_info" fields then [("stack", .str stackText)] else []
  exception.toList ++ stack

/-- Whether a record takes a field from its event as it is. -/
def isTaken (naming : Naming) (fields : List (String × Value)) (name : String) : Bool :=
  !isReserved name && ((rendered naming fields).lookup name).isNone

/-- The record of an event. -/
def record (naming : Naming) (logger : Logger) (level event : String)
    (bound given : List (String × Value)) : Except Fault Record := do
  let fields := logger.gather bound given
  let shown ← documents naming (fields.filter fun (name, _) => isTaken naming fields name)
  return shown ++ rendered naming fields ++ [("event", .str event), ("level", .str level)]

/-- The event with its arguments filled in. -/
def eventText (naming : Naming) (event : String) (args : List Value) : Except Fault String :=
  match args with
  | [] => .ok event
  | args => do return String.ofList (← Format.fill naming event.toList args)

/-- The first of some names that a field has. -/
def clash? (names : List String) (given : List (String × Value)) : Option String :=
  names.find? fun name => given.any fun (n, _) => n = name

/-- Raises if a field has a name that the receiver needs for itself. -/
def refuse (names : List String) (given : List (String × Value)) : Logging Unit :=
  match clash? names given with
  | some name => Action.fault (.keywordClash name)
  | none => pure ()

/-- The record of an event with arguments. -/
def recordOf (naming : Naming) (logger : Logger) (level event : String) (args : List Value)
    (given : List (String × Value)) : Logging Record := do
  let text ← Action.ofExcept (eventText naming event args)
  refuse ["method_name"] given
  let journal ← Logging.journal
  Action.ofExcept (record naming logger level text journal.bound given)

/-- Takes bound names back from a copy of the logger, which is given up: all that is seen of it are
its failures. The name of the logger is all that is bound. -/
def forget (isStrict : Bool) : List Value → Logging Unit
  | [] => pure ()
  | name :: rest =>
    if !name.isHashable then Action.fault (.unhashable (Naming.empty.kindOf name))
    else if !isStrict then forget isStrict rest
    else if name.isSameKey (.str "logger") && !rest.any (isSameKey name) then
      forget isStrict rest
    else Action.fault (.missingKey "the name")
where
  /-- Whether two values are one name. -/
  isSameKey (v w : Value) : Bool := v.isSameKey w

/-- Hands an event to a method of a logger. A record is written if the level of the method reaches
the threshold. -/
def emit (naming : Naming) (logger : Logger) (method event : String) (args : List Value)
    (given : List (String × Value)) : Logging Unit := do
  match method? method with
  | none => Action.fault (.noMember "'BoundLogger' object" method)
  | some (.writes number level) =>
    refuse ["self", "event"] given
    if logger.isEnabledFor number then
      Logging.write (← logger.recordOf naming level event args given)
  | some .writesException =>
    refuse ["self", "event"] given
    let given := if (given.lookup "exc_info").isSome then given
      else given ++ [("exc_info", .bool true)]
    Logging.write (← logger.recordOf naming "error" event args given)
  | some .writesNothing =>
    refuse ["self", "event"] given
    if logger.isEnabledFor 0 then
      let _ ← logger.recordOf naming "notset" event args given
      Action.fault (.noMember "'PrintLogger' object" method)
  | some .defers => refuse ["self", "event"] given
  | some .defersAtLevel =>
    refuse (if args.isEmpty then ["self", "level"] else ["self", "level", "event"]) given
    if args.isEmpty && (given.lookup "event").isNone then
      Action.fault (.unbound "the event is missing")
  | some (.forgets isStrict) =>
    match given with
    | [] => forget isStrict (.str event :: args)
    | (name, _) :: _ => Action.fault (.keywordClash name)
  | some .refuses => Action.fault (.unbound "the method takes no event")

/-- The logger of a part of the library itself. -/
def own (part : String) (threshold : Nat) : Logger :=
  ⟨"logpoint." ++ part, threshold⟩

/-- Reports on the work of a part of the library. -/
def report (naming : Naming) (part method event : String) (given : List (String × Value)) :
    Logging Unit := do
  let journal ← Logging.journal
  (own part journal.reporting.threshold).emit naming method event [] given

/-- Reports on the work of a part of the library from a handler of a failure. -/
def reportHandled (naming : Naming) (part method event : String) (given : List (String × Value))
    (r : Raised) : Logging Unit := do
  let journal ← Logging.journal
  report naming part method event (given ++ handled journal.bound r)

/-- A new logger, with the threshold that is configured now. -/
def make (name : String) : Logging Logger := do
  return ⟨name, (← Logging.journal).threshold⟩

/-- Sets the threshold for new loggers. -/
def configure (level : Level) : Logging Unit :=
  Logging.change fun j => { j with threshold := level.threshold }

end Logger

end CallLog
