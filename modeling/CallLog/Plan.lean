import CallLog.Metadata

/-!
# Plans

A plan says how calls of one callable are logged: to which logger, at which level, with which
message, and with which rules that fill the slots of the message. A trailing parameter that takes an
exception has no rule; it is kept apart, together with the slots that show it.

Plans compare with the equality of annotations, in which unions are sets.
-/

namespace CallLog

/-- What fills one slot of a message. -/
inductive Rule where
  /-- the argument at an index -/
  | live (index : Int) (name : String) (hint : TypeHint)
  /-- a fixed text in place of an argument -/
  | static (text : String)
  deriving Repr

namespace Rule

/-- The rule that shows a parameter. -/
def ofParameter (p : Parameter) : Rule :=
  live p.index p.name p.hint

/-- Whether a rule shows the argument at an index. -/
def isLiveFor (index : Int) : Rule → Bool
  | live i _ _ => i = index
  | static _ => false

/-- Whether two rules are equal, annotations by their meaning. -/
def equal : Rule → Rule → Bool
  | live i n a, live j m b => i = j && n = m && a.equal b
  | static s, static t => s = t
  | _, _ => false

end Rule

/-- A trailing parameter that takes an exception. -/
structure ErrorParameter where
  index : Int
  name : String
  hint : TypeHint := .ofKnown .baseException
  /-- the slots that show the exception, counted over all slots of the message -/
  positions : List Int := []
  deriving Repr

/-- How calls of one callable are logged. -/
structure Plan where
  logger : String
  level : Level
  /-- the message, with empty slots -/
  message : String
  /-- what fills the slots, in order; never the error parameter -/
  parameters : List Rule := []
  errorParameter : Option ErrorParameter := none
  /-- whether results are logged -/
  logResult : Bool := false
  deriving Repr

/-- Whether two error parameters are equal, annotations by their meaning. -/
def ErrorParameter.equal (p q : ErrorParameter) : Bool :=
  p.index = q.index && p.name = q.name && p.hint.equal q.hint &&
    p.positions = q.positions

/-- Whether two lists of rules are equal one by one. -/
def Rule.equalAll : List Rule → List Rule → Bool
  | [], [] => true
  | r :: rs, s :: ss => r.equal s && equalAll rs ss
  | _, _ => false

/-- Whether two plans are equal, annotations by their meaning. -/
def Plan.equal (p q : Plan) : Bool :=
  p.logger = q.logger && p.level = q.level && p.message = q.message &&
    Rule.equalAll p.parameters q.parameters &&
    (match p.errorParameter, q.errorParameter with
      | none, none => true
      | some e, some f => e.equal f
      | _, _ => false) &&
    p.logResult = q.logResult

end CallLog
