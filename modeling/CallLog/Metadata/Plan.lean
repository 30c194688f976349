import CallLog.Rules

/-!
# The plan for a callable

`Metadata.plan` compiles the metadata of a callable to its plan, without any state. The level and
the logger are looked up in the configurations on the way outward from the callable. If the last
parameter takes an exception, it is split off as the error parameter of the plan.
-/

namespace CallLog

/-- The index of the last parameter, if it takes an exception. -/
def Parameter.errorIndex (parameters : List Parameter) : Option Nat :=
  match parameters.getLast? with
  | some p => if p.hint.isExceptionType then some (parameters.length - 1) else none
  | none => none

/-- The level that is used where none is configured. -/
def Level.default : Level := .debug

/-- The first level that is configured on the way outward. -/
def Config.firstLevel : List Config → Level
  | [] => .default
  | config :: rest => if config.level = .derived then firstLevel rest else config.level

namespace Metadata

/-- The level of a callable: its own, else the innermost that a scope configures. -/
def level (metadata : Metadata) : Level :=
  Config.firstLevel (metadata.config :: metadata.scopes.filterMap Scope.config)

/-- The name of the logger of a callable: a configured one, else that of the outermost class, else
that of the module. -/
def loggerName (metadata : Metadata) : String :=
  match metadata.config.logger with
  | some name => if name = "" then derived else name
  | none => derived
where
  /-- The name that the scopes give. -/
  derived : String :=
    match (metadata.scopes.filter fun s => s.kind = .cls).getLast? with
    | some scope => scope.name
    | none =>
      match metadata.scopes.getLast? with
      | some scope => scope.name
      | none => metadata.name

/-- The slots of a message that show the argument at an index. -/
def positionsOf (index : Int) (rules : List Rule) : List Int :=
  (rules.zipIdx.filter fun (rule, _) => rule.isLiveFor index).map fun (_, i) => (i : Int)

/-- The error parameter of a callable, if its last parameter takes an exception and is not
excluded, with the slots of an explicit message that show it. -/
def errorParameter (metadata : Metadata) (rules : List Rule) : Option ErrorParameter :=
  match Parameter.errorIndex metadata.parameters with
  | none => none
  | some i =>
    match metadata.parameters[i]? with
    | none => none
    | some p =>
      if p.dontLog then none
      else
        let positions := if metadata.config.message = "" then [] else positionsOf i rules
        some ⟨p.index, p.name, p.hint, positions⟩

/-- The rules without those that show the error parameter, if there is one. -/
def withoutError (metadata : Metadata) (rules : List Rule) : List Rule :=
  match Parameter.errorIndex metadata.parameters, metadata.errorParameter rules with
  | some i, some _ => rules.filter fun rule => !rule.isLiveFor i
  | _, _ => rules

/-- The plan for a callable. -/
def plan (metadata : Metadata) : Except Fault Plan := do
  let errorIndex := (Parameter.errorIndex metadata.parameters).map Int.ofNat
  let (rules, message) ←
    Rule.resolve metadata.name metadata.parameters metadata.config.message errorIndex
  return {
    logger := metadata.loggerName
    level := metadata.level
    message := message
    parameters := metadata.withoutError rules
    errorParameter := metadata.errorParameter rules
    logResult := metadata.returns.returnsValue }

end Metadata

end CallLog
