import CallLog.Expression.Grammar

/-!
# Where names belong

The form of an expression does not say all. An anonymous function and a comprehension have names of
their own; the iterable of the first loop of a comprehension belongs to what is around it. Only
anonymous functions may hand out values, only comprehensions may wait, and a value is given a name
neither in an iterable nor in place of the item of a loop. One name is reserved.

`Expression.read?` gives the expression of a text, and nothing if the text is none.
-/

namespace CallLog

namespace Expression

/-! ## Parts -/

/-- The expressions that an expression is made of. -/
def parts : Expression → List Expression
  | constant _ | name _ => []
  | member e _ | starred e | spread e | named _ e | unary _ e | assign _ e | wait e | yield e
  | yieldFrom e => [e]
  | subscript e f | pair e f | binary _ e f => [e, f]
  | slice e f g | conditional e f g => [e, f, g]
  | tuple es | list es | set es | dict es | all es | any es | joined es => es
  | call e es | compare e _ es | shown e _ es | lambda _ es e => e :: es
  | comprehension _ e f _ g es fs => e :: f :: g :: (es ++ fs)
  | clause _ e f es => e :: f :: es

/-- The parts of an expression are smaller than the whole. -/
theorem sizeOf_lt_of_mem_parts {e f : Expression} (h : e ∈ f.parts) : sizeOf e < sizeOf f := by
  cases f <;> simp [parts] at h <;> simp <;> grind [→ List.sizeOf_lt_of_mem]

/-! ## Targets of loops -/

/-- The name that nothing may be given. -/
def reserved : String := "__debug__"

/-- Whether an expression stands for the items of a container. -/
def isStarred : Expression → Bool
  | starred _ => true
  | _ => false

mutual

/-- Whether an expression can be given a value. -/
def isTarget : Expression → Bool
  | name n => n ≠ reserved
  | member _ field => field ≠ reserved
  | subscript _ _ => true
  | tuple es | list es => areTargets es && (es.filter isStarred).length ≤ 1
  | _ => false

/-- Whether all items of a container can be given values. One of them may take what is left. -/
def areTargets : List Expression → Bool
  | [] => true
  | starred e :: es => isTarget e && areTargets es
  | e :: es => isTarget e && areTargets es

end

/-- The names in an expression that belong to the same scope. -/
def ownNames : Expression → List String
  | name n => [n]
  | assign n e => n :: ownNames e
  | lambda _ defaults _ => defaults.attach.flatMap fun ⟨e, _⟩ => ownNames e
  | comprehension _ _ iterable _ _ _ _ => ownNames iterable
  | e => e.parts.attach.flatMap fun ⟨f, _⟩ => ownNames f
termination_by e => e
decreasing_by all_goals first | decreasing_tactic | exact sizeOf_lt_of_mem_parts (by assumption)

/-- The names in the targets of some loops. -/
def loopNames (target : Expression) (clauses : List Expression) : List String :=
  ownNames target ++ clauses.flatMap fun
    | clause _ t _ _ => ownNames t
    | _ => []

/-! ## Waiting -/

/-- Whether something is waited for in the scope that an expression belongs to. What a comprehension
that is no generator waits for, its surroundings wait for. -/
def waits : Expression → Bool
  | wait _ => true
  | lambda _ defaults _ => defaults.attach.any fun ⟨e, _⟩ => waits e
  | comprehension kind element iterable isAsync target conditions clauses =>
    waits iterable || (kind ≠ .generator && (isAsync || waits element || waits target ||
      (conditions.attach.any fun ⟨e, _⟩ => waits e) || clauses.attach.any fun ⟨e, _⟩ => waits e))
  | clause isAsync target iterable conditions =>
    isAsync || waits target || waits iterable || conditions.attach.any fun ⟨e, _⟩ => waits e
  | e => e.parts.attach.any fun ⟨f, _⟩ => waits f
termination_by e => e
decreasing_by all_goals first | decreasing_tactic | exact sizeOf_lt_of_mem_parts (by assumption)

/-- Whether the loops of a comprehension wait. -/
def isWaiting (element : Expression) (isAsync : Bool) (target : Expression)
    (conditions clauses : List Expression) : Bool :=
  isAsync || waits element || waits target || conditions.any waits || clauses.any waits

/-! ## Scopes -/

/-- What the names of an expression belong to. -/
inductive Place where
  | module
  | lambda
  | comprehension
  deriving Repr, DecidableEq

/-- What is around an expression. -/
structure Scope where
  /-- what its names belong to -/
  place : Place := .module
  /-- whether an iterable is around it -/
  inIterable : Bool := false
  /-- the names in the targets of the comprehensions around it -/
  loopNames : List String := []

/-- Whether all texts of a list differ. -/
def areDistinct (names : List String) : Bool :=
  names.eraseDups.length = names.length

/-- The names of the arguments that are given by name. -/
def argumentNames (given : List Expression) : List String :=
  given.filterMap fun
    | named n _ => some n
    | _ => none

/-- Whether names can be those of parameters or of arguments. -/
def areFree (names : List String) : Bool :=
  areDistinct names && !names.contains reserved

/-- Whether an expression is one inside its surroundings. -/
def isValid (scope : Scope) : Expression → Bool
  | assign n e =>
    !scope.inIterable && n ≠ reserved && !scope.loopNames.contains n && isValid scope e
  | wait e => scope.place = .comprehension && isValid scope e
  | yield e | yieldFrom e => scope.place = .lambda && isValid scope e
  | call e es =>
    areFree (argumentNames es) && isValid scope e && es.attach.all fun ⟨f, _⟩ => isValid scope f
  | lambda params defaults e =>
    areFree (params.map LambdaParam.name) && (defaults.attach.all fun ⟨f, _⟩ => isValid scope f) &&
      isValid { scope with place := .lambda, loopNames := [] } e
  | comprehension kind element iterable isAsync target conditions clauses =>
    let own : Scope := { scope with
      place := .comprehension
      loopNames := Expression.loopNames target clauses ++ scope.loopNames }
    (kind = .generator || scope.place = .comprehension ||
        !isWaiting element isAsync target conditions clauses) &&
      isValid { scope with inIterable := true } iterable && isTarget target &&
      isValid own target && isValid own element &&
      (conditions.attach.all fun ⟨f, _⟩ => isValid own f) &&
      clauses.attach.all fun ⟨f, _⟩ => isValid own f
  | clause _ target iterable conditions =>
    isTarget target && isValid scope target && isValid { scope with inIterable := true } iterable &&
      conditions.attach.all fun ⟨f, _⟩ => isValid scope f
  | e => e.parts.attach.all fun ⟨f, _⟩ => isValid scope f
termination_by e => e
decreasing_by all_goals first | decreasing_tactic | exact sizeOf_lt_of_mem_parts (by assumption)

/-! ## Texts of expressions -/

/-- The text that is read in place of another one: a text that begins with a star stands for the
first of the items that it gives. -/
def unstarred : List Char → List Char
  | '*' :: cs => '(' :: '*' :: cs ++ [',', ')', '[', '0', ']']
  | cs => cs

/-- The expression that a text is, if it is one. -/
def read? (s : String) : Option Expression := do
  let cs := s.toList
  if cs.contains '\x00' then none
  else
    let e ← Grammar.read? (unstarred cs)
    if isValid {} e then return e else none

/-- Whether a text is an expression. -/
def isExpression (s : String) : Bool :=
  (read? s).isSome

end Expression

end CallLog
