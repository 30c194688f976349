/-!
# Issues

What is wrong with one part of some input data. An issue names the part by the path that leads to it
and says what the problem is; the code and the wording of a problem follow from its cause. A check
of a whole record gathers the issues of all its fields, in the order of the fields.
-/

namespace CallLog

/-- One step on the way to a part of some data. -/
inductive Step where
  | field (name : String)
  | index (i : Nat)
  deriving Repr, DecidableEq

/-- The cause of an issue. -/
inductive Problem where
  | notString
  | notUnicode
  | notInteger
  | unreadableInteger
  | hugeInteger
  | notBoolean
  | unreadableBoolean
  | notLevel
  | notOneOf (options : List String)
  | missing
  /-- neither a dictionary nor a value of the named record -/
  | notRecord (name : String)
  | notObject
  | notTuple
  | unknownTag (tag : String)
  | noTag
  /-- refused by a check of its own -/
  | rejected (reason : String)
  deriving Repr, DecidableEq

namespace Problem

/-- The code of a problem. -/
def code : Problem → String
  | notString => "string_type"
  | notUnicode => "string_unicode"
  | notInteger => "int_type"
  | unreadableInteger => "int_parsing"
  | hugeInteger => "int_parsing_size"
  | notBoolean => "bool_type"
  | unreadableBoolean => "bool_parsing"
  | notLevel => "enum"
  | notOneOf _ => "literal_error"
  | missing => "missing"
  | notRecord _ => "model_type"
  | notObject => "model_attributes_type"
  | notTuple => "tuple_type"
  | unknownTag _ => "union_tag_invalid"
  | noTag => "union_tag_not_found"
  | rejected _ => "value_error"

/-- Names in single quotes, joined by commas and an `or` before the last. -/
def orList : List String → String
  | [] => ""
  | [s] => "'" ++ s ++ "'"
  | [s, t] => "'" ++ s ++ "' or '" ++ t ++ "'"
  | s :: rest => "'" ++ s ++ "', " ++ orList rest

/-- The wording of a problem. -/
def message : Problem → String
  | notString => "Input should be a valid string"
  | notUnicode => "Input should be a valid string, unable to parse raw data as a unicode string"
  | notInteger => "Input should be a valid integer"
  | unreadableInteger =>
    "Input should be a valid integer, unable to parse string as an integer"
  | hugeInteger => "Unable to parse input string as an integer, exceeded maximum size"
  | notBoolean => "Input should be a valid boolean"
  | unreadableBoolean => "Input should be a valid boolean, unable to interpret input"
  | notLevel =>
    "Input should be " ++ orList ["trace", "debug", "info", "warn", "error", "derived"]
  | notOneOf options => "Input should be " ++ orList options
  | missing => "Field required"
  | notRecord name => "Input should be a valid dictionary or instance of " ++ name
  | notObject => "Input should be a valid dictionary or object to extract fields from"
  | notTuple => "Input should be a valid tuple"
  | unknownTag tag =>
    "Input tag '" ++ tag ++ "' found using 'kind' does not match any of the expected tags: " ++
      "'live', 'static'"
  | noTag => "Unable to extract tag using discriminator 'kind'"
  | rejected reason => "Value error, " ++ reason

end Problem

/-- A problem and the part of the data that has it. -/
structure Issue where
  /-- the way from the whole data to the part -/
  path : List Step
  problem : Problem
  deriving Repr, DecidableEq

/-- An issue of a part, seen from one step further out. -/
def Issue.within (step : Step) (issue : Issue) : Issue :=
  { issue with path := step :: issue.path }

end CallLog
