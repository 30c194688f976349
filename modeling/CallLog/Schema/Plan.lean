import CallLog.Plan
import CallLog.Schema.Metadata

/-!
# Schemas of plans

The checks that make rules and plans from input data. A rule says by its tag which of the two kinds
it is; inside a plan the tag is needed and becomes a step of the path to an issue.
-/

namespace CallLog

namespace Check

open Checked

/-- The entries of a live rule. -/
def liveEntries (entries : List (Value × Value)) : Checked Rule :=
  (fun _ => Rule.live) <$> defaulted entries "kind" () (oneOf [("live", ())])
    <*> required entries "index" integer
    <*> required entries "name" string
    <*> defaulted entries "annotation" .any hint

/-- The entries of a static rule. -/
def staticEntries (entries : List (Value × Value)) : Checked Rule :=
  (fun _ => Rule.static) <$> defaulted entries "kind" () (oneOf [("static", ())])
    <*> required entries "text" string

/-- The tag of a rule as an issue shows it. -/
def tagText (v : Value) : String :=
  match v.text Naming.empty with
  | .ok cs => String.ofList cs
  | .error _ => ""

/-- A rule of a plan. -/
def rule : Check Rule
  | .dict entries =>
    match entry? "kind" entries with
    | none => problem .noTag
    | some (.str "live") => within (.field "live") (liveEntries entries)
    | some (.str "static") => within (.field "static") (staticEntries entries)
    | some v => problem (.unknownTag (tagText v))
  | _ => problem .notObject

/-- An error parameter. -/
def errorParameter : Check ErrorParameter :=
  record "ErrorParameter" fun entries =>
    ErrorParameter.mk <$> required entries "index" integer
      <*> required entries "name" string
      <*> defaulted entries "annotation" (.ofKnown .baseException) hint
      <*> defaulted entries "positions" [] (sequenceOf integer)

/-- A plan. -/
def plan : Check Plan :=
  record "LogPlan" fun entries =>
    Plan.mk <$> required entries "logger" string
      <*> required entries "level" level
      <*> required entries "message" string
      <*> defaulted entries "parameters" [] (sequenceOf rule)
      <*> defaulted entries "error_parameter" none (optional errorParameter)
      <*> defaulted entries "log_result" false boolean

end Check

end CallLog
