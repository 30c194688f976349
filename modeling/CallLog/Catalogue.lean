import CallLog.Fault

/-!
# The catalogue

The public names of the library, each with the place that it leads to. Names outside the catalogue
are refused.
-/

namespace CallLog

namespace Catalogue

/-- The public names and their places. -/
def entries : List (String × String) :=
  [("logged", "logpoint.interceptor.logged"),
   ("DontLog", "logpoint.models.DontLog"),
   ("LogLevel", "logpoint.models.LogLevel"),
   ("LoggedConfig", "logpoint.models.LoggedConfig"),
   ("LogPlan", "logpoint.plan.rules.LogPlan"),
   ("build_plan", "logpoint.plan.builder.build_plan"),
   ("describe", "logpoint.discovery.describe"),
   ("Converters", "logpoint.runtime.converters.Converters"),
   ("LogContextVariable", "logpoint.runtime.context.LogContextVariable"),
   ("add_context_variable", "logpoint.runtime.context.add_context_variable"),
   ("log_context", "logpoint.runtime.context.log_context")]

/-- The place that a public name leads to. -/
def find (name : String) : Except Fault String :=
  match entries.lookup name with
  | some place => .ok place
  | none => .error (.noExport name)

end Catalogue

end CallLog
