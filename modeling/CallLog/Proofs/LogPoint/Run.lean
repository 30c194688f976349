import CallLog.Proofs.Context
import CallLog.Proofs.Conversion
import CallLog.Proofs.Plan.ErrorParameter

/-!
# Running log points

What the operations of a log point do on a sink that takes the events of its level: the values are
shown one after the other, the context is collected, and then the sink is handed the event once.
What is shown and collected is told without the journal, by `Plan.values` and `Plan.fields`.

The sink is handed the event through `LogPoint.emit`, which refuses fields whose names are taken;
`LogPoint.ready` is the journal at that moment.
-/

namespace CallLog

/-! ## Sinks

A sink is a logger, which writes records, or a recorder, which notes what it is handed. Both are
asked first whether they take events of a level, and a recorder may note that as well. -/

/-- A journal with one more call of a recorder. -/
def Journal.noted (j : Journal) (call : SinkCall) : Journal :=
  { j with calls := j.calls ++ [call] }

namespace Sink

/-- Whether a sink takes the events of a level number. -/
def takes (level : Nat) : Sink → Bool
  | logger l => l.isEnabledFor level
  | recorder _ none => true
  | recorder _ (some threshold) => threshold ≤ level

/-- The journal after a sink was asked whether it takes the events of a level number. -/
def asked (level : Nat) (j : Journal) : Sink → Journal
  | logger _ | recorder _ none => j
  | recorder _ (some _) => j.noted (.check level)

theorem isEnabledFor_run (level : Nat) (sink : Sink) (j : Journal) :
    sink.isEnabledFor level j = (.ok (sink.takes level), sink.asked level j) := by
  rcases sink with l | ⟨methods, _ | threshold⟩ <;> rfl

/-- A recorder notes what it is handed. -/
theorem emit_recorder {methods : List String} {method : String} (hmethod : method ∈ methods)
    {fields : Context.Fields} (hfields : Logger.clash? ["method", "event"] fields = none)
    (naming : Naming) (event : String) (args : List Value) (threshold : Option Int)
    (j : Journal) :
    (recorder methods threshold).emit naming method event args fields j =
      (.ok (), j.noted (.emit method event args fields)) := by
  have hcontains : methods.contains method = true := List.contains_iff_mem.mpr hmethod
  rw [emit, if_pos hcontains, Action.bind_of_ok (Logger.refuse_of_none hfields j)]
  rfl

/-- A logger that takes the events of a level writes what it is handed through the method of that
level. -/
theorem emit_logger {level : Level} {l : Logger}
    (hlevel : (logger l).takes level.number = true) {fields : Context.Fields}
    (hfields : Logger.clash? ["self", "event"] fields = none) (naming : Naming) (event : String)
    (args : List Value) (j : Journal) :
    (logger l).emit naming level.method event args fields j =
      match Logger.written naming l (Logger.shownLevel level) event args j.bound fields with
      | .ok r => (.ok (), j.logged [r])
      | .error f => (.error (.fault f), j) := by
  obtain ⟨number, hmethod, hle⟩ := Logger.method?_method level
  have hthreshold : l.threshold ≤ level.number := of_decide_eq_true hlevel
  exact Logger.emit_run hmethod (decide_eq_true (Nat.le_trans hthreshold hle)) hfields j

end Sink

/-! ## Rules

A rule is looked at with a function that shows values, so that what is said of it does not depend on
converters or on the journal. -/

namespace Rule

/-- What a rule puts into its slot. -/
def shown (look : Value → Shown) (arguments : List Value) : Rule → Shown
  | live i _ _ =>
    match LogPoint.item? arguments i with
    | some v => look v
    | none => ⟨.error (.fault .indexOutOfRange), []⟩
  | static text => ⟨.ok (.str text), []⟩

end Rule

/-! ## Plans

The values of a call record are those of the rules, with the exception put back among them. Its
fields are the context with the exception over it. Both are functions of the arguments and of how
values are shown; the reports that are written on the way are listed in the order in which they are.
-/

namespace Plan

variable (plan : Plan) (look : Value → Shown) (arguments : List Value)

/-- The exception among the arguments of a call, if the plan has an error parameter. -/
def error? : Option Value :=
  plan.errorParameter.bind fun parameter => LogPoint.item? arguments parameter.index

/-- The slots that show the exception. -/
def positions : List Int :=
  match plan.errorParameter with
  | some parameter => parameter.positions
  | none => []

/-- Values with the exception put back among them, at each position that the plan has for it. -/
def completed (values : List Value) : List Value :=
  match plan.error? arguments with
  | some error => LogPoint.insertAll (look error).value plan.positions values
  | none => values

/-- What is reported while the exception is shown. -/
def errorReports : List Record :=
  match plan.error? arguments with
  | some error => plan.positions.flatMap fun _ => (look error).reports
  | none => []

/-- The values of a call record. -/
def values : List Value :=
  plan.completed look arguments
    (plan.parameters.map fun rule => (rule.shown look arguments).value)

/-- What is reported while the values of a call record are shown. What is reported on the context
comes before the exception is shown. -/
def reports (context : List Record) : List Record :=
  plan.parameters.flatMap (fun rule => (rule.shown look arguments).reports) ++ context ++
    plan.errorReports look arguments

/-- The fields of a call record: the exception goes over the context. -/
def fields (context : Context.Fields) : Context.Fields :=
  match plan.error? arguments with
  | some error => if error.isNone then context else Document.insert "exc_info" error context
  | none => context

/-- The exception is a field of one name. -/
theorem clash?_fields {names : List String} (h : "exc_info" ∉ names) (context : Context.Fields) :
    Logger.clash? names (plan.fields arguments context) = Logger.clash? names context := by
  rw [fields]
  rcases plan.error? arguments with _ | error
  · rfl
  · by_cases hnone : error.isNone = true
    · simp only [if_pos hnone]
    · simp only [if_neg hnone, Logger.clash?_insert h]

/-- The arguments of a call can be shown: every rule has a value, and the error parameter, if there
is one, has an argument that can be shown. -/
structure Shows : Prop where
  rules : ∀ rule ∈ plan.parameters, (rule.shown look arguments).IsValue
  error : ∀ parameter, plan.errorParameter = some parameter →
    ∃ error, LogPoint.item? arguments parameter.index = some error ∧
      (parameter.positions ≠ [] → (look error).IsValue)

end Plan

namespace LogPoint

/-! ## Parts of an operation

Each part of an operation is run by itself, and it is told what it gives and what it reports.
Showing values reports and nothing else, so what is shown later is not changed by it; collecting
counts. -/

/-- The converters that a log point uses. -/
def registryAt (point : LogPoint) (j : Journal) : Converters :=
  point.converters.getD j.converters

/-- The context variables that a log point collects. -/
def providersAt (point : LogPoint) (j : Journal) : List Provider :=
  point.providers.getD j.providers

/-- What a log point shows for a value. -/
def shownAt (naming : Naming) (point : LogPoint) (j : Journal) : Value → Shown :=
  (point.registryAt j).shown naming j.bound

/-- What comes of collecting the context of a log point. -/
def gathered (naming : Naming) (point : LogPoint) (j : Journal) : Context.Gathered :=
  Context.gather naming j.bound (point.providersAt j) [] j.counters

@[simp]
theorem shownAt_logged (naming : Naming) (point : LogPoint) (j : Journal) (rs : List Record) :
    point.shownAt naming (j.logged rs) = point.shownAt naming j := rfl

@[simp]
theorem shownAt_counted (naming : Naming) (point : LogPoint) (j : Journal)
    (counters : List Nat) :
    point.shownAt naming (j.counted counters) = point.shownAt naming j := rfl

@[simp]
theorem shownAt_asked (naming : Naming) (point : LogPoint) (level : Nat) (sink : Sink)
    (j : Journal) : point.shownAt naming (sink.asked level j) = point.shownAt naming j := by
  rcases sink with l | ⟨methods, _ | threshold⟩ <;> rfl

@[simp]
theorem gathered_logged (naming : Naming) (point : LogPoint) (j : Journal) (rs : List Record) :
    point.gathered naming (j.logged rs) = point.gathered naming j := rfl

@[simp]
theorem gathered_asked (naming : Naming) (point : LogPoint) (level : Nat) (sink : Sink)
    (j : Journal) : point.gathered naming (sink.asked level j) = point.gathered naming j := by
  rcases sink with l | ⟨methods, _ | threshold⟩ <;> rfl

variable {naming : Naming} {point : LogPoint} {arguments : List Value}

theorem registry_run (j : Journal) : point.registry j = (.ok (point.registryAt j), j) := by
  rw [registry, registryAt]
  rcases point.converters with _ | registry <;> rfl

theorem convert_run (v : Value) (j : Journal) :
    point.convert naming v j =
      ((point.shownAt naming j v).outcome, j.logged (point.shownAt naming j v).reports) := by
  rw [convert, Action.bind_of_ok (registry_run j)]
  exact Converters.convert_run v j

theorem convert_of_isValue {v : Value} {j : Journal} (h : (point.shownAt naming j v).IsValue) :
    point.convert naming v j =
      (.ok (point.shownAt naming j v).value, j.logged (point.shownAt naming j v).reports) := by
  rw [convert_run, ← h]

theorem argument_run {v : Value} {i : Int} (h : item? arguments i = some v) (j : Journal) :
    argument arguments i j = (.ok v, j) := by
  rw [argument, h]
  rfl

theorem render_run (rule : Rule) (j : Journal) :
    point.render naming arguments rule j =
      ((rule.shown (point.shownAt naming j) arguments).outcome,
        j.logged (rule.shown (point.shownAt naming j) arguments).reports) := by
  cases rule with
  | static text => simp [render, Rule.shown, Action.pure_run]
  | live i name hint =>
    rw [render, Rule.shown]
    rcases hitem : item? arguments i with _ | v
    · have hraise : argument arguments i j = (.error (.fault .indexOutOfRange), j) := by
        rw [argument, hitem]
        rfl
      rw [Action.bind_of_error hraise]
      simp
    · rw [Action.bind_of_ok (argument_run hitem j)]
      exact convert_run v j

/-- The values of the rules, one after the other. -/
theorem mapM_render_run {rules : List Rule} {j : Journal}
    (h : ∀ rule ∈ rules, (rule.shown (point.shownAt naming j) arguments).IsValue) :
    rules.mapM (point.render naming arguments) j =
      (.ok (rules.map fun rule => (rule.shown (point.shownAt naming j) arguments).value),
        j.logged (rules.flatMap fun rule =>
          (rule.shown (point.shownAt naming j) arguments).reports)) := by
  induction rules generalizing j with
  | nil => simp [Action.pure_run]
  | cons rule rules ih =>
    obtain ⟨hrule, hrules⟩ := List.forall_mem_cons.mp h
    have hrender : point.render naming arguments rule j =
        (.ok (rule.shown (point.shownAt naming j) arguments).value,
          j.logged (rule.shown (point.shownAt naming j) arguments).reports) := by
      rw [render_run, ← hrule]
    have hrest := ih (j := j.logged (rule.shown (point.shownAt naming j) arguments).reports) hrules
    rw [Action.mapM_cons_of_ok hrender hrest, Journal.logged_logged]
    rfl

/-- The exception is put in at all its positions. It is converted for each of them, so a converter
that fails is reported on as often. -/
theorem insertError_run {error : Value} {j : Journal} (positions : List Int)
    (h : positions ≠ [] → (point.shownAt naming j error).IsValue) (values : List Value) :
    point.insertError naming error positions values j =
      (.ok (insertAll (point.shownAt naming j error).value positions values),
        j.logged (positions.flatMap fun _ => (point.shownAt naming j error).reports)) := by
  induction positions generalizing values j with
  | nil => simp [insertError, insertAll, Action.pure_run]
  | cons i positions ih =>
    have hvalue := h (List.cons_ne_nil i positions)
    have hrest := ih (j := j.logged (point.shownAt naming j error).reports) (fun _ => hvalue)
      (insertAt values i (point.shownAt naming j error).value)
    rw [shownAt_logged, Journal.logged_logged] at hrest
    rw [insertError, Action.bind_of_ok (convert_of_isValue hvalue), hrest]
    rfl

/-- What the error parameter adds to the values and fields of a call record. `None` adds no field,
but it is put into the slots. -/
theorem withError_run {j : Journal}
    (h : point.plan.Shows (point.shownAt naming j) arguments) (values : List Value)
    (fields : Context.Fields) :
    point.withError naming arguments values fields j =
      (.ok (point.plan.completed (point.shownAt naming j) arguments values,
          point.plan.fields arguments fields),
        j.logged (point.plan.errorReports (point.shownAt naming j) arguments)) := by
  rcases hparameter : point.plan.errorParameter with _ | parameter
  · simp [withError, Plan.error?, Plan.completed, Plan.fields, Plan.errorReports, hparameter,
      Action.pure_run]
  · obtain ⟨error, hitem, hvalue⟩ := h.error parameter hparameter
    have herror : point.plan.error? arguments = some error := by
      rw [Plan.error?, hparameter]
      exact hitem
    have hpositions : point.plan.positions = parameter.positions := by
      rw [Plan.positions, hparameter]
    simp only [withError, hparameter, Plan.completed, Plan.fields, Plan.errorReports, herror,
      hpositions]
    rw [Action.bind_of_ok (argument_run hitem j),
      Action.bind_of_ok (insertError_run parameter.positions hvalue values)]
    rfl

theorem context_run (naming : Naming) (point : LogPoint) (j : Journal) :
    point.context naming j =
      ((point.gathered naming j).outcome,
        (j.logged (point.gathered naming j).reports).counted
          (point.gathered naming j).counters) := by
  rw [gathered, ← Context.collect_run naming, context, providersAt]
  rcases point.providers with _ | providers <;> rfl

/-! ## Operations

An operation asks the sink, shows its values and collects the context, in this order, and then hands
over the event. Any part may raise; here all of them succeed, and the operation is the last step in
the journal that the others have left. -/

/-- The journal when a log point hands its event to the sink: the sink was asked, some reports were
written, and the context variables were counted. -/
def ready (naming : Naming) (point : LogPoint) (sink : Sink) (reports : List Record)
    (j : Journal) : Journal :=
  ((sink.asked point.plan.level.number j).logged reports).counted
    (point.gathered naming j).counters

/-- A sink is handed an event, unless a field has a name that is taken. -/
theorem emit_of_none {fields : Context.Fields}
    (h : Logger.clash? ["self", "logger", "event"] fields = none) (sink : Sink) (event : String)
    (args : List Value) (j : Journal) :
    point.emit naming sink event args fields j =
      sink.emit naming point.plan.level.method event args fields j := by
  rw [emit, Action.bind_of_ok (Logger.refuse_of_none h j)]

theorem emit_of_some {fields : Context.Fields} {name : String}
    (h : Logger.clash? ["self", "logger", "event"] fields = some name) (sink : Sink)
    (event : String) (args : List Value) (j : Journal) :
    point.emit naming sink event args fields j = (.error (.fault (.keywordClash name)), j) := by
  rw [emit, Action.bind_of_error (Logger.refuse_of_some h j)]

theorem isEnabled_run (sink : Sink) (j : Journal) :
    point.isEnabled sink j =
      (.ok (sink.takes point.plan.level.number), sink.asked point.plan.level.number j) :=
  Sink.isEnabledFor_run _ _ _

/-- **What logging a call does**, if all that it shows can be shown and the context is collected. -/
theorem logCall_run {sink : Sink} {j : Journal} {context : Context.Fields}
    (hsink : sink.takes point.plan.level.number = true)
    (hshows : point.plan.Shows (point.shownAt naming j) arguments)
    (hcontext : (point.gathered naming j).outcome = .ok context) :
    point.logCall naming sink arguments j =
      point.emit naming sink
        (point.callEvent (point.plan.values (point.shownAt naming j) arguments))
        (point.plan.values (point.shownAt naming j) arguments)
        (point.plan.fields arguments context)
        (point.ready naming sink
          (point.plan.reports (point.shownAt naming j) arguments (point.gathered naming j).reports)
          j) := by
  obtain ⟨k, hk⟩ : ∃ k, k = sink.asked point.plan.level.number j := ⟨_, rfl⟩
  have hlook : point.shownAt naming k = point.shownAt naming j := by rw [hk, shownAt_asked]
  have hgather : point.gathered naming k = point.gathered naming j := by rw [hk, gathered_asked]
  rw [← hlook] at hshows
  rw [← hgather] at hcontext
  have hcollect := context_run naming point
    (k.logged (point.plan.parameters.flatMap fun rule =>
      (rule.shown (point.shownAt naming k) arguments).reports))
  rw [gathered_logged, hcontext, Journal.logged_logged] at hcollect
  rw [logCall, Action.bind_of_ok (isEnabled_run sink j), hsink, ← hk]
  simp only [if_true]
  rw [Action.bind_of_ok (mapM_render_run hshows.rules), Action.bind_of_ok hcollect,
    Action.bind_of_ok (withError_run (by simpa using hshows) _ _)]
  simp only [ready, ← hlook, ← hgather, ← hk, shownAt_counted, shownAt_logged,
    Journal.logged_counted, Journal.logged_logged]
  rfl

/-- **What logging a result does**, if the plan asks for it. -/
theorem logResult_run {sink : Sink} {result : Value} {j : Journal} {context : Context.Fields}
    (hresult : point.plan.logResult = true)
    (hsink : sink.takes point.plan.level.number = true)
    (hshows : (point.shownAt naming j result).IsValue)
    (hcontext : (point.gathered naming j).outcome = .ok context) :
    point.logResult naming sink result j =
      point.emit naming sink "return %s" [(point.shownAt naming j result).value] context
        (point.ready naming sink
          ((point.shownAt naming j result).reports ++ (point.gathered naming j).reports) j) := by
  obtain ⟨k, hk⟩ : ∃ k, k = sink.asked point.plan.level.number j := ⟨_, rfl⟩
  have hlook : point.shownAt naming k = point.shownAt naming j := by rw [hk, shownAt_asked]
  have hgather : point.gathered naming k = point.gathered naming j := by rw [hk, gathered_asked]
  rw [← hlook] at hshows
  rw [← hgather] at hcontext
  have hcollect := context_run naming point
    (k.logged (point.shownAt naming k result).reports)
  rw [gathered_logged, hcontext, Journal.logged_logged] at hcollect
  rw [logResult, if_pos hresult, Action.bind_of_ok (isEnabled_run sink j), hsink, ← hk]
  simp only [if_true]
  rw [Action.bind_of_ok (convert_of_isValue hshows), Action.bind_of_ok hcollect]
  simp only [ready, ← hlook, ← hgather, ← hk]

/-- **What logging a failure does.** The exception may not be given by a context variable as
well. -/
theorem logFailure_run {sink : Sink} {error : Value} {j : Journal} {context : Context.Fields}
    (hsink : sink.takes point.plan.level.number = true)
    (hcontext : (point.gathered naming j).outcome = .ok context) :
    point.logFailure naming sink error j =
      match Logger.clash? ["exc_info"] context with
      | some name => (.error (.fault (.keywordClash name)),
          point.ready naming sink (point.gathered naming j).reports j)
      | none =>
        point.emit naming sink "failed with %s" [.str (naming.kindOf error)]
          (Document.insert "exc_info" error context)
          (point.ready naming sink (point.gathered naming j).reports j) := by
  obtain ⟨k, hk⟩ : ∃ k, k = sink.asked point.plan.level.number j := ⟨_, rfl⟩
  have hgather : point.gathered naming k = point.gathered naming j := by rw [hk, gathered_asked]
  rw [← hgather] at hcontext
  have hcollect := context_run naming point k
  rw [hcontext] at hcollect
  rw [logFailure, Action.bind_of_ok (isEnabled_run sink j), hsink, ← hk]
  simp only [if_true]
  rw [Action.bind_of_ok hcollect]
  simp only [ready, ← hgather, ← hk]
  rcases hclash : Logger.clash? ["exc_info"] context with _ | name
  · rw [Action.bind_of_ok (Logger.refuse_of_none hclash _)]
  · rw [Action.bind_of_error (Logger.refuse_of_some hclash _)]

/-- Where its level is not taken, a log point does nothing but ask the sink. It looks at no
argument, so these may be anything. -/
theorem off_run {sink : Sink} (hsink : sink.takes point.plan.level.number = false)
    (j : Journal) :
    (∀ arguments, point.logCall naming sink arguments j =
        (.ok (), sink.asked point.plan.level.number j)) ∧
      (∀ result, point.plan.logResult = true →
        point.logResult naming sink result j =
          (.ok (), sink.asked point.plan.level.number j)) ∧
      ∀ error, point.logFailure naming sink error j =
        (.ok (), sink.asked point.plan.level.number j) := by
  refine ⟨fun arguments => ?_, fun result hresult => ?_, fun error => ?_⟩
  · rw [logCall, Action.bind_of_ok (isEnabled_run sink j), hsink]
    rfl
  · rw [logResult, if_pos hresult, Action.bind_of_ok (isEnabled_run sink j), hsink]
    rfl
  · rw [logFailure, Action.bind_of_ok (isEnabled_run sink j), hsink]
    rfl

end LogPoint

end CallLog
