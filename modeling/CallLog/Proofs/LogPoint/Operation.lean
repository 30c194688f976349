import CallLog.Proofs.LogPoint.Run

/-!
# Operations with context

A log point has three operations: it logs a call, a result or a failure. They put their fields
together in different ways, but all of them spread the collected context as named arguments, next to
names of their own. `Operation.taken` are the names that an operation cannot be given.

The main statement is `operation_context`: with providers that never raise, an operation hands the
sink its event once, with the context and the exception as fields, unless a key of the context is
taken. If one is, the operation fails and nothing is emitted.
-/

namespace CallLog

namespace LogPoint

/-! ## Operations

The three operations differ in their event and values and in where an exception comes from. The rest
is the same for all: the context is collected, the names are checked, and the sink is called. So it
is proved once for an operation, with what is different as functions of it. -/

/-- What a log point is asked to log. -/
inductive Operation where
  | call (arguments : List Value)
  | result (v : Value)
  | failure (error : Value)

namespace Operation

variable (naming : Naming) (point : LogPoint) (look : Value → Shown)

/-- Performs an operation. -/
def run (sink : Sink) : Operation → Logging Unit
  | call arguments => point.logCall naming sink arguments
  | result v => point.logResult naming sink v
  | failure error => point.logFailure naming sink error

/-- The names that an operation has for itself. One that logs a failure gives the exception by its
name, next to the context, while one that logs a call puts it into the context first. -/
def taken : Operation → List String
  | call _ | result _ => ["self", "logger", "event"]
  | failure _ => ["exc_info", "self", "logger", "event"]

theorem self_mem_taken (op : Operation) : "self" ∈ op.taken := by
  cases op <;> simp [taken]

theorem event_mem_taken (op : Operation) : "event" ∈ op.taken := by
  cases op <;> simp [taken]

/-- What is logged can be shown, and is asked for. -/
def CanShow : Operation → Prop
  | call arguments => point.plan.Shows look arguments
  | result v => point.plan.logResult = true ∧ (look v).IsValue
  | failure _ => True

/-- What is reported while an operation shows its values and collects the context. -/
def reports (context : List Record) : Operation → List Record
  | call arguments => point.plan.reports look arguments context
  | result v => (look v).reports ++ context
  | failure _ => context

/-- The event of an operation. -/
def event : Operation → String
  | call arguments => point.callEvent (point.plan.values look arguments)
  | result _ => "return %s"
  | failure _ => "failed with %s"

/-- The values of an operation. -/
def args : Operation → List Value
  | call arguments => point.plan.values look arguments
  | result v => [(look v).value]
  | failure error => [.str (naming.kindOf error)]

/-- The exception that an operation gives to the sink. -/
def exception? : Operation → Option Value
  | call arguments => (point.plan.error? arguments).filter fun error => !error.isNone
  | result _ => none
  | failure error => some error

/-- The fields of an operation: the exception goes over the context. -/
def fields (context : Context.Fields) (op : Operation) : Context.Fields :=
  match op.exception? point with
  | some error => Document.insert "exc_info" error context
  | none => context

theorem fields_call (arguments : List Value) (context : Context.Fields) :
    fields point context (call arguments) = point.plan.fields arguments context := by
  rw [fields, exception?, Plan.fields]
  rcases point.plan.error? arguments with _ | error
  · rfl
  · by_cases hnone : error.isNone = true
    · simp [Option.filter, hnone]
    · simp [Option.filter, hnone]

/-- The field of a name: the exception of the operation, or else what the context has. -/
theorem lookup_fields (context : Context.Fields) (op : Operation) (name : String) :
    (op.fields point context).lookup name =
      if name = "exc_info" then (op.exception? point).or (context.lookup name)
      else context.lookup name := by
  rw [fields]
  rcases op.exception? point with _ | error
  · simp
  · rw [Document.lookup_insert]
    by_cases hname : name = "exc_info"
    · simp [hname]
    · simp [hname]

theorem nodup_keys_fields {context : Context.Fields} (h : (context.map Prod.fst).Nodup)
    (op : Operation) : ((op.fields point context).map Prod.fst).Nodup := by
  rw [fields]
  rcases op.exception? point with _ | error
  · exact h
  · exact Document.nodup_keys_insert h

/-- The exception is a field of one name. -/
theorem clash?_fields {names : List String} (h : "exc_info" ∉ names) (context : Context.Fields)
    (op : Operation) :
    Logger.clash? names (op.fields point context) = Logger.clash? names context := by
  rw [fields]
  rcases op.exception? point with _ | error
  · rfl
  · exact Logger.clash?_insert h error context

variable {naming point}

/-- Fields that an operation can be given can be given to a logger: what the logger has for itself
is among what the operation has. -/
theorem free_of_taken {context : Context.Fields} (op : Operation)
    (h : Logger.clash? op.taken context = none) :
    Logger.clash? ["self", "event"] (op.fields point context) = none := by
  rw [clash?_fields point (by decide)]
  exact Logger.clash?_of_subset (by simp [op.self_mem_taken, op.event_mem_taken]) h

/-- The journal when an operation hands its event to the sink. -/
def readyAt (naming : Naming) (point : LogPoint) (sink : Sink) (j : Journal) (op : Operation) :
    Journal :=
  point.ready naming sink
    (op.reports point (point.shownAt naming j) (point.gathered naming j).reports) j

/-- **What an operation does**: it hands the sink its event, unless a key of the context is
taken. By then values were shown and the context was collected, so reports on them are there in
both cases. -/
theorem run_eq {op : Operation} {sink : Sink} {j : Journal} {context : Context.Fields}
    (hsink : sink.takes point.plan.level.number = true)
    (hshow : op.CanShow point (point.shownAt naming j))
    (hcontext : (point.gathered naming j).outcome = .ok context) :
    op.run naming point sink j =
      match Logger.clash? op.taken context with
      | some name => (.error (.fault (.keywordClash name)), op.readyAt naming point sink j)
      | none =>
        sink.emit naming point.plan.level.method (op.event point (point.shownAt naming j))
          (op.args naming point (point.shownAt naming j)) (op.fields point context)
          (op.readyAt naming point sink j) := by
  have hemit (fields : Context.Fields) (event : String) (args : List Value) (k : Journal) :
      point.emit naming sink event args fields k =
        match Logger.clash? ["self", "logger", "event"] fields with
        | some name => (.error (.fault (.keywordClash name)), k)
        | none => sink.emit naming point.plan.level.method event args fields k := by
    rcases hclash : Logger.clash? ["self", "logger", "event"] fields with _ | name
    · exact emit_of_none hclash sink event args k
    · exact emit_of_some hclash sink event args k
  cases op with
  | call arguments =>
    rw [run, logCall_run hsink hshow hcontext, hemit, fields_call, taken,
      Plan.clash?_fields _ _ (by decide)]
    rfl
  | result v =>
    obtain ⟨hresult, hvalue⟩ := hshow
    rw [run, logResult_run hresult hsink hvalue hcontext, hemit]
    rfl
  | failure error =>
    have htaken : taken (failure error) = ["exc_info"] ++ ["self", "logger", "event"] := rfl
    rw [run, logFailure_run hsink hcontext, htaken, Logger.clash?_append]
    rcases hclash : Logger.clash? ["exc_info"] context with _ | name
    · rw [Option.none_or]
      simp only
      rw [hemit, Logger.clash?_insert (by decide)]
      rfl
    · rfl

end Operation

/-- The context that the providers of a log point give, as far as they never raise. -/
def collected (point : LogPoint) (j : Journal) : Context.Fields :=
  Context.overlay [] (Context.answers (point.providersAt j) j.counters)

/-- How an operation is logged with context. -/
structure ContextRecord (naming : Naming) (point : LogPoint) (sink : Sink) (op : Operation)
    (j : Journal) : Prop where
  /-- the context has every key once, with the last value that was given for it -/
  keys : ((point.collected j).map Prod.fst).Nodup
  context : ∀ key, (point.collected j).lookup key =
    (Context.answers (point.providersAt j) j.counters).reverse.lookup key
  /-- the fields are the context, and over it the exception if the operation has one -/
  fields : ((op.fields point (point.collected j)).map Prod.fst).Nodup ∧
    ∀ name, (op.fields point (point.collected j)).lookup name =
      if name = "exc_info" then (op.exception? point).or ((point.collected j).lookup name)
      else (point.collected j).lookup name
  /-- unless a key is taken, all that is done is to hand the event to the sink -/
  emitted : (∀ key ∈ (point.collected j).map Prod.fst, key ∉ op.taken) →
    op.run naming point sink j =
      sink.emit naming point.plan.level.method (op.event point (point.shownAt naming j))
        (op.args naming point (point.shownAt naming j)) (op.fields point (point.collected j))
        (op.readyAt naming point sink j)
  /-- so that a recorder notes one call, unless it takes a key for itself -/
  recorded : ∀ methods threshold, sink = .recorder methods threshold →
    point.plan.level.method ∈ methods →
    (∀ key ∈ (point.collected j).map Prod.fst, key ∉ "method" :: op.taken) →
    op.run naming point sink j =
      (.ok (), (op.readyAt naming point sink j).noted
        (.emit point.plan.level.method (op.event point (point.shownAt naming j))
          (op.args naming point (point.shownAt naming j)) (op.fields point (point.collected j))))
  /-- and a logger writes one record, if it can -/
  written : ∀ l, sink = .logger l →
    (∀ key ∈ (point.collected j).map Prod.fst, key ∉ op.taken) →
    op.run naming point sink j =
      match Logger.written naming l (Logger.shownLevel point.plan.level)
        (op.event point (point.shownAt naming j)) (op.args naming point (point.shownAt naming j))
        j.bound (op.fields point (point.collected j)) with
      | .ok r => (.ok (), (op.readyAt naming point sink j).logged [r])
      | .error f => (.error (.fault f), op.readyAt naming point sink j)
  /-- with a key that is taken the operation fails, and nothing is emitted -/
  refused : (∃ key ∈ (point.collected j).map Prod.fst, key ∈ op.taken) →
    ∃ name ∈ op.taken, name ∈ (point.collected j).map Prod.fst ∧
      op.run naming point sink j =
        (.error (.fault (.keywordClash name)), op.readyAt naming point sink j)

/-- **Context does not fail an operation**, unless one of its keys is taken. Whatever the providers
answer, and however often they answer for one key, the fields are the context with the exception
over it. -/
theorem operation_context {naming : Naming} {point : LogPoint} {sink : Sink} {op : Operation}
    {j : Journal} (hsink : sink.takes point.plan.level.number = true)
    (hshow : op.CanShow point (point.shownAt naming j))
    (hproviders : ∀ p ∈ point.providersAt j, p.Answers) :
    ContextRecord naming point sink op j := by
  have hcontext : (point.gathered naming j).outcome = .ok (point.collected j) := by
    rw [gathered, Context.gather_of_answers hproviders]
    rfl
  have hrun := Operation.run_eq hsink hshow hcontext
  have hkeys : ((point.collected j).map Prod.fst).Nodup :=
    Context.nodup_keys_overlay (by simp) _
  have hemitted (hfree : ∀ key ∈ (point.collected j).map Prod.fst, key ∉ op.taken) :
      op.run naming point sink j =
        sink.emit naming point.plan.level.method (op.event point (point.shownAt naming j))
          (op.args naming point (point.shownAt naming j)) (op.fields point (point.collected j))
          (op.readyAt naming point sink j) := by
    rw [hrun, Logger.clash?_none_of_keys hfree]
  refine ⟨hkeys, ?_, ⟨Operation.nodup_keys_fields point hkeys op,
    Operation.lookup_fields point _ op⟩, hemitted, ?_, ?_, ?_⟩
  · intro key
    rw [collected, Context.lookup_overlay]
    simp
  · rintro methods threshold rfl hmethod hfree
    have hfields : Logger.clash? ["method", "event"] (op.fields point (point.collected j)) =
        none := by
      rw [Operation.clash?_fields point (by decide)]
      exact Logger.clash?_of_subset (by simp [op.event_mem_taken])
        (Logger.clash?_none_of_keys hfree)
    rw [hemitted fun key hkey hname => hfree key hkey (List.mem_cons_of_mem _ hname)]
    exact Sink.emit_recorder hmethod hfields _ _ _ _ _
  · rintro l rfl hfree
    rw [hemitted hfree]
    exact Sink.emit_logger hsink (op.free_of_taken (Logger.clash?_none_of_keys hfree)) _ _ _ _
  · intro hclash
    obtain ⟨name, hname⟩ := Option.ne_none_iff_exists'.mp (Logger.clash?_ne_none hclash)
    obtain ⟨htaken, hkey⟩ := Logger.clash?_mem hname
    exact ⟨name, htaken, hkey, by rw [hrun, hname]⟩

/-- A log point with a context variable that is named like the field of an exception. -/
def shadowing : LogPoint where
  plan := { logger := "m", level := .debug, message := "f" }
  providers := some [⟨"n", .count 0⟩, ⟨"n", .const .none⟩, ⟨"exc_info", .const (.int 1)⟩]

theorem operation_context_shadowing :
    ContextRecord .empty shadowing (.recorder ["debug"] none)
      (.failure (.error (.known .valueError) [.str "boom"])) { counters := [0] } := by
  refine operation_context rfl trivial ?_
  intro p hp counters
  simp only [shadowing, providersAt, Option.getD_some, List.mem_cons, List.not_mem_nil,
    or_false] at hp
  rcases hp with rfl | rfl | rfl
  · exact ⟨_, rfl⟩
  · exact ⟨_, rfl⟩
  · exact ⟨_, rfl⟩

/-- The failure of the call is not logged: logging it fails. -/
theorem shadowing_fails :
    ((Operation.failure (.error (.known .valueError) [.str "boom"])).run .empty shadowing
        (.recorder ["debug"] none) { counters := [0] }) =
      (.error (.fault (.keywordClash "exc_info")), { counters := [1] }) :=
  rfl

end LogPoint

end CallLog
