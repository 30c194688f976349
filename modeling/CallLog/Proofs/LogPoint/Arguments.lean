import CallLog.Proofs.Format.Message
import CallLog.Proofs.LogPoint.Run

/-!
# The arguments of a planned call

The plan of a callable keeps the error parameter apart from the other rules. In the values of a call
record they are together again: with a message of its own the record has a value for every slot, in
order (`values_planOf`). All of them can be shown if the arguments can.

`eventText_callEvent` says what the event of a call record looks like with its values filled in.
-/

namespace CallLog

namespace LogPoint

@[simp]
theorem item?_natCast {α : Type} (xs : List α) (n : Nat) : item? xs (n : Int) = xs[n]? := by
  rw [item?, if_pos (Int.natCast_nonneg n), Int.toNat_natCast]

end LogPoint

namespace Rule

theorem shown_live {look : Value → Shown} {arguments : List Value} {i : Nat} {v : Value}
    (h : arguments[i]? = some v) (name : String) (hint : TypeHint) :
    (live i name hint).shown look arguments = look v := by
  rw [shown, LogPoint.item?_natCast, h]

/-- All rules for an argument show the same. -/
theorem shown_of_isLiveFor {look : Value → Shown} {arguments : List Value} {i : Nat} {v : Value}
    (h : arguments[i]? = some v) {rule : Rule} (hlive : rule.isLiveFor i = true) :
    rule.shown look arguments = look v := by
  cases rule with
  | live k name hint =>
    obtain rfl : k = i := by simpa [isLiveFor] using hlive
    exact shown_live h name hint
  | static text => cases hlive

end Rule

namespace Metadata

variable {metadata : Metadata} {arguments : List Value}

/-- The error parameter of a callable has an argument in each of its calls, at the index that it was
found at. -/
theorem errorParameter_argument (hnumbered : Parameter.Numbered metadata.parameters)
    (hlen : arguments.length = metadata.parameters.length) {rules : List Rule}
    {e : ErrorParameter} (h : metadata.errorParameter rules = some e) :
    ∃ i v, Parameter.errorIndex metadata.parameters = some i ∧ e.index = i ∧
      arguments[i]? = some v ∧ e.positions = metadata.keptPositions i rules := by
  obtain ⟨i, p, hi, hp, -, rfl⟩ := errorParameter_eq_some h
  have hlt : i < arguments.length := by
    rw [hlen]
    exact (List.getElem?_eq_some_iff.mp hp).1
  exact ⟨i, arguments[i], hi, hnumbered i p hp, List.getElem?_eq_getElem hlt, rfl⟩

/-- **The values of a call record**, with a message of its own: one for each slot, in order. The
plan takes the slots of the error parameter out and notes where they were; a call puts the exception
back there. So in the end it is as if they had not been taken out. -/
theorem values_planOf (hmessage : metadata.config.message ≠ "")
    (hnumbered : Parameter.Numbered metadata.parameters)
    (hlen : arguments.length = metadata.parameters.length) (look : Value → Shown)
    (rules : List Rule) (message : String) :
    (metadata.planOf rules message).values look arguments =
      rules.map fun rule => (rule.shown look arguments).value := by
  rcases herror : metadata.errorParameter rules with _ | e
  · simp [Plan.values, Plan.completed, Plan.error?, planOf, herror, withoutError_of_none herror]
  · obtain ⟨i, v, hi, hindex, hv, hpositions⟩ := errorParameter_argument hnumbered hlen herror
    rw [keptPositions, if_neg hmessage] at hpositions
    have hvalue : (metadata.planOf rules message).error? arguments = some v := by
      simp [Plan.error?, planOf, herror, hindex, hv]
    have hplaces : (metadata.planOf rules message).positions = positionsOf i rules := by
      simp [Plan.positions, planOf, herror, hpositions]
    have hparameters : (metadata.planOf rules message).parameters =
        rules.filter fun rule => !rule.isLiveFor i := withoutError_of_some herror hi
    simp only [Plan.values, Plan.completed, hvalue, hplaces, hparameters]
    exact LogPoint.insertAll_positionsOf fun rule _ hlive => by
      rw [Rule.shown_of_isLiveFor hv hlive]

/-- A generated message has no slot for the exception, so nothing is put back. -/
theorem values_planOf_generated (hmessage : metadata.config.message = "")
    (hnumbered : Parameter.Numbered metadata.parameters)
    (hlen : arguments.length = metadata.parameters.length) (look : Value → Shown)
    (rules : List Rule) (message : String) :
    (metadata.planOf rules message).values look arguments =
      (metadata.withoutError rules).map fun rule => (rule.shown look arguments).value := by
  rcases herror : metadata.errorParameter rules with _ | e
  · simp [Plan.values, Plan.completed, Plan.error?, planOf, herror]
  · obtain ⟨i, v, -, hindex, hv, hpositions⟩ := errorParameter_argument hnumbered hlen herror
    rw [keptPositions, if_pos hmessage] at hpositions
    simp [Plan.values, Plan.completed, Plan.error?, Plan.positions, planOf, herror, hindex, hv,
      hpositions, LogPoint.insertAll]

theorem mem_withoutError {rules : List Rule} {rule : Rule}
    (h : rule ∈ metadata.withoutError rules) : rule ∈ rules := by
  unfold withoutError at h
  split at h
  · exact (List.mem_filter.mp h).1
  · exact h

/-- Arguments that can be shown make a record that can be shown. -/
theorem shows_planOf (hnumbered : Parameter.Numbered metadata.parameters)
    (hlen : arguments.length = metadata.parameters.length) {look : Value → Shown}
    (hlook : ∀ v ∈ arguments, (look v).IsValue) {rules : List Rule}
    (hrules : ∀ rule ∈ rules, (rule.shown look arguments).IsValue) (message : String) :
    (metadata.planOf rules message).Shows look arguments where
  rules rule h := hrules rule (mem_withoutError h)
  error e h := by
    obtain ⟨i, v, -, hindex, hv, -⟩ := errorParameter_argument hnumbered hlen h
    refine ⟨v, by rw [hindex, LogPoint.item?_natCast, hv], fun _ => ?_⟩
    exact hlook v (List.mem_of_getElem? hv)

end Metadata

/-! ## Converters that succeed

Where all converters succeed nothing is reported, and what is shown does not depend on what is bound
around. So a call without context is one call of the sink, and that is all that happens. -/

namespace LogPoint

theorem mem_of_item? {α : Type} {xs : List α} {i : Int} {x : α} (h : item? xs i = some x) :
    x ∈ xs := by
  unfold item? at h
  split at h
  · exact List.mem_of_getElem? h
  · split at h
    · exact List.mem_of_getElem? h
    · cases h

end LogPoint

/-- What is shown for a value whose converter succeeds. -/
def Converters.silent (naming : Naming) (registry : Converters) (v : Value) : Shown :=
  ⟨registry.converted naming v, []⟩

theorem Rule.shown_congr {look look' : Value → Shown} {arguments : List Value}
    (h : ∀ v ∈ arguments, look v = look' v) (rule : Rule) :
    rule.shown look arguments = rule.shown look' arguments := by
  cases rule with
  | static text => rfl
  | live i name hint =>
    rw [shown, shown]
    rcases hitem : LogPoint.item? arguments i with _ | v
    · rfl
    · exact h v (LogPoint.mem_of_item? hitem)

namespace Plan

variable {plan : Plan} {look look' : Value → Shown} {arguments : List Value}

theorem error?_mem {error : Value} (h : plan.error? arguments = some error) :
    error ∈ arguments := by
  unfold error? at h
  obtain ⟨parameter, -, hitem⟩ := Option.bind_eq_some_iff.mp h
  exact LogPoint.mem_of_item? hitem

theorem values_congr (h : ∀ v ∈ arguments, look v = look' v) :
    plan.values look arguments = plan.values look' arguments := by
  have hrules : (fun rule : Rule => (rule.shown look arguments).value) =
      fun rule => (rule.shown look' arguments).value :=
    funext fun rule => by rw [Rule.shown_congr h]
  rw [values, values, hrules, completed, completed]
  rcases herror : plan.error? arguments with _ | error
  · rfl
  · simp only [h error (error?_mem herror)]

theorem reports_congr (h : ∀ v ∈ arguments, look v = look' v) (context : List Record) :
    plan.reports look arguments context = plan.reports look' arguments context := by
  have hrules : (fun rule : Rule => (rule.shown look arguments).reports) =
      fun rule => (rule.shown look' arguments).reports :=
    funext fun rule => by rw [Rule.shown_congr h]
  rw [reports, reports, hrules, errorReports, errorReports]
  rcases herror : plan.error? arguments with _ | error
  · rfl
  · simp only [h error (error?_mem herror)]

theorem Shows.congr (h : ∀ v ∈ arguments, look v = look' v) (hshows : plan.Shows look arguments) :
    plan.Shows look' arguments where
  rules rule hrule := by
    rw [← Rule.shown_congr h]
    exact hshows.rules rule hrule
  error parameter hparameter := by
    obtain ⟨error, hitem, hvalue⟩ := hshows.error parameter hparameter
    rw [h error (LogPoint.mem_of_item? hitem)] at hvalue
    exact ⟨error, hitem, hvalue⟩

/-- Converters that succeed are not reported on. -/
theorem reports_silent (plan : Plan) (naming : Naming) (registry : Converters)
    (arguments : List Value) : plan.reports (registry.silent naming) arguments [] = [] := by
  have hrule : ∀ rule ∈ plan.parameters,
      (rule.shown (registry.silent naming) arguments).reports = [] := by
    intro rule _
    cases rule with
    | static text => rfl
    | live i name hint =>
      rw [Rule.shown]
      rcases LogPoint.item? arguments i with _ | v <;> rfl
  have hrules : plan.parameters.flatMap (fun rule =>
      (rule.shown (registry.silent naming) arguments).reports) = [] :=
    List.flatMap_eq_nil_iff.mpr hrule
  rw [reports, hrules, errorReports]
  rcases plan.error? arguments with _ | error
  · rfl
  · simp [Converters.silent]

/-- Without context the only field is the exception. -/
theorem clash?_fields_nil {names : List String} (h : "exc_info" ∉ names) (plan : Plan)
    (arguments : List Value) : Logger.clash? names (plan.fields arguments []) = none := by
  rw [clash?_fields plan arguments h, Logger.clash?_eq_none_iff]
  exact fun e he => absurd he List.not_mem_nil

end Plan

namespace LogPoint

/-- **A call without context** is handed to the sink, if the converters succeed. The journal at that
moment is the one before, but for the question whether the level is taken. -/
theorem logCall_silent {naming : Naming} {point : LogPoint} {registry : Converters} {sink : Sink}
    {arguments : List Value} {j : Journal} (hregistry : point.registryAt j = registry)
    (hproviders : point.providersAt j = [])
    (hsink : sink.takes point.plan.level.number = true)
    (hconverted : ∀ v ∈ arguments, ∃ w, registry.converted naming v = .ok w)
    (hshows : point.plan.Shows (registry.silent naming) arguments) :
    point.logCall naming sink arguments j =
      sink.emit naming point.plan.level.method
        (point.callEvent (point.plan.values (registry.silent naming) arguments))
        (point.plan.values (registry.silent naming) arguments)
        (point.plan.fields arguments []) (sink.asked point.plan.level.number j) := by
  have hlook : ∀ v ∈ arguments, point.shownAt naming j v = registry.silent naming v := by
    intro v hv
    obtain ⟨w, hw⟩ := hconverted v hv
    rw [shownAt, hregistry, Converters.shown_of_converted hw, Converters.silent, hw]
  have hgathered : point.gathered naming j = ⟨.ok [], [], j.counters⟩ := by
    rw [gathered, hproviders]
    rfl
  have hready : point.ready naming sink [] j = sink.asked point.plan.level.number j := by
    rw [ready, hgathered, Journal.logged_nil]
    rcases sink with l | ⟨methods, _ | threshold⟩ <;> rfl
  have hnames := Plan.clash?_fields_nil (by decide : "exc_info" ∉ ["self", "logger", "event"])
    point.plan arguments
  rw [logCall_run hsink (hshows.congr fun v hv => (hlook v hv).symm) (by rw [hgathered]),
    Plan.values_congr hlook, Plan.reports_congr hlook, hgathered, Plan.reports_silent, hready,
    emit_of_none hnames]

/-- A recorder notes a call without context. -/
theorem logCall_silent_recorder {naming : Naming} {point : LogPoint} {registry : Converters}
    {methods : List String} {threshold : Option Int} {arguments : List Value} {j : Journal}
    (hregistry : point.registryAt j = registry) (hproviders : point.providersAt j = [])
    (hsink : (Sink.recorder methods threshold).takes point.plan.level.number = true)
    (hmethod : point.plan.level.method ∈ methods)
    (hconverted : ∀ v ∈ arguments, ∃ w, registry.converted naming v = .ok w)
    (hshows : point.plan.Shows (registry.silent naming) arguments) :
    point.logCall naming (.recorder methods threshold) arguments j =
      (.ok (), ((Sink.recorder methods threshold).asked point.plan.level.number j).noted
        (.emit point.plan.level.method
          (point.callEvent (point.plan.values (registry.silent naming) arguments))
          (point.plan.values (registry.silent naming) arguments)
          (point.plan.fields arguments []))) := by
  rw [logCall_silent hregistry hproviders hsink hconverted hshows,
    Sink.emit_recorder hmethod (Plan.clash?_fields_nil (by decide) _ _)]

end LogPoint

/-! ## Events

An event is a text with conversions, and its values are filled in where it is written. That it is
the message of the plan, translated, is used here; from then on it is told by the message. -/

namespace LogPoint

variable {naming : Naming} {point : LogPoint} {values : List Value}

/-- **The event of a call record**, with as many values as its message has slots. Without values the
message itself is the event, and that is the same, since it has no slots then. -/
theorem eventText_callEvent
    (h : values.length = Format.slotCount point.plan.message.toList) :
    Logger.eventText naming (point.callEvent values) values =
      (fun texts => String.ofList (Format.substitute point.plan.message.toList texts)) <$>
        values.mapM (Value.text naming) := by
  rcases values with _ | ⟨v, vs⟩
  · rw [callEvent, Logger.eventText, List.mapM_nil, map_pure, Format.substitute_nil,
      String.ofList_toList]
    rfl
  · simp only [callEvent, Logger.eventText, List.isEmpty_cons, Bool.false_eq_true, if_false,
      String.toList_ofList, Format.fill_ofMessage naming h]
    rcases (v :: vs).mapM (Value.text naming) with f | texts <;> rfl

/-- The event of a call record whose message is a template without its bodies. -/
theorem eventText_of_bare {layout : Layout} (hmessage : point.plan.message.toList = layout.bare)
    (h : values.length = layout.bodies.length) :
    Logger.eventText naming (point.callEvent values) values =
      (fun texts => String.ofList (layout.fill texts)) <$> values.mapM (Value.text naming) := by
  rw [eventText_callEvent (by rw [hmessage, Format.slotCount_bare, h]), hmessage]
  rcases htexts : values.mapM (Value.text naming) with f | texts
  · rfl
  · have hlen : texts.length = layout.bodies.length := by
      rw [Format.length_texts naming htexts, h]
    change Except.ok _ = Except.ok _
    simp only [Format.substitute_bare layout hlen]

/-- With fewer values than slots, but some, there is no event. Without any the slots are left as
they are. -/
theorem eventText_callEvent_few (hne : values ≠ [])
    (h : values.length < Format.slotCount point.plan.message.toList) :
    Logger.eventText naming (point.callEvent values) values =
      values.mapM (Value.text naming) >>= fun _ => .error .tooFewOperands := by
  rcases values with _ | ⟨v, vs⟩
  · exact absurd rfl hne
  · simp only [callEvent, Logger.eventText, List.isEmpty_cons, Bool.false_eq_true, if_false,
      String.toList_ofList, Format.fill_ofMessage_few naming h]
    rcases (v :: vs).mapM (Value.text naming) with f | texts <;> rfl

end LogPoint

end CallLog
