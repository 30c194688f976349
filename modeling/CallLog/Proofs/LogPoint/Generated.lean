import CallLog.Proofs.Format.Generated
import CallLog.Proofs.LogPoint.Arguments
import Mathlib.Data.List.Forall2

/-!
# Call records with a generated message

Without a message of its own a callable gets one: the words of its name, and a slot for every
parameter that is listed, that is, neither excluded nor the trailing one that takes an exception.

The main statement is `logCall_generated`. Where the name holds no slot, the event is the words of
the name and the values. Where it holds one, the message has too many slots, and a call with values
cannot be written.
-/

namespace CallLog

/-! ## Listed parameters -/

namespace Parameter

/-- The parameters without the trailing one that takes an exception, if there is one. -/
def ordinary (parameters : List Parameter) : List Parameter :=
  match parameters.getLast? with
  | some p => if p.hint.isExceptionType then parameters.dropLast else parameters
  | none => parameters

/-- The parameters that a generated message shows. -/
def listed (parameters : List Parameter) : List Parameter :=
  (ordinary parameters).filter fun p => !p.dontLog

theorem errorIndex_concat (front : List Parameter) (p : Parameter) :
    errorIndex (front ++ [p]) = if p.hint.isExceptionType then some front.length else none := by
  simp [errorIndex]

theorem ordinary_concat (front : List Parameter) (p : Parameter) :
    ordinary (front ++ [p]) = if p.hint.isExceptionType then front else front ++ [p] := by
  simp [ordinary]

/-- Only the last parameter has the last number. -/
theorem Numbered.isLiveFor {front : List Parameter} {p : Parameter}
    (h : Numbered (front ++ [p])) :
    (∀ q ∈ front, (Rule.ofParameter q).isLiveFor front.length = false) ∧
      (Rule.ofParameter p).isLiveFor front.length = true := by
  constructor
  · intro q hq
    obtain ⟨k, hk, rfl⟩ := List.mem_iff_getElem.mp hq
    have hindex := h k front[k] (by rw [List.getElem?_append_left hk, List.getElem?_eq_getElem hk])
    simp only [Rule.ofParameter, Rule.isLiveFor, hindex, decide_eq_false_iff_not]
    omega
  · have hindex := h front.length p (by simp)
    simp [Rule.ofParameter, Rule.isLiveFor, hindex]

end Parameter

namespace Metadata

/-- The rules of a generated message: those of the listed parameters, and at most one more at the
end. That one is for the error parameter, if there is one. An error parameter that is excluded has
no rule, and is not one for the plan. -/
theorem autoRules_cases {metadata : Metadata}
    (hnumbered : Parameter.Numbered metadata.parameters) :
    (metadata.errorParameter (Rule.autoRules metadata.parameters) = none ∧
      Rule.autoRules metadata.parameters =
        (Parameter.listed metadata.parameters).map .ofParameter ∧
      ∀ i : Nat, Parameter.errorIndex metadata.parameters = some i →
        (Rule.autoRules metadata.parameters).any (Rule.isLiveFor i) = false) ∨
    ∃ (i : Nat) (e : ErrorParameter) (p : Parameter),
      Parameter.errorIndex metadata.parameters = some i ∧
      metadata.errorParameter (Rule.autoRules metadata.parameters) = some e ∧
      Rule.autoRules metadata.parameters =
        (Parameter.listed metadata.parameters).map .ofParameter ++ [.ofParameter p] ∧
      (Rule.ofParameter p).isLiveFor i = true ∧
      ∀ q ∈ Parameter.listed metadata.parameters, (Rule.ofParameter q).isLiveFor i = false := by
  obtain ⟨name, parameters, scopes, config, returns⟩ := metadata
  rcases List.eq_nil_or_concat parameters with rfl | ⟨front, p, rfl⟩
  · exact .inl ⟨rfl, rfl, by simp [Parameter.errorIndex]⟩
  · rw [List.concat_eq_append] at hnumbered ⊢
    obtain ⟨hfront, hlast⟩ := hnumbered.isLiveFor
    simp only [errorParameter, Parameter.errorIndex_concat, Parameter.listed,
      Parameter.ordinary_concat, Rule.autoRules]
    -- the last rule is one more only if its parameter takes an exception and is not excluded
    rcases hhint : p.hint.isExceptionType with _ | _
    · exact .inl ⟨by simp, by simp, by simp⟩
    · rcases hlog : p.dontLog with _ | _
      · refine .inr ⟨front.length, _, p, by simp, by simp [hlog]; rfl, by simp [hlog], hlast, ?_⟩
        intro q hq
        exact hfront q (List.mem_filter.mp hq).1
      · refine .inl ⟨by simp [hlog], by simp [hlog], ?_⟩
        intro i hi
        obtain rfl : front.length = i := by simpa using hi
        rw [List.any_eq_false]
        intro rule hrule
        simp only [List.filter_append, List.map_append, List.mem_append, List.mem_map,
          List.mem_filter] at hrule
        rcases hrule with ⟨q, hq, rfl⟩ | ⟨q, hq, rfl⟩
        · rw [hfront q hq.1]
          decide
        · obtain rfl := List.mem_singleton.mp hq.1
          simp [hlog] at hq

theorem withoutError_autoRules {metadata : Metadata}
    (hnumbered : Parameter.Numbered metadata.parameters) :
    metadata.withoutError (Rule.autoRules metadata.parameters) =
      (Parameter.listed metadata.parameters).map .ofParameter := by
  rcases autoRules_cases hnumbered with ⟨hnone, hrules, -⟩ | ⟨i, e, p, hi, he, hrules, hp, hlisted⟩
  · rw [withoutError_of_none hnone, hrules]
  · have hkeep : ((Parameter.listed metadata.parameters).map Rule.ofParameter).filter
        (fun rule => !rule.isLiveFor i) =
        (Parameter.listed metadata.parameters).map Rule.ofParameter := by
      rw [List.filter_eq_self]
      intro rule hrule
      obtain ⟨q, hq, rfl⟩ := List.mem_map.mp hrule
      rw [hlisted q hq]
      rfl
    rw [withoutError_of_some he hi, hrules, List.filter_append, hkeep]
    simp [hp]

/-- The plan of a callable without a message of its own. Its message has a slot for each parameter
that is listed, after the words of the name as they are. -/
theorem plan_of_generated {metadata : Metadata} (hmessage : metadata.config.message = "")
    (hnumbered : Parameter.Numbered metadata.parameters) :
    metadata.plan = .ok (metadata.planOf (Rule.autoRules metadata.parameters)
      (String.ofList (Template.spacedName metadata.name.toList ++
        Rule.slots (Parameter.listed metadata.parameters).length))) := by
  apply plan_of_resolve
  rw [Rule.resolve, if_pos hmessage]
  rcases autoRules_cases hnumbered with ⟨-, hrules, hany⟩ | ⟨i, e, p, hi, -, hrules, hp, -⟩
  · rcases hi : Parameter.errorIndex metadata.parameters with _ | i
    · simp [hrules]
    · have hnot := hany i hi
      simp only [Option.map_some]
      rw [if_neg (by simpa using hnot), hrules, List.length_map]
  · have hany : (Rule.autoRules metadata.parameters).any (Rule.isLiveFor i) = true := by
      rw [hrules]
      simp [hp]
    simp only [hi, Option.map_some]
    rw [if_pos (by simpa using hany), hrules]
    simp

end Metadata

/-! ## Calls

A call is logged with a message that was generated from the name and the parameters. The name is put
into it as it is, and so what looks like a slot in it is filled like one. -/

namespace LogPoint

/-- How a call with some arguments is logged with a generated message. -/
structure GeneratedCall (naming : Naming) (registry : Converters) (metadata : Metadata)
    (arguments : List Value) (plan : Plan) (values : List Value) (event : String) : Prop where
  /-- the rules of the plan are those of the listed parameters, in order -/
  parameters : plan.parameters = (Parameter.listed metadata.parameters).map .ofParameter
  /-- the slots of the message: one for each of them, and those that the name holds -/
  count : Format.slotCount plan.message.toList =
    Format.slotCount metadata.name.toList + plan.parameters.length
  /-- the values are the arguments for the listed parameters, converted -/
  shown : List.Forall₂ (fun p w => ∃ i v, p.index = Int.ofNat i ∧ arguments[i]? = some v ∧
    registry.converted naming v = .ok w) (Parameter.listed metadata.parameters) values
  /-- the event, filled in by the logger, is the words of the name and the values -/
  event_text : Format.slotCount metadata.name.toList = 0 ∨ values = [] →
    Logger.eventText naming event values =
      (fun texts => String.ofList (Template.spacedName metadata.name.toList ++
        texts.flatMap (' ' :: ·))) <$> values.mapM (Value.text naming)
  /-- unless the name holds a slot: then there are too few values -/
  event_fails : Format.slotCount metadata.name.toList ≠ 0 → values ≠ [] →
    Logger.eventText naming event values =
      values.mapM (Value.text naming) >>= fun _ => .error .tooFewOperands
  /-- all that is done is to hand the event to the sink, through the method of the level -/
  run : ∀ (point : LogPoint) (sink : Sink) (j : Journal), point.plan = plan →
    point.registryAt j = registry → point.providersAt j = [] →
    sink.takes plan.level.number = true →
    point.logCall naming sink arguments j =
      sink.emit naming plan.level.method event values (plan.fields arguments [])
        (sink.asked plan.level.number j)
  /-- a logger writes a record of the event -/
  written : ∀ (point : LogPoint) (l : Logger) (j : Journal) (texts : List (List Char)),
    point.plan = plan → point.registryAt j = registry → point.providersAt j = [] →
    l.threshold ≤ plan.level.number → values.mapM (Value.text naming) = .ok texts →
    Format.slotCount metadata.name.toList = 0 ∨ values = [] →
    point.logCall naming (.logger l) arguments j =
      match Logger.record naming l (Logger.shownLevel plan.level)
        (String.ofList (Template.spacedName metadata.name.toList ++ texts.flatMap (' ' :: ·)))
        j.bound (plan.fields arguments []) with
      | .ok r => (.ok (), j.logged [r])
      | .error f => (.error (.fault f), j)
  /-- and raises, where the event cannot be filled in -/
  raises : ∀ (point : LogPoint) (l : Logger) (j : Journal) (texts : List (List Char)),
    point.plan = plan → point.registryAt j = registry → point.providersAt j = [] →
    l.threshold ≤ plan.level.number → values.mapM (Value.text naming) = .ok texts →
    Format.slotCount metadata.name.toList ≠ 0 → values ≠ [] →
    point.logCall naming (.logger l) arguments j = (.error (.fault .tooFewOperands), j)

section Event

variable (naming : Naming) (point : LogPoint) {values : List Value} {name : List Char}

/-- The event of a generated message: without values it is the message, and with values the slots
are the last ones, if the name holds none. -/
theorem eventText_of_generated
    (hmessage : point.plan.message.toList = Template.spacedName name ++ Rule.slots values.length)
    (h : Format.slotCount name = 0 ∨ values = []) :
    Logger.eventText naming (point.callEvent values) values =
      (fun texts => String.ofList (Template.spacedName name ++ texts.flatMap (' ' :: ·))) <$>
        values.mapM (Value.text naming) := by
  rcases h with hname | rfl
  · have hcount : values.length = Format.slotCount point.plan.message.toList := by
      rw [hmessage, Format.slotCount_generated, hname, Nat.zero_add]
    rw [eventText_callEvent hcount, hmessage]
    rcases htexts : values.mapM (Value.text naming) with f | texts
    · rfl
    · change Except.ok _ = Except.ok _
      simp only [Format.substitute_generated hname (Format.length_texts naming htexts)]
  · have hwords : point.plan.message = String.ofList (Template.spacedName name) := by
      rw [← String.ofList_toList (s := point.plan.message), hmessage]
      simp [Rule.slots]
    rw [callEvent, Logger.eventText, List.mapM_nil, map_pure, List.flatMap_nil, List.append_nil,
      hwords]
    rfl

/-- With a slot in the name there are too few values. A name can hold one where a callable was given
a name that is no identifier. -/
theorem eventText_of_generated_few
    (hmessage : point.plan.message.toList = Template.spacedName name ++ Rule.slots values.length)
    (hname : Format.slotCount name ≠ 0) (hne : values ≠ []) :
    Logger.eventText naming (point.callEvent values) values =
      values.mapM (Value.text naming) >>= fun _ => .error .tooFewOperands := by
  refine eventText_callEvent_few hne ?_
  rw [hmessage, Format.slotCount_generated]
  omega

end Event

/-- What a rule for a listed parameter shows. -/
theorem shown_ofParameter {naming : Naming} {registry : Converters} {parameters : List Parameter}
    {arguments : List Value} (hnumbered : Parameter.Numbered parameters)
    (hlen : arguments.length = parameters.length)
    (hconverted : ∀ v ∈ arguments, ∃ w, registry.converted naming v = .ok w) {p : Parameter}
    (hp : p ∈ parameters) :
    ∃ w, ((Rule.ofParameter p).shown (registry.silent naming) arguments).outcome = .ok w ∧
      ∃ i v, p.index = Int.ofNat i ∧ arguments[i]? = some v ∧
        registry.converted naming v = .ok w := by
  obtain ⟨i, hi, rfl⟩ := List.mem_iff_getElem.mp hp
  have hindex := hnumbered i parameters[i] (List.getElem?_eq_getElem hi)
  have hv : arguments[i]? = some arguments[i] := List.getElem?_eq_getElem (hlen ▸ hi)
  obtain ⟨w, hw⟩ := hconverted arguments[i] (List.getElem_mem _)
  refine ⟨w, ?_, i, arguments[i], hindex, hv, hw⟩
  rw [Rule.ofParameter, hindex, Rule.shown_live hv]
  exact hw

theorem mem_of_mem_listed {parameters : List Parameter} {p : Parameter}
    (h : p ∈ Parameter.listed parameters) : p ∈ parameters := by
  have hordinary := (List.mem_filter.mp h).1
  unfold Parameter.ordinary at hordinary
  split at hordinary
  · split at hordinary
    · exact List.dropLast_subset _ hordinary
    · exact hordinary
  · exact hordinary

/-- The plan of a callable without a message, and the values of its calls: one for each listed
parameter, in order, each shown by its converter. -/
theorem exists_generated_plan {metadata : Metadata} {arguments : List Value} {naming : Naming}
    {registry : Converters} (hmessage : metadata.config.message = "")
    (hnumbered : Parameter.Numbered metadata.parameters)
    (hlen : arguments.length = metadata.parameters.length)
    (hconverted : ∀ v ∈ arguments, ∃ w, registry.converted naming v = .ok w) :
    ∃ plan values, metadata.plan = .ok plan ∧
      plan.parameters = (Parameter.listed metadata.parameters).map .ofParameter ∧
      plan.message.toList = Template.spacedName metadata.name.toList ++ Rule.slots values.length ∧
      plan.Shows (registry.silent naming) arguments ∧
      values = plan.values (registry.silent naming) arguments ∧
      List.Forall₂ (fun p w => ∃ i v, p.index = Int.ofNat i ∧ arguments[i]? = some v ∧
        registry.converted naming v = .ok w) (Parameter.listed metadata.parameters) values := by
  have hvalue (p : Parameter) (hp : p ∈ metadata.parameters) :=
    shown_ofParameter hnumbered hlen hconverted hp
  have hvalues := Metadata.values_planOf_generated hmessage hnumbered hlen
    (registry.silent naming) (Rule.autoRules metadata.parameters)
    (String.ofList (Template.spacedName metadata.name.toList ++
      Rule.slots (Parameter.listed metadata.parameters).length))
  rw [Metadata.withoutError_autoRules hnumbered, List.map_map] at hvalues
  refine ⟨_, _, Metadata.plan_of_generated hmessage hnumbered,
    Metadata.withoutError_autoRules hnumbered, ?_, ?_, rfl, ?_⟩
  · rw [hvalues, List.length_map]
    exact String.toList_ofList
  · refine Metadata.shows_planOf hnumbered hlen ?_ ?_ _
    · intro v hv
      obtain ⟨w, hw⟩ := hconverted v hv
      exact Shown.isValue_of_ok hw
    · intro rule hrule
      obtain ⟨p, hp, rfl⟩ := List.mem_map.mp hrule
      obtain ⟨w, hw, -⟩ := hvalue p (List.mem_filter.mp hp).1
      exact Shown.isValue_of_ok hw
  · rw [hvalues, List.forall₂_map_right_iff, List.forall₂_same]
    intro p hp
    obtain ⟨w, hw, i, v, hi, hv, hconv⟩ := hvalue p (mem_of_mem_listed hp)
    refine ⟨i, v, hi, hv, ?_⟩
    rw [Function.comp_apply, Shown.value, hw]
    exact hconv

/-- **Calls without a message are logged by name and values**, unless the name holds a slot.
With one, a call that has no values is still logged, with the slot as it is; any other cannot be
written. -/
theorem logCall_generated {metadata : Metadata} {arguments : List Value} {naming : Naming}
    {registry : Converters} (hmessage : metadata.config.message = "")
    (hnumbered : Parameter.Numbered metadata.parameters)
    (hlen : arguments.length = metadata.parameters.length)
    (hconverted : ∀ v ∈ arguments, ∃ w, registry.converted naming v = .ok w) :
    ∃ plan values event, metadata.plan = .ok plan ∧
      GeneratedCall naming registry metadata arguments plan values event := by
  obtain ⟨plan, values, hplan, hparameters, htext, hshows, hvalues, hshown⟩ :=
    exists_generated_plan hmessage hnumbered hlen hconverted
  have hrun (point : LogPoint) (sink : Sink) (j : Journal) (hpoint : point.plan = plan)
      (hregistry : point.registryAt j = registry) (hproviders : point.providersAt j = [])
      (hsink : sink.takes plan.level.number = true) :
      point.logCall naming sink arguments j =
        sink.emit naming plan.level.method ((LogPoint.mk plan none none).callEvent values) values
          (plan.fields arguments []) (sink.asked plan.level.number j) := by
    subst hpoint
    rw [hvalues]
    exact logCall_silent hregistry hproviders hsink hconverted hshows
  have hfull (h) := eventText_of_generated naming (LogPoint.mk plan none none) htext h
  have hfew (hname) (hne) :=
    eventText_of_generated_few naming (LogPoint.mk plan none none) htext hname hne
  refine ⟨plan, values, (LogPoint.mk plan none none).callEvent values, hplan,
    hparameters, ?_, hshown, hfull, hfew, hrun, ?_, ?_⟩
  · rw [htext, Format.slotCount_generated, hparameters, List.length_map, hshown.length_eq]
  · intro point l j texts hpoint hregistry hproviders hlevel htexts hname
    have hevent := hfull hname
    rw [htexts] at hevent
    rw [hrun point (.logger l) j hpoint hregistry hproviders (decide_eq_true hlevel),
      Sink.emit_logger (decide_eq_true hlevel) (Plan.clash?_fields_nil (by decide) _ _),
      Logger.written_of_text hevent (Plan.clash?_fields_nil (by decide) _ _)]
    rfl
  · intro point l j texts hpoint hregistry hproviders hlevel htexts hname hne
    have hevent := hfew hname hne
    rw [htexts] at hevent
    rw [hrun point (.logger l) j hpoint hregistry hproviders (decide_eq_true hlevel),
      Sink.emit_logger (decide_eq_true hlevel) (Plan.clash?_fields_nil (by decide) _ _),
      Logger.written_of_error hevent]
    rfl

/-- A function whose name holds a slot, with a listed parameter among others. -/
def slotted : Metadata where
  name := "say\x7b\x7d"
  parameters := [⟨0, "secret", .any, true⟩, ⟨1, "x", .any, false⟩,
    ⟨2, "e", .ofKnown .exception, false⟩]

theorem logCall_generated_slotted :
    ∃ plan values event, slotted.plan = .ok plan ∧
      GeneratedCall .empty .standard slotted [.int 1, .str "x", .none] plan values event := by
  refine logCall_generated rfl ?_ rfl ?_
  · rintro (_ | _ | _ | i) p hp
    · cases hp
      rfl
    · cases hp
      rfl
    · cases hp
      rfl
    · cases hp
  · intro v hv
    rcases List.mem_cons.mp hv with rfl | hv
    · exact ⟨_, rfl⟩
    · rcases List.mem_cons.mp hv with rfl | hv
      · exact ⟨_, rfl⟩
      · obtain rfl := List.mem_singleton.mp hv
        exact ⟨_, rfl⟩

/-- The message has two slots for one value, so that the call cannot be written. -/
theorem slotted_raises :
    ∃ plan, slotted.plan = .ok plan ∧
      Format.slotCount plan.message.toList = 2 ∧ plan.parameters.length = 1 ∧
      (LogPoint.mk plan (some .standard) (some [])).logCall .empty (.logger ⟨"m", 0⟩)
        [.int 1, .str "x", .none] {} = (.error (.fault .tooFewOperands), {}) :=
  ⟨_, rfl, rfl, rfl, rfl⟩

end LogPoint

end CallLog
