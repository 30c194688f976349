import CallLog.Proofs.LogPoint.Generated
import CallLog.Proofs.LogPoint.Written
import CallLog.Proofs.Plan.Visible
import CallLog.Proofs.Records

/-!
# Values that can be written

A message can only be written with values that have a text. `Converters.Writes` says for which
values that is so, by their converters; one that fails is no reason by itself. `Plan.Looks` says
which arguments a plan shows, and `exists_text_iff` puts the two together: a call can be written
exactly if what its plan looks at can be, and if its message has no slots to spare.
-/

namespace CallLog

/-! ## Values that can be written

A value is shown by its converter, and what comes of that has to have a text. If the converter
fails, two more texts are needed: that of the failure, for the report, and the display of the value.
So there are four cases, by what the converter does. -/

/-- A value is shown, and it has a text. -/
def Shown.HasText (naming : Naming) (s : Shown) : Prop :=
  ∃ w text, s.outcome = .ok w ∧ w.text naming = .ok text

namespace Converters

/-- A value can be written into a message. If its converter fails, its display is written; but then
the failure has to have a text as well. -/
inductive Writes (naming : Naming) (registry : Converters) (v : Value) : Prop where
  | none (h : v.isNone = true)
  | plain {text : List Char} (hfind : registry.find v.line = none)
      (htext : v.text naming = .ok text)
  | converted {converter : Converter} {w : Value} {text : List Char}
      (hfind : registry.find v.line = some converter)
      (hmeaning : registry.meaning naming converter v = .ok w) (htext : w.text naming = .ok text)
  | displayed {converter : Converter} {r : Raised} {message display : List Char}
      (hfind : registry.find v.line = some converter)
      (hmeaning : registry.meaning naming converter v = .error r)
      (hmessage : r.text naming = .ok message) (hdisplay : v.display naming = .ok display)

/-- Converters return or raise what handlers catch. What they do not catch passes through
everything, and is not what is looked at here. -/
def RaisesCaught (naming : Naming) (registry : Converters) : Prop :=
  ∀ v converter r, registry.find v.line = some converter →
    registry.meaning naming converter v = .error r → r.isCaught = true

variable {naming : Naming} {registry : Converters} {bound : List (String × Value)} {v : Value}

theorem exists_report (hbound : ∀ field ∈ bound, Field.IsWritable naming field) {r : Raised}
    {message : List Char} (hmessage : r.text naming = .ok message) :
    ∃ record, report naming bound v r = .ok record := by
  have hfields : ∀ field ∈ failureFields naming v message, Field.IsWritable naming field := by
    simp [failureFields, Field.isWritable_str]
  have hclash : Logger.clash? ["method_name"] (failureFields naming v message) = none := by
    rw [Logger.clash?_eq_none_iff]
    simp [failureFields]
  obtain ⟨record, hrecord⟩ :=
    Logger.exists_reported_handled hbound hfields hclash reporter "warning" "converter_failed" r
  refine ⟨record, ?_⟩
  rw [report, hmessage]
  exact hrecord

/-- What is shown instead of a value whose converter failed is a text, so it has one. It is shown if
the report can be written and the value displayed. -/
theorem hasText_recovered_iff (hbound : ∀ field ∈ bound, Field.IsWritable naming field)
    {r : Raised} : (recovered naming bound v r).HasText naming ↔
      (∃ message, r.text naming = .ok message) ∧ ∃ display, v.display naming = .ok display := by
  constructor
  · rintro ⟨w, text, hw, -⟩
    rw [recovered] at hw
    rcases hreport : report naming bound v r with f | record
    · rw [hreport] at hw
      cases hw
    · rw [hreport] at hw
      obtain ⟨message, hmessage, -⟩ := Action.except_bind_eq_ok hreport
      rcases hdisplay : v.display naming with f | display
      · rw [hdisplay] at hw
        cases hw
      · exact ⟨⟨message, hmessage⟩, display, rfl⟩
  · rintro ⟨⟨message, hmessage⟩, display, hdisplay⟩
    obtain ⟨record, hrecord⟩ := exists_report (v := v) hbound hmessage
    rw [recovered, hrecord, hdisplay]
    exact ⟨_, _, rfl, by rw [Value.text]⟩

/-- What is shown as it is has a text if it has one itself. -/
theorem hasText_value_iff {w : Value} :
    Shown.HasText naming ⟨.ok w, []⟩ ↔ ∃ text, w.text naming = .ok text := by
  constructor
  · rintro ⟨w', text, hw, htext⟩
    obtain rfl := Except.ok.inj hw
    exact ⟨text, htext⟩
  · rintro ⟨text, htext⟩
    exact ⟨w, text, rfl, htext⟩

section

variable {converter : Converter}

/-- A value without a converter can be written if it has a text. -/
theorem writes_of_find_none_iff (hnone : ¬ v.isNone = true) (hfind : registry.find v.line = none) :
    registry.Writes naming v ↔ ∃ text, v.text naming = .ok text := by
  constructor
  · rintro (h | ⟨h, htext⟩ | ⟨h, -, -⟩ | ⟨h, -, -, -⟩)
    · exact absurd h hnone
    · exact ⟨_, htext⟩
    · cases hfind.symm.trans h
    · cases hfind.symm.trans h
  · rintro ⟨text, htext⟩
    exact .plain hfind htext

/-- A value that is converted can be written if what it becomes has a text. -/
theorem writes_of_meaning_ok_iff {w : Value} (hnone : ¬ v.isNone = true)
    (hfind : registry.find v.line = some converter)
    (hmeaning : registry.meaning naming converter v = .ok w) :
    registry.Writes naming v ↔ ∃ text, w.text naming = .ok text := by
  constructor
  · rintro (h | ⟨h, -⟩ | ⟨h, hw, htext⟩ | ⟨h, hr, -, -⟩)
    · exact absurd h hnone
    · cases hfind.symm.trans h
    · obtain rfl := Option.some.inj (hfind.symm.trans h)
      obtain rfl := Except.ok.inj (hmeaning.symm.trans hw)
      exact ⟨_, htext⟩
    · obtain rfl := Option.some.inj (hfind.symm.trans h)
      cases hmeaning.symm.trans hr
  · rintro ⟨text, htext⟩
    exact .converted hfind hmeaning htext

/-- A value whose converter fails can be written if the failure has a text and the value a
display. -/
theorem writes_of_meaning_error_iff {r : Raised} (hnone : ¬ v.isNone = true)
    (hfind : registry.find v.line = some converter)
    (hmeaning : registry.meaning naming converter v = .error r) :
    registry.Writes naming v ↔
      (∃ message, r.text naming = .ok message) ∧ ∃ display, v.display naming = .ok display := by
  constructor
  · rintro (h | ⟨h, -⟩ | ⟨h, hw, -⟩ | ⟨h, hr, hmessage, hdisplay⟩)
    · exact absurd h hnone
    · cases hfind.symm.trans h
    · obtain rfl := Option.some.inj (hfind.symm.trans h)
      cases hmeaning.symm.trans hw
    · obtain rfl := Option.some.inj (hfind.symm.trans h)
      obtain rfl := Except.error.inj (hmeaning.symm.trans hr)
      exact ⟨⟨_, hmessage⟩, _, hdisplay⟩
  · rintro ⟨⟨message, hmessage⟩, display, hdisplay⟩
    exact .displayed hfind hmeaning hmessage hdisplay

end

/-- **A value is shown with a text** exactly if it can be written. What is bound around has to be
writable, since a report may be needed. -/
theorem hasText_shown_iff (hbound : ∀ field ∈ bound, Field.IsWritable naming field)
    (hcaught : registry.RaisesCaught naming) :
    (registry.shown naming bound v).HasText naming ↔ registry.Writes naming v := by
  by_cases hnone : v.isNone = true
  · refine ⟨fun _ => .none hnone, fun _ => ?_⟩
    rw [shown, if_pos hnone]
    exact ⟨_, _, rfl, rfl⟩
  rcases hfind : registry.find v.line with _ | converter
  · have hshown : registry.shown naming bound v = ⟨.ok v, []⟩ := by
      rw [shown, if_neg hnone, hfind]
    rw [hshown, hasText_value_iff, writes_of_find_none_iff hnone hfind]
  rcases hmeaning : registry.meaning naming converter v with r | w
  · have hr := hcaught v converter r hfind hmeaning
    have hshown : registry.shown naming bound v = recovered naming bound v r := by
      simp only [shown, if_neg hnone, hfind, hmeaning, if_pos hr]
    rw [hshown, hasText_recovered_iff hbound, writes_of_meaning_error_iff hnone hfind hmeaning]
  · have hshown : registry.shown naming bound v = ⟨.ok w, []⟩ := by
      simp only [shown, if_neg hnone, hfind, hmeaning]
    rw [hshown, hasText_value_iff, writes_of_meaning_ok_iff hnone hfind hmeaning]

theorem fault_of_outcome {α : Type} {x : Except Fault α} {r : Raised}
    (h : Action.outcome x = .error r) : ∃ f, r = .fault f := by
  rcases x with f | a
  · exact ⟨f, (Except.error.inj h).symm⟩
  · cases h

/-- Where converters raise what handlers catch, showing a value raises nothing but faults. -/
theorem fault_of_shown (hcaught : registry.RaisesCaught naming) {r : Raised}
    (h : (registry.shown naming bound v).outcome = .error r) : ∃ f, r = .fault f := by
  rw [shown] at h
  by_cases hnone : v.isNone = true
  · rw [if_pos hnone] at h
    cases h
  rw [if_neg hnone] at h
  rcases hfind : registry.find v.line with _ | converter
  · rw [hfind] at h
    cases h
  rcases hmeaning : registry.meaning naming converter v with r' | w
  · simp only [hfind, hmeaning, if_pos (hcaught v converter r' hfind hmeaning), recovered] at h
    rcases hreport : report naming bound v r' with f | record
    · rw [hreport] at h
      exact ⟨f, (Except.error.inj h).symm⟩
    · rw [hreport] at h
      exact fault_of_outcome h
  · simp only [hfind, hmeaning] at h
    cases h

end Converters

/-! ## The values of a plan

A plan looks at some of the arguments: those that its rules show, and the exception if it has a
slot. All that a record shows is a fixed text or one of these. -/

namespace LogPoint

theorem mem_insertAll {α : Type} {x y : α} {positions : List Int} {xs : List α} :
    y ∈ insertAll x positions xs ↔ (positions ≠ [] ∧ y = x) ∨ y ∈ xs := by
  have hinsert (ys : List α) (i : Int) : y ∈ insertAt ys i x ↔ y = x ∨ y ∈ ys := by
    simp only [insertAt, List.mem_append, List.mem_cons]
    conv_rhs => rw [← List.take_append_drop (cut ys.length i) ys, List.mem_append]
    exact or_left_comm
  induction positions generalizing xs with
  | nil => simp [insertAll]
  | cons i positions ih =>
    rw [insertAll, List.foldl_cons]
    refine ih.trans ?_
    rw [hinsert]
    simp only [ne_eq, List.cons_ne_nil, not_false_eq_true, true_and]
    constructor
    · rintro (⟨-, h⟩ | h | h)
      · exact .inl h
      · exact .inl h
      · exact .inr h
    · exact .inr

end LogPoint

namespace Plan

variable {plan : Plan} {look : Value → Shown} {arguments : List Value}

/-- A plan looks at an argument: a rule shows it, or it is the exception and has a slot. -/
def Looks (plan : Plan) (arguments : List Value) (v : Value) : Prop :=
  (∃ i name hint, .live i name hint ∈ plan.parameters ∧ LogPoint.item? arguments i = some v) ∨
    ∃ e, plan.errorParameter = some e ∧ e.positions ≠ [] ∧
      LogPoint.item? arguments e.index = some v

/-- There is an argument wherever a plan looks for one. -/
structure InRange (plan : Plan) (arguments : List Value) : Prop where
  rules : ∀ i name hint, .live i name hint ∈ plan.parameters →
    ∃ v, LogPoint.item? arguments i = some v
  error : ∀ e, plan.errorParameter = some e → ∃ v, LogPoint.item? arguments e.index = some v

/-- The values of a record are those of the rules, and the exception if it has a slot. In which
order they come does not matter for whether they have texts. -/
theorem mem_values_iff {w : Value} :
    w ∈ plan.values look arguments ↔
      (∃ error, plan.error? arguments = some error ∧ plan.positions ≠ [] ∧
        w = (look error).value) ∨
      ∃ rule ∈ plan.parameters, w = (rule.shown look arguments).value := by
  have hrules : w ∈ plan.parameters.map (fun rule => (rule.shown look arguments).value) ↔
      ∃ rule ∈ plan.parameters, w = (rule.shown look arguments).value := by
    simp only [List.mem_map, eq_comm]
  rw [values, completed, ← hrules]
  rcases plan.error? arguments with _ | error
  · simp
  · dsimp only
    rw [LogPoint.mem_insertAll]
    simp

/-- What is shown for an argument that the plan looks at is a value of the record. -/
theorem Looks.mem_values {v : Value} (h : plan.Looks arguments v) :
    (look v).value ∈ plan.values look arguments := by
  rw [mem_values_iff]
  rcases h with ⟨i, name, hint, hrule, hitem⟩ | ⟨e, he, hpositions, hitem⟩
  · exact .inr ⟨_, hrule, by rw [Rule.shown, hitem]⟩
  · exact .inl ⟨v, by rw [error?, he]; exact hitem, by rwa [positions, he], rfl⟩

/-- A value of the record is a fixed text, or shown for an argument that the plan looks at. -/
theorem of_mem_values (hrange : plan.InRange arguments) {w : Value}
    (h : w ∈ plan.values look arguments) :
    (∃ text, w = .str text) ∨ ∃ v, plan.Looks arguments v ∧ w = (look v).value := by
  rcases mem_values_iff.mp h with ⟨error, herror, hpositions, rfl⟩ | ⟨rule, hrule, rfl⟩
  · obtain ⟨e, he, hitem⟩ := Option.bind_eq_some_iff.mp herror
    rw [positions, he] at hpositions
    exact .inr ⟨error, .inr ⟨e, he, hpositions, hitem⟩, rfl⟩
  · cases rule with
    | static text => exact .inl ⟨text, rfl⟩
    | live i name hint =>
      obtain ⟨v, hitem⟩ := hrange.rules i name hint hrule
      exact .inr ⟨v, .inl ⟨i, name, hint, hrule, hitem⟩, by rw [Rule.shown, hitem]⟩

/-- A record can be made if all arguments that the plan looks at can be shown. -/
theorem shows_of_looks (hrange : plan.InRange arguments)
    (h : ∀ v, plan.Looks arguments v → (look v).IsValue) : plan.Shows look arguments where
  rules rule hrule := by
    cases rule with
    | static text => rfl
    | live i name hint =>
      obtain ⟨v, hitem⟩ := hrange.rules i name hint hrule
      rw [Rule.shown, hitem]
      exact h v (.inl ⟨i, name, hint, hrule, hitem⟩)
  error e he := by
    obtain ⟨v, hitem⟩ := hrange.error e he
    exact ⟨v, hitem, fun hpositions => h v (.inr ⟨e, he, hpositions, hitem⟩)⟩

/-- The arguments that the plan looks at can be shown if a record can be made. -/
theorem Shows.isValue_of_looks (h : plan.Shows look arguments) {v : Value}
    (hv : plan.Looks arguments v) : (look v).IsValue := by
  rcases hv with ⟨i, name, hint, hrule, hitem⟩ | ⟨e, he, hpositions, hitem⟩
  · have hvalue := h.rules _ hrule
    rw [Rule.shown, hitem] at hvalue
    exact hvalue
  · obtain ⟨error, herror, hvalue⟩ := h.error e he
    obtain rfl := Option.some.inj (hitem.symm.trans herror)
    exact hvalue hpositions

end Plan

/-! ## The text of a call

The event of a call is a message that is filled, so it needs a text for each value and as many
values as slots. Without values the message is left as it is, and then the slots do not matter. -/

theorem Format.exists_texts_iff {naming : Naming} {values : List Value} :
    (∃ texts, values.mapM (Value.text naming) = .ok texts) ↔
      ∀ v ∈ values, ∃ text, v.text naming = .ok text := by
  induction values with
  | nil => exact ⟨fun _ => by simp, fun _ => ⟨[], rfl⟩⟩
  | cons v values ih =>
    rw [List.mapM_cons, List.forall_mem_cons, ← ih]
    constructor
    · rintro ⟨texts, h⟩
      obtain ⟨text, htext, h⟩ := Action.except_bind_eq_ok h
      obtain ⟨rest, hrest, -⟩ := Action.except_bind_eq_ok h
      exact ⟨⟨text, htext⟩, rest, hrest⟩
    · rintro ⟨⟨text, htext⟩, rest, hrest⟩
      rw [htext, hrest]
      exact ⟨_, rfl⟩

namespace LogPoint

variable {naming : Naming} {point : LogPoint} {arguments : List Value}

/-- The event of a call record has a text if its values have, and if the message has a slot for each
of them and no more, unless there are none. -/
theorem exists_eventText_iff {values : List Value}
    (hslots : values.length ≤ Format.slotCount point.plan.message.toList) :
    (∃ text, Logger.eventText naming (point.callEvent values) values = .ok text) ↔
      values = [] ∨ values.length = Format.slotCount point.plan.message.toList ∧
        ∀ v ∈ values, ∃ text, v.text naming = .ok text := by
  by_cases hnil : values = []
  · subst hnil
    exact ⟨fun _ => .inl rfl, fun _ => ⟨_, rfl⟩⟩
  · rw [← Format.exists_texts_iff]
    rcases Nat.lt_or_eq_of_le hslots with hlt | heq
    · -- a slot is left over: even with all texts the event cannot be filled in
      rw [eventText_callEvent_few hnil hlt]
      constructor
      · rintro ⟨text, h⟩
        obtain ⟨texts, -, h⟩ := Action.except_bind_eq_ok h
        cases h
      · rintro (h | ⟨h, -⟩)
        · exact absurd h hnil
        · omega
    · rw [eventText_callEvent heq]
      constructor
      · rintro ⟨text, h⟩
        rcases htexts : values.mapM (Value.text naming) with f | texts
        · rw [htexts] at h
          cases h
        · exact .inr ⟨heq, texts, rfl⟩
      · rintro (h | ⟨-, texts, htexts⟩)
        · exact absurd h hnil
        · rw [htexts]
          exact ⟨_, rfl⟩

/-- **The text of a call**: there is one if the values that the plan looks at can be shown with a
text, and if the message has no slots to spare, unless there are no values. The left side is what an
operation needs, and the right side is told by arguments. -/
theorem exists_text_iff {look : Value → Shown} (hrange : point.plan.InRange arguments)
    (hslots : (point.plan.values look arguments).length ≤
      Format.slotCount point.plan.message.toList) :
    (point.plan.Shows look arguments ∧ ∃ text, Logger.eventText naming
        (point.callEvent (point.plan.values look arguments))
        (point.plan.values look arguments) = .ok text) ↔
      (∀ v, point.plan.Looks arguments v → (look v).HasText naming) ∧
        (point.plan.values look arguments = [] ∨
          (point.plan.values look arguments).length =
            Format.slotCount point.plan.message.toList) := by
  rw [exists_eventText_iff hslots]
  constructor
  · rintro ⟨hshows, htexts⟩
    refine ⟨fun v hv => ?_, htexts.imp_right And.left⟩
    have hmem : (look v).value ∈ point.plan.values look arguments := hv.mem_values
    rcases htexts with hnil | ⟨-, htexts⟩
    · rw [hnil] at hmem
      cases hmem
    · obtain ⟨text, htext⟩ := htexts _ hmem
      exact ⟨_, text, hshows.isValue_of_looks hv, htext⟩
  · rintro ⟨hlook, hcount⟩
    have hvalue {v : Value} (hv : point.plan.Looks arguments v) :
        (look v).IsValue ∧ ∃ text, (look v).value.text naming = .ok text := by
      obtain ⟨w, text, hw, htext⟩ := hlook v hv
      have hval : (look v).value = w := by rw [Shown.value, hw]
      exact ⟨Shown.isValue_of_ok hw, text, by rw [hval, htext]⟩
    refine ⟨Plan.shows_of_looks hrange fun v hv => (hvalue hv).1, hcount.imp_right fun h => ⟨h, ?_⟩⟩
    intro w hw
    rcases Plan.of_mem_values hrange hw with ⟨text, rfl⟩ | ⟨v, hv, rfl⟩
    · exact ⟨text.toList, by rw [Value.text]⟩
    · exact (hvalue hv).2

end LogPoint

/-! ## The plans of callables

A plan that was made for a callable finds an argument for each index, if a call has as many as
parameters were described. So the conditions on plans above hold, and the number of slots is known.
-/

namespace Metadata

variable {metadata : Metadata} {arguments : List Value} {plan : Plan}

/-- The slots of a message that are there for no value: those that the name of a callable holds, if
its message is generated. -/
def spareSlots (metadata : Metadata) : Nat :=
  if metadata.config.message = "" then Format.slotCount metadata.name.toList else 0

/-- A plan finds every argument that it looks for. -/
theorem plan_inRange (hplan : metadata.plan = .ok plan)
    (hnumbered : Parameter.Numbered metadata.parameters)
    (hlen : arguments.length = metadata.parameters.length) : plan.InRange arguments where
  rules i name hint hrule := by
    cases pointsIn_of_plan hnumbered hplan _ hrule with
    | @live n p hp _ =>
      have hlt : n < arguments.length := hlen ▸ (List.getElem?_eq_some_iff.mp hp).1
      exact ⟨_, by rw [LogPoint.item?_natCast, List.getElem?_eq_getElem hlt]⟩
  error e he := by
    obtain ⟨n, p, hp, -, hindex, -⟩ := errorParameter_visible hnumbered hplan he
    have hlt : n < arguments.length := hlen ▸ (List.getElem?_eq_some_iff.mp hp).1
    exact ⟨_, by rw [hindex, LogPoint.item?_natCast, List.getElem?_eq_getElem hlt]⟩

/-- **The message of a plan** has a slot for each value of a call, besides those to spare. Only a
generated message can have some, from the name. -/
theorem slotCount_of_plan (hplan : metadata.plan = .ok plan)
    (hnumbered : Parameter.Numbered metadata.parameters)
    (hlen : arguments.length = metadata.parameters.length) (look : Value → Shown) :
    Format.slotCount plan.message.toList =
      (plan.values look arguments).length + metadata.spareSlots := by
  by_cases hmessage : metadata.config.message = ""
  · obtain rfl := Except.ok.inj ((plan_of_generated hmessage hnumbered).symm.trans hplan)
    rw [values_planOf_generated hmessage hnumbered hlen, withoutError_autoRules hnumbered,
      spareSlots, if_pos hmessage, planOf]
    simp only [String.toList_ofList, Format.slotCount_generated, List.length_map]
    omega
  · obtain ⟨layout, rules, -, hexplicit, hcount, -⟩ :=
      exists_planOf_explicit hmessage (isReadable_of_plan hplan hmessage)
    obtain rfl := Except.ok.inj (hexplicit.symm.trans hplan)
    rw [values_planOf hmessage hnumbered hlen, spareSlots, if_neg hmessage, planOf]
    simp only [String.toList_ofList, Format.slotCount_bare, List.length_map]
    omega

end Metadata

end CallLog
