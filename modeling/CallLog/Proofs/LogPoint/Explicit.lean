import CallLog.Proofs.LogPoint.Arguments
import CallLog.Proofs.Rules.Slots

/-!
# Call records with a message of their own

The values of a call record are told here by the message alone. `SlotShows` says what a slot shows:
the argument that its body refers to, converted, or a text that says why there is none. That the
plan takes the slots of the error parameter out, and that the log point puts them back, is not seen.

The main statement is `logCall_explicit`: a log point makes one call of its sink, the values are
what the slots show, and with these in place of the slots the event is the message.
-/

namespace CallLog

namespace Rule

/-- A short body is read. Its numerals cannot have more digits than it has characters. -/
theorem isReadable_of_length {body : List Char} (h : body.length ≤ Text.digitLimit) :
    IsReadable body := by
  intro sign ds hnum
  have hle : ds.length ≤ body.length := by
    cases hnum <;> simp
  exact Nat.le_trans hle h

end Rule

namespace LogPoint

/-- What the slot with a body shows, after the bodies before it. -/
inductive SlotShows (converted : Value → Except Raised Value) (arguments : List Value)
    (before : List (List Char)) (body : List Char) : Value → Prop where
  | argument {i : Nat} {v w : Value} (hi : Rule.Refers before body i)
      (hv : arguments[i]? = some v) (hw : converted v = .ok w) :
      SlotShows converted arguments before body w
  | outside {i : Int} (hi : Rule.Refers before body i) (h : i < 0 ∨ arguments.length ≤ i) :
      SlotShows converted arguments before body (.str (Rule.indexText i))
  | invalid (h : ∀ i, ¬ Rule.Refers before body i) :
      SlotShows converted arguments before body (.str (Rule.expressionText body))

/-- A slot shows one value: it refers to one index at most, and that is in range or it is not. -/
theorem SlotShows.unique {converted : Value → Except Raised Value} {arguments : List Value}
    {before : List (List Char)} {body : List Char} {v w : Value}
    (hv : SlotShows converted arguments before body v)
    (hw : SlotShows converted arguments before body w) : v = w := by
  have hrange {i : Nat} {x : Value} (hx : arguments[i]? = some x) :
      ¬ ((i : Int) < 0 ∨ (arguments.length : Int) ≤ i) := by
    have hlt := (List.getElem?_eq_some_iff.mp hx).1
    omega
  cases hv with
  | argument hi hx hconverted =>
    cases hw with
    | argument hk hy hconverted' =>
      obtain rfl := Int.ofNat.inj (hi.unique hk)
      obtain rfl := Option.some.inj (hx.symm.trans hy)
      exact Except.ok.inj (hconverted.symm.trans hconverted')
    | outside hk hout => exact absurd (hi.unique hk ▸ hout) (hrange hx)
    | invalid hno => exact absurd hi (hno _)
  | outside hi hout =>
    cases hw with
    | argument hk hy _ => exact absurd (hi.unique hk ▸ hout) (hrange hy)
    | outside hk _ => rw [hi.unique hk]
    | invalid hno => exact absurd hi (hno _)
  | invalid hno =>
    cases hw with
    | argument hk _ _ => exact absurd hk (hno _)
    | outside hk _ => exact absurd hk (hno _)
    | invalid _ => rfl

/-- How a call with some arguments is logged with a message of its own. -/
structure ExplicitCall (naming : Naming) (registry : Converters) (message : String)
    (arguments : List Value) (plan : Plan) (layout : Layout) (values : List Value)
    (event : String) : Prop where
  /-- the message is cut at its slots -/
  text : layout.text = message.toList
  /-- there is a value for each slot, and it is what the slot shows -/
  length : values.length = layout.bodies.length
  slots : ∀ k body, layout.bodies[k]? = some body → ∃ v, values[k]? = some v ∧
    SlotShows (registry.converted naming) arguments (layout.bodies.take k) body v
  /-- the event, filled in by the logger, is the message with the values in place of the slots -/
  event_text : Logger.eventText naming event values =
    (fun texts => String.ofList (layout.fill texts)) <$> values.mapM (Value.text naming)
  /-- all that is done is to hand the event to the sink, through the method of the level -/
  run : ∀ (point : LogPoint) (sink : Sink) (j : Journal), point.plan = plan →
    point.registryAt j = registry → point.providersAt j = [] →
    sink.takes plan.level.number = true →
    point.logCall naming sink arguments j =
      sink.emit naming plan.level.method event values (plan.fields arguments [])
        (sink.asked plan.level.number j)
  /-- so that a recorder notes one call -/
  recorded : ∀ (point : LogPoint) (methods : List String) (threshold : Option Int) (j : Journal),
    point.plan = plan → point.registryAt j = registry → point.providersAt j = [] →
    (Sink.recorder methods threshold).takes plan.level.number = true →
    plan.level.method ∈ methods →
    point.logCall naming (.recorder methods threshold) arguments j =
      (.ok (), ((Sink.recorder methods threshold).asked plan.level.number j).noted
        (.emit plan.level.method event values (plan.fields arguments [])))

/-- The rule of a slot shows what the slot shows. The rule was made from the parameters, the slot is
told by the arguments, and there are as many of one as of the other. -/
theorem shown_of_slotRule {naming : Naming} {registry : Converters} {parameters : List Parameter}
    {arguments : List Value} (hnumbered : Parameter.Numbered parameters)
    (hlen : arguments.length = parameters.length)
    (hconverted : ∀ v ∈ arguments, ∃ w, registry.converted naming v = .ok w)
    {before : List (List Char)} {body : List Char} {rule : Rule}
    (h : Rule.SlotRule parameters before body rule) :
    ∃ w, (rule.shown (registry.silent naming) arguments).outcome = .ok w ∧
      SlotShows (registry.converted naming) arguments before body w := by
  cases h with
  | @live i p hi hp =>
    have hlt : i < arguments.length := by
      rw [hlen]
      exact (List.getElem?_eq_some_iff.mp hp).1
    have hv : arguments[i]? = some arguments[i] := List.getElem?_eq_getElem hlt
    obtain ⟨w, hw⟩ := hconverted arguments[i] (List.getElem_mem hlt)
    refine ⟨w, ?_, .argument hi hv hw⟩
    rw [Rule.ofParameter, hnumbered i p hp, Rule.shown_live hv]
    exact hw
  | outside hi hout => exact ⟨_, rfl, .outside hi (by rwa [hlen])⟩
  | invalid hno => exact ⟨_, rfl, .invalid hno⟩

end LogPoint

namespace Metadata

/-- The plan of a callable with a message of its own: its message is the normal form of the
template, and it has a rule for each slot, in order. -/
theorem exists_planOf_explicit {metadata : Metadata} (hmessage : metadata.config.message ≠ "")
    (hreadable : ∀ body ∈ (Template.ofText metadata.config.message.toList).bodies,
      Rule.IsReadable body) :
    ∃ (layout : Layout) (rules : List Rule),
      layout.text = metadata.config.message.toList ∧
      metadata.plan = .ok (metadata.planOf rules (String.ofList layout.bare)) ∧
      rules.length = layout.bodies.length ∧
      ∀ k body, layout.bodies[k]? = some body → ∃ rule, rules[k]? = some rule ∧
        Rule.SlotRule metadata.parameters (layout.bodies.take k) body rule := by
  obtain ⟨layout, hlayout⟩ := Layout.exists_layout metadata.config.message.toList
  rw [← hlayout, Layout.ofText_text, Layout.bodies_template] at hreadable
  obtain ⟨rules, hrules, hcount, hslots⟩ :=
    Rule.exists_explicitRules metadata.parameters [] layout.bodies hreadable
  refine ⟨layout, rules, hlayout, ?_, hcount, hslots⟩
  apply plan_of_resolve
  rw [List.count_nil] at hrules
  simp only [Rule.resolve, if_neg hmessage, ← hlayout, Layout.ofText_text, Layout.bodies_template,
    Layout.toText_strip_template, hrules]
  rfl

end Metadata

namespace LogPoint

/-- **Calls are logged as their message says.** The layout is the only one of the message, so "what
its slots show" leaves nothing open. That the converters of all arguments succeed is supposed; where
one fails something else is shown, and there are reports. -/
theorem logCall_explicit {metadata : Metadata} {arguments : List Value} {naming : Naming}
    {registry : Converters} (hmessage : metadata.config.message ≠ "")
    (hreadable : ∀ body ∈ (Template.ofText metadata.config.message.toList).bodies,
      Rule.IsReadable body)
    (hnumbered : Parameter.Numbered metadata.parameters)
    (hlen : arguments.length = metadata.parameters.length)
    (hconverted : ∀ v ∈ arguments, ∃ w, registry.converted naming v = .ok w) :
    ∃ plan layout values event, metadata.plan = .ok plan ∧
      ExplicitCall naming registry metadata.config.message arguments plan layout values event := by
  obtain ⟨layout, rules, hlayout, hplan, hcount, hslots⟩ :=
    Metadata.exists_planOf_explicit hmessage hreadable
  obtain ⟨plan, hdef⟩ : ∃ plan, plan = metadata.planOf rules (String.ofList layout.bare) :=
    ⟨_, rfl⟩
  rw [← hdef] at hplan
  -- every rule belongs to a slot, and so it has a value
  have hrules : ∀ rule ∈ rules, (rule.shown (registry.silent naming) arguments).IsValue := by
    intro rule hrule
    obtain ⟨k, hk, rfl⟩ := List.mem_iff_getElem.mp hrule
    obtain ⟨r, hr, hslot⟩ := hslots k _ (List.getElem?_eq_getElem (hcount ▸ hk))
    obtain ⟨w, hw, -⟩ := shown_of_slotRule hnumbered hlen hconverted hslot
    obtain rfl : rules[k] = r := Option.some.inj ((List.getElem?_eq_getElem hk).symm.trans hr)
    exact Shown.isValue_of_ok hw
  have harguments : ∀ v ∈ arguments, (registry.silent naming v).IsValue := by
    intro v hv
    obtain ⟨w, hw⟩ := hconverted v hv
    exact Shown.isValue_of_ok hw
  have hshows : plan.Shows (registry.silent naming) arguments := by
    rw [hdef]
    exact Metadata.shows_planOf hnumbered hlen harguments hrules _
  have hvalues : plan.values (registry.silent naming) arguments =
      rules.map fun rule => (rule.shown (registry.silent naming) arguments).value := by
    rw [hdef]
    exact Metadata.values_planOf hmessage hnumbered hlen _ rules _
  have hlength : (plan.values (registry.silent naming) arguments).length =
      layout.bodies.length := by
    rw [hvalues, List.length_map, hcount]
  have htext : plan.message.toList = layout.bare := by
    rw [hdef]
    exact String.toList_ofList
  refine ⟨plan, layout, plan.values (registry.silent naming) arguments,
    (LogPoint.mk plan none none).callEvent (plan.values (registry.silent naming) arguments), hplan,
    hlayout, hlength, ?_, eventText_of_bare htext hlength, ?_, ?_⟩
  · intro k body hk
    obtain ⟨rule, hrule, hslot⟩ := hslots k body hk
    obtain ⟨w, hw, hshow⟩ := shown_of_slotRule hnumbered hlen hconverted hslot
    refine ⟨w, ?_, hshow⟩
    rw [hvalues, List.getElem?_map, hrule, Option.map_some, Shown.value, hw]
  · intro point sink j hpoint hregistry hproviders hsink
    subst hpoint
    exact logCall_silent hregistry hproviders hsink hconverted hshows
  · intro point methods threshold j hpoint hregistry hproviders hsink hmethod
    subst hpoint
    exact logCall_silent_recorder hregistry hproviders hsink hmethod hconverted hshows

/-- A function with a message that shows its exception twice, among slots that show nothing. -/
def failing : Metadata where
  name := "failing"
  parameters := [⟨0, "a", .any, false⟩, ⟨1, "e", .ofKnown .exception, false⟩]
  config := { message := "\x7b1\x7d is 9% of \x7bx\x7d, \x7b\x7d \x7d\x7b-1\x7d\x7b1\x7d\x7b" }

theorem logCall_explicit_failing :
    ∃ plan layout values event, failing.plan = .ok plan ∧
      ExplicitCall .empty (.ofList [(.ofKnown .exception, .tag "E")]) failing.config.message
        [.dict [(.str "k", .int 1)], .error (.known .valueError) [.str "boom"]]
        plan layout values event := by
  refine logCall_explicit (by decide) ?_ ?_ rfl ?_
  · intro body hbody
    refine Rule.isReadable_of_length ?_
    revert body
    decide
  · rintro (_ | _ | i) p hp
    · cases hp
      rfl
    · cases hp
      rfl
    · cases hp
  · intro v hv
    rcases List.mem_cons.mp hv with rfl | hv
    · exact ⟨_, rfl⟩
    · obtain rfl := List.mem_singleton.mp hv
      exact ⟨_, rfl⟩

end LogPoint

end CallLog
