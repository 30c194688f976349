import CallLog.Proofs.LogPoint.Explicit

/-!
# What a plan looks at

The rules and the error parameter of a plan point at arguments by index. `Metadata.IsVisible` says
which indexes these can be, told from the parameters and the message alone: a parameter that is not
excluded, or one that a slot of the message refers to. `pointsIn_of_plan` and
`errorParameter_visible` say that a plan looks at nothing else.
-/

namespace CallLog

/-- A slot of a text refers to an index. -/
def Layout.Mentions (layout : Layout) (i : Int) : Prop :=
  ∃ k body, layout.bodies[k]? = some body ∧ Rule.Refers (layout.bodies.take k) body i

/-- A slot of the configured message refers to an index. An empty message has no slots: the
message is generated then. -/
def Config.Mentions (config : Config) (i : Int) : Prop :=
  ∃ layout : Layout, layout.text = config.message.toList ∧ layout.Mentions i

theorem Config.not_mentions_of_empty {config : Config} (h : config.message = "") (i : Int) :
    ¬ config.Mentions i := by
  rintro ⟨layout, hlayout, k, body, hbody, -⟩
  have hbodies : layout.bodies = [] := by
    rw [← Layout.bodies_template, ← Layout.ofText_text, hlayout, h]
    rfl
  rw [hbodies] at hbody
  simp at hbody

/-- A record may show the argument at an index: its parameter is not excluded, or the message asks
for it. An exclusion is overruled by a message that was written for it. -/
def Metadata.IsVisible (metadata : Metadata) (i : Nat) : Prop :=
  ∃ p, metadata.parameters[i]? = some p ∧ (p.dontLog = false ∨ metadata.config.Mentions i)

/-- A rule shows a fixed text, or the argument for a parameter that is visible. -/
inductive Rule.PointsIn (metadata : Metadata) : Rule → Prop where
  | static (text : String) : PointsIn metadata (.static text)
  | live {n : Nat} {p : Parameter} (hp : metadata.parameters[n]? = some p)
      (hvisible : metadata.IsVisible n) : PointsIn metadata (.live n p.name p.hint)

namespace Rule

/-- A body that was taken for a reference could be read. -/
theorem isReadable_of_reference {body : List Char} {r : Reference} (h : reference body = .ok r) :
    IsReadable body := by
  intro sign ds hnum
  rcases body with _ | ⟨c, cs⟩
  · cases hnum with
    | bare hne hds => exact absurd rfl hne
  · simp only [reference, Text.numeral?_eq_some_iff.mpr hnum] at h
    by_contra hlong
    rw [if_pos (Nat.lt_of_not_le hlong)] at h
    cases h

/-- Bodies whose rules were made could be read. -/
theorem isReadable_of_explicitRules {parameters : List Parameter} {next : Nat}
    {bodies : List (List Char)} {rules : List Rule}
    (h : explicitRules parameters next bodies = .ok rules) : ∀ body ∈ bodies, IsReadable body := by
  induction bodies generalizing next rules with
  | nil => simp
  | cons body bodies ih =>
    rw [explicitRules] at h
    obtain ⟨reference, hreference, h⟩ := Action.except_bind_eq_ok h
    have hrest : ∃ next rules, explicitRules parameters next bodies = .ok rules := by
      cases reference with
      | next | index | invalid =>
        obtain ⟨rules, hrules, -⟩ := Action.except_bind_eq_ok h
        exact ⟨_, rules, hrules⟩
    obtain ⟨next, rules, hrules⟩ := hrest
    exact List.forall_mem_cons.mpr ⟨isReadable_of_reference hreference, ih hrules⟩

end Rule

namespace Metadata

variable {metadata : Metadata}

/-- Inversion for plans. -/
theorem plan_eq_ok {plan : Plan} (h : metadata.plan = .ok plan) :
    ∃ rules message, Rule.resolve metadata.name metadata.parameters metadata.config.message
        ((Parameter.errorIndex metadata.parameters).map Int.ofNat) = .ok (rules, message) ∧
      plan = metadata.planOf rules message := by
  obtain ⟨⟨rules, message⟩, hresolve, h⟩ := Action.except_bind_eq_ok h
  exact ⟨rules, message, hresolve, (Except.ok.inj h).symm⟩

/-- The rules of a generated message point at the parameters that are not excluded. -/
theorem pointsIn_autoRules (hnumbered : Parameter.Numbered metadata.parameters) :
    ∀ rule ∈ Rule.autoRules metadata.parameters, rule.PointsIn metadata := by
  intro rule hrule
  obtain ⟨p, hp, rfl⟩ := List.mem_map.mp hrule
  obtain ⟨hmem, hlog⟩ := List.mem_filter.mp hp
  obtain ⟨n, hn⟩ := List.mem_iff_getElem?.mp hmem
  rw [Rule.ofParameter, hnumbered n p hn]
  exact .live hn ⟨p, hn, .inl (by simpa using hlog)⟩

/-- The rule of a slot points at what the slot refers to. If that is in range, the message asks for
it, so it is visible whatever its annotation says. -/
theorem pointsIn_slotRule (hnumbered : Parameter.Numbered metadata.parameters)
    {layout : Layout} (hlayout : layout.text = metadata.config.message.toList) {k : Nat}
    {body : List Char} (hbody : layout.bodies[k]? = some body) {rule : Rule}
    (h : Rule.SlotRule metadata.parameters (layout.bodies.take k) body rule) :
    rule.PointsIn metadata := by
  cases h with
  | @live i p hi hp =>
    rw [Rule.ofParameter, hnumbered i p hp]
    exact .live hp ⟨p, hp, .inr ⟨layout, hlayout, k, body, hbody, hi⟩⟩
  | outside hi hout => exact .static _
  | invalid hno => exact .static _

/-- The slots of a message that was planned could be read. -/
theorem isReadable_of_plan {plan : Plan} (h : metadata.plan = .ok plan)
    (hmessage : metadata.config.message ≠ "") :
    ∀ body ∈ (Template.ofText metadata.config.message.toList).bodies, Rule.IsReadable body := by
  obtain ⟨rules, message, hresolve, -⟩ := plan_eq_ok h
  rw [Rule.resolve, if_neg hmessage] at hresolve
  obtain ⟨made, hmade, -⟩ := Action.except_bind_eq_ok hresolve
  exact Rule.isReadable_of_explicitRules hmade

/-- **A plan looks at visible arguments only.** A generated message lists what is not excluded, and
a slot of any other message refers to what it points at. -/
theorem pointsIn_of_plan (hnumbered : Parameter.Numbered metadata.parameters) {plan : Plan}
    (h : metadata.plan = .ok plan) : ∀ rule ∈ plan.parameters, rule.PointsIn metadata := by
  intro rule hrule
  by_cases hmessage : metadata.config.message = ""
  · obtain ⟨rules, message, hresolve, rfl⟩ := plan_eq_ok h
    rw [Rule.resolve, if_pos hmessage] at hresolve
    obtain ⟨rfl, -⟩ := Prod.mk.inj (Except.ok.inj hresolve)
    exact pointsIn_autoRules hnumbered rule (mem_withoutError hrule)
  · obtain ⟨layout, rules, hlayout, hplan, hcount, hslots⟩ :=
      exists_planOf_explicit hmessage (isReadable_of_plan h hmessage)
    obtain rfl := Except.ok.inj (hplan.symm.trans h)
    obtain ⟨k, hk, rfl⟩ := List.mem_iff_getElem.mp (mem_withoutError hrule)
    have hbody := List.getElem?_eq_getElem (hcount ▸ hk : k < layout.bodies.length)
    obtain ⟨rule, hr, hslot⟩ := hslots k _ hbody
    obtain rfl := Option.some.inj ((List.getElem?_eq_getElem hk).symm.trans hr)
    exact pointsIn_slotRule hnumbered hlayout hbody hslot

/-- **The error parameter** is one that is not excluded, also where the message asks for it. -/
theorem errorParameter_visible (hnumbered : Parameter.Numbered metadata.parameters) {plan : Plan}
    (h : metadata.plan = .ok plan) {e : ErrorParameter} (he : plan.errorParameter = some e) :
    ∃ (n : Nat) (p : Parameter), metadata.parameters[n]? = some p ∧ p.dontLog = false ∧
      e.index = n ∧ e.name = p.name := by
  obtain ⟨rules, message, -, rfl⟩ := plan_eq_ok h
  obtain ⟨n, p, -, hp, hlog, rfl⟩ := errorParameter_eq_some he
  exact ⟨n, p, hp, hlog, hnumbered n p hp, rfl⟩

end Metadata

end CallLog
