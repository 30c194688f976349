import CallLog.Proofs.LogPoint.Range
import CallLog.Proofs.TypeHint

/-!
# Well-formed plans

The parts of a plan are made one by one: the rules by one of two rules for messages, the error
parameter by the declared parameters, the message by its template. `Plan.WellFormed` says how they
fit together and how they fit the parameters. What carries it is that the rules of the error
parameter are taken out of the plan exactly where its positions are noted.

The main statement is `plan_wellFormed`: there is a plan, and it is well formed.
-/

namespace CallLog

/-- A plan fits the metadata of the callable that it was made for. -/
structure Plan.WellFormed (metadata : Metadata) (plan : Plan) : Prop where
  /-- a rule shows the argument for one of the parameters, with its name and annotation -/
  rules : ∀ i name hint, .live i name hint ∈ plan.parameters →
    ∃ (n : Nat) (p : Parameter), metadata.parameters[n]? = some p ∧ i = n ∧ name = p.name ∧
      hint = p.hint
  /-- there is an error parameter if the last parameter takes an exception and is not excluded -/
  error_iff : (∃ e, plan.errorParameter = some e) ↔
    ∃ p, metadata.parameters.getLast? = some p ∧ p.hint.OfExceptions ∧ p.dontLog = false
  /-- it is the last parameter -/
  error_last : ∀ e, plan.errorParameter = some e →
    ∃ p, metadata.parameters.getLast? = some p ∧ e.index + 1 = metadata.parameters.length ∧
      e.name = p.name ∧ e.hint = p.hint
  /-- no rule shows it -/
  error_apart : ∀ e, plan.errorParameter = some e →
    ∀ rule ∈ plan.parameters, rule.isLiveFor e.index = false
  /-- its positions are in order, each of them once -/
  increasing : ∀ e, plan.errorParameter = some e → e.positions.Pairwise (· < ·)
  /-- a generated message does not show it -/
  generated : metadata.config.message = "" →
    ∀ e, plan.errorParameter = some e → e.positions = []
  /-- a message of its own shows it in the slots that refer to it -/
  explicit : metadata.config.message ≠ "" → ∀ e, plan.errorParameter = some e →
    ∀ layout : Layout, layout.text = metadata.config.message.toList →
      ∀ k, k ∈ e.positions ↔ ∃ (rank : Nat) (body : List Char), k = rank ∧
        layout.bodies[rank]? = some body ∧
        Rule.Refers (layout.bodies.take rank) body e.index
  /-- and it has a slot for each rule and each position -/
  slots : metadata.config.message ≠ "" →
    Format.slotCount plan.message.toList = plan.parameters.length + plan.positions.length
  /-- there is an argument wherever the plan looks for one -/
  inRange : ∀ arguments : List Value, arguments.length = metadata.parameters.length →
    plan.InRange arguments
  /-- so that logging a call takes no argument that is not there -/
  calls : ∀ (naming : Naming) (point : LogPoint) (sink : Sink) (arguments : List Value),
    point.plan = plan → arguments.length = metadata.parameters.length →
    (point.logCall naming sink arguments).StaysInRange

/-- A layout has the slots of its text. -/
theorem Layout.bodies_eq_of_text_eq {layout layout' : Layout} (h : layout.text = layout'.text) :
    layout.bodies = layout'.bodies := by
  rw [← layout.bodies_template, ← layout.ofText_text, h, layout'.ofText_text,
    layout'.bodies_template]

namespace Metadata

/-! ## Positions

The positions of an index are the places of the rules that show it. They are in order, and together
with the rules that are left they make up all rules. -/

theorem mem_positionsOf {index k : Int} {rules : List Rule} :
    k ∈ positionsOf index rules ↔
      ∃ (rank : Nat) (rule : Rule), rules[rank]? = some rule ∧ rule.isLiveFor index = true ∧
        k = rank := by
  simp only [positionsOf, List.mem_map, List.mem_filter, Prod.exists,
    List.mk_mem_zipIdx_iff_getElem?]
  constructor
  · rintro ⟨rule, rank, ⟨hrule, hlive⟩, rfl⟩
    exact ⟨rank, rule, hrule, hlive, rfl⟩
  · rintro ⟨rank, rule, hrule, hlive, rfl⟩
    exact ⟨rule, rank, ⟨hrule, hlive⟩, rfl⟩

theorem pairwise_positionsOf (index : Int) (rules : List Rule) :
    (positionsOf index rules).Pairwise (· < ·) := by
  have hsorted : (rules.zipIdx.map Prod.snd).Pairwise (· < ·) := by
    rw [List.zipIdx_map_snd]
    exact List.pairwise_lt_range'
  rw [positionsOf, List.pairwise_map]
  refine (List.pairwise_map.mp hsorted).filter _ |>.imp ?_
  intro a b hab
  exact Int.ofNat_lt.mpr hab

theorem length_positionsOf (index : Int) (rules : List Rule) :
    (rules.filter fun rule => !rule.isLiveFor index).length + (positionsOf index rules).length =
      rules.length := by
  have hcount : (positionsOf index rules).length =
      (rules.filter fun rule => rule.isLiveFor index).length := by
    rw [positionsOf, List.length_map, ← List.countP_eq_length_filter,
      ← List.countP_eq_length_filter]
    conv_rhs => rw [← List.zipIdx_map_fst 0 rules, List.countP_map]
    rfl
  rw [hcount, Nat.add_comm, ← List.countP_eq_length_filter, ← List.countP_eq_length_filter]
  simpa using (List.length_eq_countP_add_countP (Rule.isLiveFor index) (l := rules)).symm

variable {metadata : Metadata} {rules : List Rule} {message : String} {e : ErrorParameter}

/-! ## The error parameter

The error parameter is found by the annotations of the declared parameters, before any message is
looked at. So it is the same for both kinds of messages; what differs are its positions. -/

theorem errorIndex_eq_some_iff {parameters : List Parameter} {i : Nat} :
    Parameter.errorIndex parameters = some i ↔
      ∃ p, parameters.getLast? = some p ∧ p.hint.OfExceptions ∧ i + 1 = parameters.length := by
  rw [Parameter.errorIndex]
  rcases hlast : parameters.getLast? with _ | p
  · simp
  · have hne : parameters ≠ [] := by
      rintro rfl
      cases hlast
    have hpos : 0 < parameters.length := List.length_pos_iff.mpr hne
    simp only [← TypeHint.isExceptionType_iff, Option.some.injEq, exists_eq_left']
    by_cases hhint : p.hint.isExceptionType = true
    · simp only [hhint, if_true, Option.some.injEq, true_and]
      omega
    · simp [hhint]

/-- There is an error parameter if the last parameter takes an exception and is not excluded. -/
theorem exists_errorParameter_iff : (∃ e, metadata.errorParameter rules = some e) ↔
    ∃ p, metadata.parameters.getLast? = some p ∧ p.hint.OfExceptions ∧ p.dontLog = false := by
  constructor
  · rintro ⟨e, he⟩
    obtain ⟨i, p, hi, hp, hlog, -⟩ := errorParameter_eq_some he
    obtain ⟨q, hq, hhint, hlen⟩ := errorIndex_eq_some_iff.mp hi
    obtain rfl : q = p := by
      rw [List.getLast?_eq_getElem?, ← hlen, Nat.add_sub_cancel, hp] at hq
      exact (Option.some.inj hq).symm
    exact ⟨q, hq, hhint, hlog⟩
  · rintro ⟨p, hp, hhint, hlog⟩
    have hne : metadata.parameters ≠ [] := by
      intro hnil
      rw [hnil] at hp
      cases hp
    obtain ⟨i, hlen⟩ : ∃ i, i + 1 = metadata.parameters.length :=
      ⟨_, Nat.sub_add_cancel (List.length_pos_iff.mpr hne)⟩
    have hi := errorIndex_eq_some_iff.mpr ⟨p, hp, hhint, hlen⟩
    rw [List.getLast?_eq_getElem?, ← hlen, Nat.add_sub_cancel] at hp
    simp [errorParameter, hi, hp, hlog]

/-- What is known of an error parameter. -/
theorem of_errorParameter (hnumbered : Parameter.Numbered metadata.parameters)
    (he : metadata.errorParameter rules = some e) :
    ∃ (i : Nat) (p : Parameter), Parameter.errorIndex metadata.parameters = some i ∧
      metadata.parameters.getLast? = some p ∧ i + 1 = metadata.parameters.length ∧ e.index = i ∧
      e.name = p.name ∧ e.hint = p.hint ∧ e.positions = metadata.keptPositions i rules := by
  obtain ⟨i, p, hi, hp, -, rfl⟩ := errorParameter_eq_some he
  obtain ⟨q, hq, -, hlen⟩ := errorIndex_eq_some_iff.mp hi
  obtain rfl : q = p := by
    rw [List.getLast?_eq_getElem?, ← hlen, Nat.add_sub_cancel, hp] at hq
    exact (Option.some.inj hq).symm
  exact ⟨i, q, hi, hq, hlen, hnumbered i q hp, rfl, rfl, rfl⟩

/-- The rules that show the error parameter are taken out. -/
theorem withoutError_apart (hnumbered : Parameter.Numbered metadata.parameters)
    (he : metadata.errorParameter rules = some e) {rule : Rule}
    (hrule : rule ∈ metadata.withoutError rules) : rule.isLiveFor e.index = false := by
  obtain ⟨i, p, hi, -, -, hindex, -⟩ := of_errorParameter hnumbered he
  rw [withoutError_of_some he hi] at hrule
  rw [hindex]
  simpa using (List.mem_filter.mp hrule).2

theorem pairwise_keptPositions (i : Nat) (rules : List Rule) :
    (metadata.keptPositions i rules).Pairwise (· < ·) := by
  rw [keptPositions]
  split
  · exact .nil
  · exact pairwise_positionsOf i rules

/-- No rule is lost: one that is not in the plan is noted by its position. For a generated message
this is not so, since it has no slot for the exception. -/
theorem length_withoutError (hmessage : metadata.config.message ≠ "")
    (hnumbered : Parameter.Numbered metadata.parameters) :
    (metadata.withoutError rules).length + (metadata.planOf rules message).positions.length =
      rules.length := by
  rcases he : metadata.errorParameter rules with _ | e
  · have hnone : (metadata.planOf rules message).positions = [] := by
      simp only [Plan.positions, planOf, he]
    rw [withoutError_of_none he, hnone]
    rfl
  · obtain ⟨i, p, hi, -, -, -, -, -, hpositions⟩ := of_errorParameter hnumbered he
    have hsome : (metadata.planOf rules message).positions = positionsOf i rules := by
      rw [keptPositions, if_neg hmessage] at hpositions
      simp only [Plan.positions, planOf, he, hpositions]
    rw [withoutError_of_some he hi, hsome]
    exact length_positionsOf i rules

/-- The rule of a slot shows a parameter exactly if the slot refers to it. -/
theorem isLiveFor_iff_refers (hnumbered : Parameter.Numbered metadata.parameters)
    {before : List (List Char)} {body : List Char} {rule : Rule}
    (h : Rule.SlotRule metadata.parameters before body rule) {n : Nat}
    (hn : n < metadata.parameters.length) :
    rule.isLiveFor n = true ↔ Rule.Refers before body n := by
  cases h with
  | @live i p hi hp =>
    rw [Rule.ofParameter, Rule.isLiveFor, decide_eq_true_iff, hnumbered i p hp]
    constructor
    · intro heq
      rwa [heq] at hi
    · exact hi.unique
  | @outside i hi hout =>
    have hno : ¬ Rule.Refers before body n := by
      intro hrefers
      obtain rfl := hi.unique hrefers
      omega
    exact ⟨fun h => absurd h Bool.false_ne_true, fun hrefers => absurd hrefers hno⟩
  | invalid hno =>
    exact ⟨fun h => absurd h Bool.false_ne_true, fun hrefers => absurd hrefers (hno _)⟩

/-! ## Plans

What a plan is made of is known by now for each kind of message. `planOf_wellFormed` is about any
rules and any message that come with what is needed of an explicit one. -/

/-- What does not depend on how the message came about. -/
theorem planOf_wellFormed (hnumbered : Parameter.Numbered metadata.parameters)
    (hplan : metadata.plan = .ok (metadata.planOf rules message))
    (hexplicit : metadata.config.message ≠ "" → ∃ layout : Layout,
      layout.text = metadata.config.message.toList ∧ message.toList = layout.bare ∧
      rules.length = layout.bodies.length ∧
      ∀ k body, layout.bodies[k]? = some body → ∃ rule, rules[k]? = some rule ∧
        Rule.SlotRule metadata.parameters (layout.bodies.take k) body rule) :
    (metadata.planOf rules message).WellFormed metadata := by
  have hrange (arguments : List Value) (hlen : arguments.length = metadata.parameters.length) :=
    plan_inRange hplan hnumbered hlen
  refine ⟨?_, exists_errorParameter_iff, ?_, ?_, ?_, ?_, ?_, ?_, hrange, ?_⟩
  · intro i name hint hrule
    cases pointsIn_of_plan hnumbered hplan _ hrule with
    | @live _ p hp _ => exact ⟨_, p, hp, rfl, rfl, rfl⟩
  · intro e he
    obtain ⟨i, p, -, hp, hlen, hindex, hname, hhint, -⟩ := of_errorParameter hnumbered he
    refine ⟨p, hp, ?_, hname, hhint⟩
    rw [hindex, ← hlen]
    rfl
  · intro e he rule hrule
    exact withoutError_apart hnumbered he hrule
  · intro e he
    obtain ⟨i, p, -, -, -, -, -, -, hpositions⟩ := of_errorParameter hnumbered he
    rw [hpositions]
    exact pairwise_keptPositions i rules
  · intro hmessage e he
    obtain ⟨i, p, -, -, -, -, -, -, hpositions⟩ := of_errorParameter hnumbered he
    rw [hpositions, keptPositions, if_pos hmessage]
  · intro hmessage e he layout' hlayout' k
    obtain ⟨layout, hlayout, -, hcount, hslots⟩ := hexplicit hmessage
    obtain ⟨i, p, -, -, hlen, hindex, -, -, hpositions⟩ := of_errorParameter hnumbered he
    have hi : i < metadata.parameters.length := by omega
    rw [hpositions, keptPositions, if_neg hmessage, mem_positionsOf, hindex,
      Layout.bodies_eq_of_text_eq (hlayout'.trans hlayout.symm)]
    -- the slot of a rank and the rule of that rank refer to the same parameter
    constructor
    · rintro ⟨rank, rule, hrule, hlive, rfl⟩
      have hlt : rank < layout.bodies.length := hcount ▸ (List.getElem?_eq_some_iff.mp hrule).1
      obtain ⟨made, hmade, hslot⟩ := hslots rank _ (List.getElem?_eq_getElem hlt)
      obtain rfl := Option.some.inj (hrule.symm.trans hmade)
      exact ⟨rank, _, rfl, List.getElem?_eq_getElem hlt,
        (isLiveFor_iff_refers hnumbered hslot hi).mp hlive⟩
    · rintro ⟨rank, body, rfl, hbody, hrefers⟩
      obtain ⟨rule, hrule, hslot⟩ := hslots rank body hbody
      exact ⟨rank, rule, hrule, (isLiveFor_iff_refers hnumbered hslot hi).mpr hrefers, rfl⟩
  · intro hmessage
    obtain ⟨layout, -, htext, hcount, -⟩ := hexplicit hmessage
    have hslots : Format.slotCount message.toList = rules.length := by
      rw [htext, Format.slotCount_bare, hcount]
    exact hslots.trans (length_withoutError hmessage hnumbered).symm
  · rintro naming point sink arguments hpoint hlen
    exact LogPoint.logCall_staysInRange (hpoint ▸ hrange arguments hlen) sink

/-- **Plans are well formed.** There is a plan wherever the numerals in the slots of the message can
be read, and it is well formed, whichever kind of message it has. -/
theorem plan_wellFormed (metadata : Metadata)
    (hnumbered : Parameter.Numbered metadata.parameters)
    (hreadable : ∀ body ∈ (Template.ofText metadata.config.message.toList).bodies,
      Rule.IsReadable body) :
    ∃ plan, metadata.plan = .ok plan ∧ plan.WellFormed metadata := by
  by_cases hmessage : metadata.config.message = ""
  · have hplan := plan_of_generated hmessage hnumbered
    exact ⟨_, hplan, planOf_wellFormed hnumbered hplan fun hne => absurd hmessage hne⟩
  · obtain ⟨layout, rules, hlayout, hplan, hcount, hslots⟩ :=
      exists_planOf_explicit hmessage hreadable
    refine ⟨_, hplan, planOf_wellFormed hnumbered hplan fun _ => ?_⟩
    exact ⟨layout, hlayout, String.toList_ofList, hcount, hslots⟩

theorem plan_wellFormed_failing :
    ∃ plan, LogPoint.failing.plan = .ok plan ∧ plan.WellFormed LogPoint.failing := by
  refine plan_wellFormed LogPoint.failing ?_ ?_
  · rintro (_ | _ | i) p hp
    · cases hp
      rfl
    · cases hp
      rfl
    · cases hp
  · intro body hbody
    refine Rule.isReadable_of_length ?_
    revert body
    decide

/-- The first and the last of its five slots show the exception. -/
example : (LogPoint.failing.plan.toOption.map Plan.positions) = some [0, 4] := rfl

end Metadata

end CallLog
