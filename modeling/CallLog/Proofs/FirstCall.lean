import CallLog.Proofs.Outcome
import CallLog.Proofs.Owner
import CallLog.Proofs.Rules.Limit

/-!
# The first call of a logged function

The plan of a logged function is made when it is called first. So what making it fails with is what
that call ends with, and the target is not called. `FirstCall` is such a call, `GoesOn` says what it
does where there is a plan, and `first_call_stops` what it does where there is none.

The main statement is `message_used`. It tells the messages apart: for those that can be read the
rules and the plan are there and the first call goes on; in all others the first numeral with too
many digits ends everything that needs the rules.
-/

namespace CallLog

namespace LoggedFunction

open PlanCache (fetch fetch_of_free build_of_ok build_of_error reportBuilt_run)

variable {depth ref : Nat} {l : LoggedFunction} {arguments : Arguments} {m : Metadata}
  {x : Progress World Value} {w : World} {plan : Plan} {r : Raised}

/-! ## Making the plan

A plan is made inside the cache, under the lock of the function. What is described there is known,
so the outcome is that of planning it; and if that is a fault nothing is stored. -/

/-- Making the plan of what is described has the outcome that its message has. The rest of making it
cannot fail, and leaves at most reports. -/
theorem buildPlan_of_described (h : l.IsDescribed ref w m) :
    ∃ j, l.buildPlan (w.locked ref) =
      (Action.outcome m.plan, { w.locked ref with journal := j }) := by
  obtain ⟨j, hdescribe⟩ := h
  refine ⟨j, ?_⟩
  have hlogging : Run.logging ((w.locked ref).describe l.func l.interceptor.config l.owner)
      (w.locked ref) = (.ok m, { w.locked ref with journal := j }) := by
    rw [Run.logging, Part.lift]
    exact congrArg (fun x : _ × Journal => (x.1, { w.locked ref with journal := x.2 })) hdescribe
  rw [buildPlan, Action.bind_of_ok (Run.world_run _), Action.bind_of_ok hlogging,
    Action.ofExcept_run]

/-- Without a plan there is no log point, and the world has got nothing but reports. -/
theorem bound_of_error (hl : w.IsUnplanned ref l) {u : World}
    (h : l.buildPlan (w.locked ref) = (.error r, u)) :
    ∃ w', l.bound ref w = (.error r, w') ∧ w.Kept w' := by
  obtain ⟨w', hfetch⟩ : ∃ w', fetch World.cachePart World.journalPart ref l.buildPlan w =
      (.error r, w') :=
    ⟨_, fetch_of_free World.isLawful_cachePart hl.missing hl.unlocked (build_of_error h)⟩
  have hkept := World.kept_fetch l.kept_buildPlan ref w
  rw [hfetch] at hkept
  exact ⟨w', by rw [bound, Action.bind_of_error hfetch], hkept⟩

/-- **A plan that is made is put to use**, if the report on it can be written. The report comes
last, after the plan is stored. -/
theorem bound_of_ok (hl : w.IsUnplanned ref l) {j : Journal}
    (h : l.buildPlan (w.locked ref) = (.ok plan, { w.locked ref with journal := j }))
    (hplan : plan.IsCountable) (hj : j.IsWritable Naming.empty) :
    ∃ b w₁, l.bound ref w = (.ok b, w₁) ∧ b.point.plan = plan := by
  obtain ⟨record, -, hreport⟩ := reportBuilt_run hplan hj
  obtain ⟨u, hfetch⟩ : ∃ u, fetch World.cachePart World.journalPart ref l.buildPlan w =
      (.ok ⟨w.cache.fresh + 1, plan⟩, u) :=
    ⟨_, fetch_of_free World.isLawful_cachePart hl.missing hl.unlocked (build_of_ok h rfl hreport)⟩
  rw [bound, Action.bind_of_ok hfetch]
  rcases hcurrent : l.current with _ | b
  · exact ⟨_, _, rfl, rfl⟩
  · -- a log point that was in use before is for an older plan
    have hlt := hl.current b hcurrent
    have hstamp : b.stamp ≠ w.cache.fresh + 1 := by omega
    dsimp only
    rw [if_neg hstamp]
    exact ⟨_, _, rfl, rfl⟩

/-! ## The call

Getting hold of the log point is the first thing that a call does, before the target is called. So
there are two ways for a first call: it ends there, or it goes on as every later call will. -/

/-- A call of a logged function around a function, before there is a plan. -/
structure FirstCall (depth ref : Nat) (l : LoggedFunction) (arguments : Arguments) (m : Metadata)
    (x : Progress World Value) (w : World) : Prop where
  begins : Begins depth ref l arguments x w
  unplanned : w.IsUnplanned ref l
  described : l.IsDescribed ref w m
  wraps : ∃ kind t line f, l.Around w kind t line f ∧ f.isAsync = l.isAsync

/-- A first call for which a plan was made. -/
structure GoesOn (depth ref : Nat) (l : LoggedFunction) (arguments : Arguments) (m : Metadata)
    (plan : Plan) (x : Progress World Value) (w : World) (b : BoundPoint) (w₁ : World) : Prop where
  planned : m.plan = .ok plan
  /-- a log point for the plan is put to use -/
  bound : l.bound ref w = (.ok b, w₁)
  served : b.point.plan = plan
  /-- the call is logged and the target is called, once: nothing can prevent it but a value that the
  plan looks at and that cannot be written, or, where the message is generated, slots in the name of
  the target -/
  called : b.IsPlain w₁ →
    ((Sink.logger b.logger).takes plan.level.number = true →
      ∀ values, l.shownArguments w₁ arguments = some values →
        (∀ v, plan.Looks (w₁.settledAll values) v →
          (b.point.registryAt w₁.journal).Writes w₁.naming v) ∧
        (m.config.message ≠ "" ∨ Format.slotCount m.name.toList = 0)) →
    ∃ (w₂ : World) (last : Except Raised Value → World → Progress World Value),
      b.Writes w₁ w₂ (b.logged (BoundPoint.opening w₁ (l.shownArguments w₁ arguments))) ∧
      x = (l.callTarget depth arguments w₂).andThen last

/-- **A call ends with what making its plan fails with**, and nothing is called. Every further call
is a first call again, since there is no plan then either. -/
theorem first_call_stops (h : FirstCall depth ref l arguments m x w) {fault : Fault}
    (hplan : m.plan = .error fault) :
    ∃ w', x = .done (.error (.fault fault)) w' ∧ w.Kept w' := by
  obtain ⟨j, hbuild⟩ := buildPlan_of_described h.described
  rw [hplan, Action.outcome] at hbuild
  obtain ⟨w', hbound, hkept⟩ := bound_of_error h.unplanned hbuild
  obtain ⟨last, rfl, hlast⟩ := h.begins.run
  refine ⟨w', ?_, hkept⟩
  have hintercept : l.intercept ref arguments (l.callTarget depth arguments) w =
      .done (.error (.fault fault)) w' := by
    rw [intercept]
    exact Task.ofAction_bind_of_error hbound _
  rw [hintercept]
  exact hlast _ _ fun _ => Evaluation.closed_fault fault

/-- A call whose opening can be written goes on with the call of the target, in the world that has
got the record. -/
theorem first_call_made (h : FirstCall depth ref l arguments m x w) {b : BoundPoint} {w₁ : World}
    (hbound : l.bound ref w = (.ok b, w₁)) (hplain : b.IsPlain w₁)
    (hopening : b.CanWrite w₁ (BoundPoint.opening w₁ (l.shownArguments w₁ arguments))) :
    ∃ (w₂ : World) (last : Except Raised Value → World → Progress World Value),
      b.Writes w₁ w₂ (b.logged (BoundPoint.opening w₁ (l.shownArguments w₁ arguments))) ∧
      x = (l.callTarget depth arguments w₂).andThen last := by
  obtain ⟨kind, t, line, f, haround, hasync⟩ := h.wraps
  obtain ⟨w₂, hperform⟩ := BoundPoint.perform_of_canWrite hplain hopening
  obtain ⟨last, hx, -⟩ :=
    h.begins.made ⟨t, line, f, haround.target, haround.function, hasync⟩ hbound hperform
  exact ⟨w₂, last, BoundPoint.writes_of_ok hperform, hx⟩

/-- **A first call with a plan goes on.** The log point is the one that was just put to use, and
what is written before the target is called needs only values that can be written. -/
theorem first_call_goes_on (h : FirstCall depth ref l arguments m x w) (hplan : m.plan = .ok plan)
    (hcount : plan.IsCountable) (hj : w.journal.IsWritable Naming.empty) :
    ∃ b w₁, GoesOn depth ref l arguments m plan x w b w₁ := by
  obtain ⟨kind, t, line, f, haround, hasync⟩ := h.wraps
  obtain ⟨j, hbuild⟩ := buildPlan_of_described h.described
  have hkept : (w.locked ref).Kept { w.locked ref with journal := j } := by
    have hkept := l.kept_buildPlan (w.locked ref)
    rwa [hbuild] at hkept
  rw [hplan, Action.outcome] at hbuild
  have hj' : j.IsWritable Naming.empty := by
    obtain ⟨reports, -, hreported⟩ := hkept.journal
    obtain rfl : j = w.journal.logged reports := hreported
    exact hj
  obtain ⟨b, w₁, hbound, hb⟩ := bound_of_ok h.unplanned hbuild hcount hj'
  refine ⟨b, w₁, hplan, hbound, hb, fun hplain hvalues => first_call_made h hbound hplain ?_⟩
  subst hb
  rcases hshown : l.shownArguments w₁ arguments with _ | values
  · intro o ho
    cases ho
  by_cases hlevel : (Sink.logger b.logger).takes b.point.plan.level.number = true
  · -- the values that are shown are those of the parameters that were described
    have hthen : l.Around w₁ kind t line f := by
      have hretains := (World.Change.bound h.unplanned.logged).retains
      rw [hbound] at hretains
      exact haround.retained rfl hretains
    have hfits := haround.fits hthen h.described hplan
    obtain ⟨hlength, -⟩ := hfits.shown arguments values hshown
    obtain ⟨j', hdescribe⟩ := h.described
    have hnumbered := ((haround.locked ref).describes hdescribe).numbered
    obtain ⟨hwrites, hslots⟩ := hvalues hlevel values hshown
    rw [BoundPoint.canWrite_opening_iff hplain hlevel hplan hnumbered hlength]
    refine ⟨hwrites, .inl ?_⟩
    rw [Metadata.spareSlots]
    split
    · rename_i hmessage
      exact hslots.resolve_left fun hne => hne hmessage
    · rfl
  · intro o ho
    have hoff : b.logged (BoundPoint.opening w₁ (some values)) = none := by
      simp [BoundPoint.logged, BoundPoint.opening, Option.filter, LogPoint.Operation.isLogged,
        hlevel]
    rw [hoff] at ho
    cases ho

/-! ## What a message is used for

A message is read in three places: when its slots get rules, when a callable is planned, and when
the values of a call are put into it. It is read in the same way each time. So whether it can be
read decides about all three, and that is told by its characters alone. -/

/-- A message that can be read does not raise. -/
structure UsedMessage (message : String) : Prop where
  /-- there are rules for its slots, whatever the callable is -/
  resolved : ∀ name parameters errorIndex, ∃ rules template,
    Rule.resolve name parameters message errorIndex = .ok (rules, template)
  /-- there is a plan for each callable that has it -/
  planned : ∀ m : Metadata, m.config.message = message → ∃ plan, m.plan = .ok plan
  /-- the values of a call, as they are shown, fill it in if all of them have a text -/
  filled : message ≠ "" → ∀ (m : Metadata) (point : LogPoint), m.config.message = message →
    m.plan = .ok point.plan → Parameter.Numbered m.parameters →
    ∀ (naming : Naming) (look : Value → Shown) (values : List Value),
      values.length = m.parameters.length →
      ((∃ text, Logger.eventText naming (point.callEvent (point.plan.values look values))
          (point.plan.values look values) = .ok text) ↔
        ∀ v ∈ point.plan.values look values, ∃ text, v.text naming = .ok text)
  /-- a first call makes the plan and goes on with it, if the number of rules can be reported -/
  called : ∀ depth ref l arguments m x w, FirstCall depth ref l arguments m x w →
    m.config.message = message → w.journal.IsWritable Naming.empty →
    ∃ plan, m.plan = .ok plan ∧
      (plan.IsCountable → ∃ b w₁, GoesOn depth ref l arguments m plan x w b w₁)

/-- A message with a numeral of `n` digits, which are too many, raises wherever its slots are
read. -/
structure StoppedMessage (n : Nat) (message : String) : Prop where
  resolved : ∀ name parameters errorIndex,
    Rule.resolve name parameters message errorIndex = .error (.longNumeral n)
  planned : ∀ m : Metadata, m.config.message = message → m.plan = .error (.longNumeral n)
  /-- a first call ends with it: nothing is called, and nothing but reports is written -/
  called : ∀ depth ref l arguments m x w, FirstCall depth ref l arguments m x w →
    m.config.message = message →
    ∃ w', x = .done (.error (.fault (.longNumeral n))) w' ∧ w.Kept w'

/-- **A message raises if a numeral in its slots is too long**, and else it does not. The numeral is
read as a number before it is known whether there is a parameter for it, and the number of digits
that can be read is limited. -/
theorem message_used (message : String) :
    (Template.IsReadable message → UsedMessage message) ∧
    (¬ Template.IsReadable message →
      ∃ n, Template.StopsAt n message ∧ StoppedMessage n message) := by
  constructor
  · intro hread
    have hplanned (m : Metadata) (hm : m.config.message = message) : ∃ plan, m.plan = .ok plan :=
      Metadata.exists_plan_of_isReadable (hm ▸ hread)
    refine ⟨Rule.exists_resolve hread, hplanned, ?_, ?_⟩
    · intro hne m point hm hplan hnumbered naming look values hlength
      have hslots := Metadata.slotCount_of_plan hplan hnumbered hlength look
      rw [Metadata.spareSlots, if_neg (hm ▸ hne), Nat.add_zero] at hslots
      rw [LogPoint.exists_eventText_iff hslots.ge]
      constructor
      · rintro (hnil | ⟨-, htexts⟩)
        · simp [hnil]
        · exact htexts
      · exact fun htexts => .inr ⟨hslots.symm, htexts⟩
    · intro depth ref l arguments m x w h hm hj
      obtain ⟨plan, hplan⟩ := hplanned m hm
      exact ⟨plan, hplan, fun hcount => first_call_goes_on h hplan hcount hj⟩
  · intro hread
    obtain ⟨n, hstops⟩ := (Template.isReadable_or_stopsAt message).resolve_left hread
    have hplanned (m : Metadata) (hm : m.config.message = message) :
        m.plan = .error (.longNumeral n) := Metadata.plan_of_stopsAt (hm ▸ hstops)
    exact ⟨n, hstops, Rule.resolve_of_stopsAt hstops, hplanned,
      fun depth ref l arguments m x w h hm => first_call_stops h (hplanned m hm)⟩

/-- A message with one slot, which holds a zero of `n` digits. -/
def zeros (n : Nat) : String :=
  String.ofList ('\x7b' :: List.replicate n '0' ++ ['\x7d'])

/-- The digits are counted as they are written, also where they are zeros. -/
theorem zeros_stopsAt {n : Nat} (h : Text.digitLimit < n) : Template.StopsAt n (zeros n) := by
  have hclosed : '\x7d' ∉ List.replicate n '0' := by simp
  have hdigits : ∀ d ∈ List.replicate n '0', Text.isDigit d = true := by
    intro d hd
    rw [List.eq_of_mem_replicate hd]
    rfl
  have hne : List.replicate n '0' ≠ [] := by
    rw [Ne, List.replicate_eq_nil_iff]
    omega
  let layout := (Layout.plain [] (by simp)).cons [] (List.replicate n '0') (by simp) hclosed
  have htext : layout.text = (zeros n).toList := by
    simp [layout, zeros]
  have hbodies : (Template.ofText (zeros n).toList).bodies = [List.replicate n '0'] := by
    rw [← htext, Layout.ofText_text, Layout.bodies_template]
    rfl
  rw [Template.StopsAt, hbodies]
  exact .here [] (.bare hne hdigits) (List.length_replicate ..) h

theorem message_used_slot : UsedMessage "\x7b\x7d" ∧
    ∃ n, Template.StopsAt n (zeros 4301) ∧ StoppedMessage n (zeros 4301) := by
  obtain ⟨rule, hrules⟩ : ∃ rule, Rule.explicitRules [] 0
      (Template.ofText "\x7b\x7d".toList).bodies = .ok [rule] := ⟨_, rfl⟩
  have hstops : Template.StopsAt 4301 (zeros 4301) := zeros_stopsAt (by decide)
  refine ⟨(message_used _).1 (Rule.isReadable_of_explicitRules hrules), (message_used _).2 ?_⟩
  intro hread
  obtain ⟨rules, template, hresolve⟩ := Rule.exists_resolve hread "f" [] none
  cases hresolve.symm.trans (Rule.resolve_of_stopsAt hstops "f" [] none)

/-- A world with a function of one parameter and a logged function around it, which has a message of
its own and was not called yet. -/
def sampleNew (message : String) : World where
  objects := #[.function (giving { name := "x" }),
    .logged { sampleLogged (giving { name := "x" }) givingPlan with
      interceptor := { config := { message := message } }, current := none },
    .module "m" []]

/-- **A zero may be too long.** Written with 4301 digits it has no rule, and the first call of a
function that is logged with it fails. -/
theorem zeros_raise :
    Rule.resolve "f" [⟨0, "x", .any, false⟩] (zeros 4301) none = .error (.longNumeral 4301) ∧
      ∃ w', Evaluation.respondWithin 2 (.call (.object 1 [.object]) ⟨[.str "a"], []⟩)
        (sampleNew (zeros 4301)) = .done (.error (.fault (.longNumeral 4301))) w' := by
  have hstops : Template.StopsAt 4301 (zeros 4301) := zeros_stopsAt (by decide)
  generalize zeros 4301 = message at hstops ⊢
  refine ⟨Rule.resolve_of_stopsAt hstops _ _ _, ?_⟩
  obtain ⟨l, m, hcall, hmessage⟩ : ∃ l m, FirstCall 1 1 l ⟨[.str "a"], []⟩ m
      (Evaluation.respondWithin 2 (.call (.object 1 [.object]) ⟨[.str "a"], []⟩)
        (sampleNew message)) (sampleNew message) ∧ m.config.message = message :=
    ⟨_, _, ⟨.called rfl rfl (by simp), ⟨rfl, rfl, rfl, by simp⟩, ⟨_, rfl⟩,
      ⟨.plain, 0, [.object], _, ⟨rfl, rfl, rfl, rfl⟩, rfl⟩⟩, rfl⟩
  have hplan : m.plan = .error (.longNumeral 4301) := Metadata.plan_of_stopsAt (hmessage ▸ hstops)
  obtain ⟨w', hw', -⟩ := first_call_stops hcall hplan
  exact ⟨w', hw'⟩

end LoggedFunction

end CallLog
