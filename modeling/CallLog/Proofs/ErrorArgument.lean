import CallLog.Proofs.Arguments
import CallLog.Proofs.LogPoint.Written
import CallLog.Proofs.Plan.WellFormed

/-!
# The exception among the arguments

A plan takes its error parameter from the annotation of the last parameter alone. What a call gives
that parameter is handed to the sink as `exc_info`, unless it is `None`. `Param.Takes` says which
values conform to an annotation; for a parameter that takes a single argument such a value is an
exception or `None`, so that what is handed over is an exception.

A parameter that takes all arguments that are left gets them together, and that is what is handed
over then: a tuple or a dictionary, and no exception (`gathered_errors_handed`).
-/

namespace CallLog

/-- A value is an exception: its class derives from that of all exceptions. Those that handlers do
not catch are exceptions as well. -/
def Value.IsException (v : Value) : Prop :=
  .baseException ∈ v.line

instance (v : Value) : Decidable v.IsException := by
  unfold Value.IsException
  infer_instance

theorem Value.IsException.isNone_eq {v : Value} (h : v.IsException) : v.isNone = false := by
  cases v with
  | none =>
    revert h
    decide
  | _ => rfl

/-! ## Values that conform to annotations

Nothing checks arguments against annotations when a function is called. So it is a hypothesis that
they conform, and what that means is said for the annotations that matter here: classes, unions and
`None`. To an annotation of another form any value conforms, so nothing is supposed there. -/

/-- A value conforms to an annotation: it is an instance of a class, as far as the class derives
from known ones, or it conforms to a member of a union. What other annotations say is left open. -/
inductive TypeHint.Admits : TypeHint → Value → Prop where
  | none : Admits .noneType .none
  | any (v : Value) : Admits .any v
  | ofClass {c : Class} {v : Value} (hc : .cls c ≠ noneType)
      (h : ∀ k ∈ c.ancestors, k ∈ v.line) : Admits (.cls c) v
  | member {a m : TypeHint} {ms : List TypeHint} {v : Value} (hms : a.members? = some ms)
      (hm : m ∈ ms) (h : Admits m v) : Admits a v
  | annotated {a : TypeHint} {marks : List Mark} {v : Value} (h : Admits a v) :
      Admits (.annotated a marks) v
  | unread {a : TypeHint} {v : Value} (hcls : ∀ c, a ≠ .cls c) (hms : a.members? = Option.none)
      (hmarks : ∀ b marks, a ≠ .annotated b marks) : Admits a v

theorem TypeHint.isNoneType_iff {a : TypeHint} : a.isNoneType = true ↔ a = noneType := by
  constructor
  · intro h
    unfold isNoneType at h
    split at h
    · rfl
    · cases h
  · rintro rfl
    rfl

theorem TypeHint.Admits.of_noneType {v : Value} (h : noneType.Admits v) : v.isNone = true := by
  generalize ha : noneType = a at h
  cases h with
  | none => rfl
  | any => cases ha
  | ofClass hc => exact absurd ha.symm hc
  | member hms => subst ha; cases hms
  | annotated => cases ha
  | unread hcls => exact absurd ha.symm (hcls _)

/-- **What conforms to an annotation of exceptions** is an exception or `None`. By induction on why
the annotation is one of exceptions: it is a class of exceptions, or a union of such and `None`. -/
theorem TypeHint.Admits.of_exceptions {a : TypeHint} {v : Value} (h : a.Admits v)
    (ha : a.OfExceptions) : v.isNone = true ∨ v.IsException := by
  induction ha with
  | @cls c hc =>
    generalize hb : TypeHint.cls c = b at h
    cases h with
    | none => exact .inl rfl
    | any =>
      cases hb
      exact absurd hc (by decide)
    | @ofClass d _ _ hline =>
      cases hb
      exact .inr (hline _ (List.contains_iff_mem.mp hc))
    | member hms => subst hb; cases hms
    | annotated => cases hb
    | unread hcls => exact absurd hb.symm (hcls _)
  | @members a ms hms hany hall ih =>
    cases h with
    | none | any | ofClass | annotated => cases hms
    | @member _ m ms' _ hms' hm hv =>
      obtain rfl := Option.some.inj (hms.symm.trans hms')
      rcases hnone : m.isNoneType with _ | _
      · exact ih m hm hnone hv
      · rw [isNoneType_iff.mp hnone] at hv
        exact .inl hv.of_noneType
    | unread _ hno => cases hms.symm.trans hno

/-- A value conforms to an annotation if it conforms to what is left of that without its marks. What
is described is the annotation without marks, so this is what carries the hypothesis over. -/
theorem TypeHint.Admits.unmark {a : TypeHint} {v : Value} (h : a.Admits v) :
    a.unmark.1.Admits v := by
  unfold TypeHint.unmark
  split
  · cases h with
    | member hms => cases hms
    | annotated h => exact h
    | unread _ _ hmarks => exact absurd rfl (hmarks _ _)
  · exact h

/-- A parameter takes a value that conforms to its annotation: one argument, or all that are left,
each of which conforms. `None` conforms where it is the default. -/
inductive Param.Takes (hint : TypeHint) (p : Param) : Value → Prop where
  | default (h : p.default = some .none) : Takes hint p .none
  | single {v : Value} (hkind : p.kind ≠ .rest ∧ p.kind ≠ .others) (h : hint.Admits v) :
      Takes hint p v
  | rest {vs : List Value} (hkind : p.kind = .rest) (h : ∀ v ∈ vs, hint.Admits v) :
      Takes hint p (.tuple vs)
  | others {entries : List (Value × Value)} (hkind : p.kind = .others)
      (h : ∀ e ∈ entries, hint.Admits e.2) : Takes hint p (.dict entries)

/-- A parameter that takes a single argument, and is declared to take an exception, takes an
exception or `None`. -/
theorem Param.Takes.of_exceptions {hint : TypeHint} {p : Param} {v : Value} (h : p.Takes hint v)
    (hkind : p.kind ≠ .rest ∧ p.kind ≠ .others) (hhint : hint.unmark.1.OfExceptions) :
    v.isNone = true ∨ v.IsException := by
  cases h with
  | default => exact .inl rfl
  | single _ h => exact h.unmark.of_exceptions hhint
  | rest hrest => exact absurd hrest hkind.1
  | others hothers => exact absurd hothers hkind.2

/-! ## What is handed over

A call that gets through to the sink hands it the event once, with the fields that the plan makes of
the arguments. The exception is one of these fields, and it stands under a name that a context may
have too; that case is left out here. -/

namespace World

theorem isNone_settled (w : World) (v : Value) : (w.settled v).isNone = v.isNone := by
  unfold settled
  split
  case h_6 => split <;> rfl
  all_goals rfl

theorem getElem?_settledAll (w : World) (vs : List Value) (i : Nat) :
    (w.settledAll vs)[i]? = vs[i]?.map w.settled := by
  induction vs generalizing i with
  | nil => rw [settledAll]; rfl
  | cons v vs ih =>
    rw [settledAll]
    cases i with
    | zero => rfl
    | succ i => simpa using ih i

end World

namespace LogPoint

variable {naming : Naming} {point : LogPoint} {sink : Sink} {arguments : List Value} {j : Journal}
  {context : Context.Fields}

/-- A call gets through to the sink: its level is taken, its values can be shown, its context is
collected, and no name is taken twice. These are what can end a call before, one after the other. -/
structure Reaches (naming : Naming) (point : LogPoint) (sink : Sink) (arguments : List Value)
    (j : Journal) (context : Context.Fields) : Prop where
  level : sink.takes point.plan.level.number = true
  shows : point.plan.Shows (point.shownAt naming j) arguments
  collected : (point.gathered naming j).outcome = .ok context
  free : Logger.clash? ["self", "logger", "event"] context = none

/-- The sink is handed the event once, with these fields. -/
theorem Reaches.run (h : point.Reaches naming sink arguments j context) :
    ∃ event args k, point.logCall naming sink arguments j =
      sink.emit naming point.plan.level.method event args (point.plan.fields arguments context)
        k := by
  have hshow : (Operation.call arguments).CanShow point (point.shownAt naming j) := h.shows
  have hfree : Logger.clash? (Operation.call arguments).taken context = none := h.free
  have hrun := Operation.run_eq h.level hshow h.collected
  rw [hfree, Operation.fields_call] at hrun
  exact ⟨_, _, _, hrun⟩

end LogPoint

/-- What the sink is handed as `exc_info` is the exception among the arguments, if it is not `None`.
Neither the text of the event nor the other arguments matter for it. -/
theorem Plan.lookup_fields (plan : Plan) (arguments : List Value) {context : Context.Fields}
    (hcontext : context.lookup "exc_info" = none) :
    (plan.fields arguments context).lookup "exc_info" =
      (plan.error? arguments).filter fun error => !error.isNone := by
  rw [fields]
  rcases plan.error? arguments with _ | error
  · exact hcontext
  · rcases hnone : error.isNone with _ | _
    · simp [Document.lookup_insert, Option.filter, hnone]
    · simpa [Option.filter, hnone] using hcontext

namespace LoggedFunction

open Signature (Receives)

/-- Some fields carry the exception that a call gives the error parameter, and nothing else, as
`exc_info`. -/
structure CarriesException (w : World) (params : List Param) (arguments : Arguments) (plan : Plan)
    (fields : Context.Fields) : Prop where
  /-- without an error parameter there is none -/
  absent : plan.errorParameter = none → fields.lookup "exc_info" = none
  /-- the error parameter is the last one, and what it receives decides -/
  received : ∀ e, plan.errorParameter = some e →
    ∃ (k : Nat) (p : Param) (v : Value), params[k]? = some p ∧ k + 1 = params.length ∧
      p.name = e.name ∧ Receives params arguments k p v ∧
      -- a single argument is handed over, as it is then, if it is an exception
      (p.kind ≠ .rest ∧ p.kind ≠ .others →
        fields.lookup "exc_info" = if v.IsException then some (w.settled v) else none) ∧
      -- arguments that are left are handed over together, which is no exception
      (p.kind = .rest ∨ p.kind = .others →
        ¬ v.IsException ∧ fields.lookup "exc_info" = some (w.settled v))

/-- What takes all arguments that are left gets a tuple or a dictionary, even if there is one
argument, or none. That is neither an exception nor `None`, so it is handed over as it is. -/
theorem gathered_of_receives {params : List Param} {arguments : Arguments} {k : Nat} {p : Param}
    {v : Value} (h : Receives params arguments k p v) (hkind : p.kind = .rest ∨ p.kind = .others) :
    ¬ v.IsException ∧ v.isNone = false := by
  have hplaced : ¬ p.IsPlaced := by
    rintro (hp | hp) <;> rcases hkind with hkind | hkind <;> cases hp.symm.trans hkind
  have hnamed : p.isNamed = false := by
    rcases hkind with hkind | hkind <;> simp [Param.isNamed, hkind]
  cases h with
  | placed hp => exact absurd hp hplaced
  | named hp => cases hnamed.symm.trans hp
  | default hp =>
    rcases hp with hp | hp
    · exact absurd hp hplaced
    · rcases hkind with hkind | hkind <;> cases hp.symm.trans hkind
  | rest => exact ⟨by unfold Value.IsException; rw [Value.line]; decide, rfl⟩
  | others => exact ⟨by unfold Value.IsException; rw [Value.line]; decide, rfl⟩

variable {l : LoggedFunction} {w w' : World} {kind : Wrapping} {t : Nat} {line : List KnownClass}
  {f f' : Function} {config : Config} {m : Metadata} {j j' : Journal} {plan : Plan}
  {arguments : Arguments} {values : List Value}

/-- The error parameter of a plan is the last one of the function, whatever is left out before it,
and its value is the last that is shown. What is left out stands before all that is described, so
the indices are moved by the same number. -/
theorem exists_received (hsignature : l.signature.WellFormed)
    (hdescribes : w.DescribesAll l.target (l.signature.params.drop (l.omitted kind)) m.parameters)
    (hplan : m.plan = .ok plan) (hbind : l.signature.bind arguments = some values)
    {e : ErrorParameter} (he : plan.errorParameter = some e) (w' : World) :
    ∃ (k : Nat) (p : Param) (v : Value), l.signature.params[k]? = some p ∧ values[k]? = some v ∧
      k + 1 = l.signature.params.length ∧ p.name = e.name ∧
      Receives l.signature.params arguments k p v ∧
      (w.annotation l.target p).unmark.1.OfExceptions ∧
      plan.error? (w'.settledAll (values.drop (l.omitted kind))) = some (w'.settled v) := by
  obtain ⟨rules, message, -, hplanOf⟩ := Metadata.plan_eq_ok hplan
  have herror : m.errorParameter rules = some e := by rwa [hplanOf] at he
  obtain ⟨i, q, hi, hq, hlast, hindex, hname, -, -⟩ :=
    Metadata.of_errorParameter hdescribes.numbered herror
  obtain ⟨q', hq', hhint, -⟩ := Metadata.errorIndex_eq_some_iff.mp hi
  obtain rfl := Option.some.inj (hq.symm.trans hq')
  rw [List.getLast?_eq_getElem?, ← hlast, Nat.add_sub_cancel] at hq
  have hlength := hdescribes.length
  rw [List.length_drop] at hlength
  have hlt : l.omitted kind + i < l.signature.params.length := by omega
  obtain ⟨p, hp⟩ : ∃ p, l.signature.params[l.omitted kind + i]? = some p :=
    ⟨_, List.getElem?_eq_getElem hlt⟩
  obtain ⟨v, hv⟩ : ∃ v, values[l.omitted kind + i]? = some v :=
    ⟨_, List.getElem?_eq_getElem (Signature.length_bind hbind ▸ hlt)⟩
  obtain ⟨-, hqname, hqhint, -⟩ := hdescribes.described i p q (by rw [List.getElem?_drop, hp]) hq
  refine ⟨_, p, v, hp, hv, by omega, by rw [hname, hqname],
    Signature.receives_of_bind hsignature hbind hp hv, hqhint ▸ hhint, ?_⟩
  rw [Plan.error?, he, Option.bind_some, hindex, LogPoint.item?_natCast,
    World.getElem?_settledAll, List.getElem?_drop, hv, Option.map_some]

/-- **What is handed over as `exc_info`** is the exception that the error parameter received. For a
parameter of one argument it is an exception or nothing is handed over; for one that takes all that
are left the statement says what is handed over instead. -/
theorem exception_handed (hdescribed : l.Around w kind t line f)
    (hcalled : l.Around w' kind t line f') (hsignature : l.signature.WellFormed)
    (hm : w.describe l.func config l.owner j = (.ok m, j')) (hplan : m.plan = .ok plan)
    (hbind : l.signature.bind arguments = some values)
    (hconform : ∀ (k : Nat) (p : Param) (v : Value), l.signature.params[k]? = some p →
      values[k]? = some v → p.Takes (w.annotation l.target p) v) :
    ∃ shown, l.shownArguments w' arguments = some shown ∧
      ∀ (naming : Naming) (point : LogPoint) (sink : Sink) (k : Journal)
        (context : Context.Fields), point.plan = plan →
        point.Reaches naming sink (w'.settledAll shown) k context →
        context.lookup "exc_info" = none →
        ∃ event args fields k', point.logCall naming sink (w'.settledAll shown) k =
            sink.emit naming plan.level.method event args fields k' ∧
          CarriesException w' l.signature.params arguments plan fields := by
  have hdescribes := hdescribed.describes hm
  rw [← hdescribed.signature] at hdescribes
  refine ⟨values.drop (l.omitted kind), ?_, ?_⟩
  · rw [hcalled.shownArguments, ← hcalled.signature, hbind, Option.map_some]
  intro naming point sink k context hpoint hreaches hcontext
  subst hpoint
  obtain ⟨event, args, k', hrun⟩ := hreaches.run
  refine ⟨event, args, _, k', hrun, ?_, ?_⟩
  · intro hnone
    rw [Plan.lookup_fields _ _ hcontext, Plan.error?, hnone]
    rfl
  · intro e he
    obtain ⟨n, p, v, hp, hv, hlast, hname, hreceives, hhint, hvalue⟩ :=
      exists_received hsignature hdescribes hplan hbind he w'
    have hlookup := point.plan.lookup_fields (w'.settledAll (values.drop (l.omitted kind))) hcontext
    rw [hvalue, Option.filter, World.isNone_settled] at hlookup
    refine ⟨n, p, v, hp, hlast, hname, hreceives, fun hkind => ?_, fun hkind => ?_⟩
    · rcases (hconform n p v hp hv).of_exceptions hkind hhint with hnone | hexception
      · have hno : ¬ v.IsException := by
          intro h
          cases hnone.symm.trans h.isNone_eq
        rw [hlookup, hnone, if_neg hno]
        rfl
      · rw [hlookup, hexception.isNone_eq, if_pos hexception]
        rfl
    · obtain ⟨hno, hnone⟩ := gathered_of_receives hreceives hkind
      exact ⟨hno, by rw [hlookup, hnone]; rfl⟩

/-- A parameter that takes an exception. -/
def single : Param where
  name := "e"
  hint := some (.ofKnown .exception)
  default := some .none

/-- A parameter that takes any number of exceptions. -/
def several : Param where
  name := "e"
  kind := .rest
  hint := some (.ofKnown .exception)

/-- A function of one parameter. -/
def erring (p : Param) : Function where
  name := "f"
  qualname := "f"
  module := .str "m"
  signature := { params := [p] }
  home := 0

/-- A world with a function of one parameter. -/
def erringWorld (p : Param) : World where
  objects := #[.module "m" [], .function (erring p)]

/-- A logged function around it. -/
def erringLogged (p : Param) : LoggedFunction where
  func := .object 1 [.object]
  target := .object 1 [.object]
  interceptor := {}
  signature := (erring p).signature
  isAsync := false
  labels := {}
  wrapped := .object 1 [.object]

/-- What is described of a function whose only parameter takes exceptions. -/
def erringMetadata : Metadata where
  name := "f"
  parameters := [{ index := 0, name := "e", hint := .ofKnown .exception }]
  scopes := [⟨"m", .module, none⟩]

/-- The plan for it. -/
def erringPlan : Plan where
  logger := "m"
  level := .debug
  message := "f"
  errorParameter := some { index := 0, name := "e", hint := .ofKnown .exception }
  logResult := true

/-- An exception. -/
def boom : Value :=
  .error (.known .valueError) [.str "boom"]

theorem around_erring (p : Param) :
    (erringLogged p).Around (erringWorld p) .plain 1 [.object] (erring p) :=
  ⟨rfl, rfl, rfl, rfl⟩

theorem reaches_erring (sink : Sink) (v : Value) (h : sink.takes Level.debug.number = true) :
    LogPoint.Reaches .empty ⟨erringPlan, none, some []⟩ sink [v] {} [] where
  level := h
  shows := by
    refine ⟨by simp [erringPlan], ?_⟩
    intro e he
    obtain rfl := Option.some.inj he
    exact ⟨v, rfl, fun hne => absurd rfl hne⟩
  collected := rfl
  free := rfl

theorem exception_handed_single :
    (erringLogged single).shownArguments (erringWorld single) ⟨[boom], []⟩ = some [boom] ∧
      ∃ event args fields k, LogPoint.logCall .empty ⟨erringPlan, none, some []⟩
          (.recorder ["debug"] none) ((erringWorld single).settledAll [boom]) {} =
        (Sink.recorder ["debug"] none).emit .empty "debug" event args fields k ∧
      CarriesException (erringWorld single) [single] ⟨[boom], []⟩ erringPlan fields := by
  have haround := around_erring single
  have hm : (erringWorld single).describe (erringLogged single).func {} none {} =
      (.ok erringMetadata, {}) := rfl
  have hbind : (erringLogged single).signature.bind ⟨[boom], []⟩ = some [boom] := rfl
  have hconform : ∀ (k : Nat) (p : Param) (v : Value), [single][k]? = some p →
      [boom][k]? = some v →
      p.Takes (World.annotation (erringWorld single) (erringLogged single).target p) v := by
    rintro (_ | k) p v hp hv
    · cases hp
      cases hv
      exact .single (by decide) (.ofClass nofun (by decide))
    · cases hp
  obtain ⟨shown, hshown, hhanded⟩ :=
    exception_handed haround haround ⟨by decide, by decide⟩ hm rfl hbind hconform
  obtain rfl := Option.some.inj hshown
  exact ⟨rfl, hhanded .empty ⟨erringPlan, none, some []⟩ (.recorder ["debug"] none) {} [] rfl
    (reaches_erring _ _ rfl) rfl⟩

/-- A parameter that takes all exceptions that are left has them handed over together: what is
handed over is no exception. -/
theorem gathered_errors_handed :
    let l := erringLogged several
    let w := erringWorld several
    w.describe l.func {} none {} = (.ok erringMetadata, {}) ∧
      erringMetadata.plan = .ok erringPlan ∧
      l.signature.bind ⟨[boom], []⟩ = some [.tuple [boom]] ∧
      several.Takes (w.annotation l.target several) (.tuple [boom]) ∧
      l.shownArguments w ⟨[boom], []⟩ = some [.tuple [boom]] ∧
      LogPoint.logCall .empty ⟨erringPlan, none, some []⟩ (.recorder ["debug"] none)
          (w.settledAll [.tuple [boom]]) {} =
        (.ok (), { calls := [.emit "debug" "f" [] [("exc_info", .tuple [boom])]] }) ∧
      ¬ (Value.tuple [boom]).IsException := by
  refine ⟨rfl, rfl, rfl, .rest rfl ?_, rfl, rfl, by decide⟩
  intro v hv
  obtain rfl := List.mem_singleton.mp hv
  exact .ofClass nofun (by decide)

end LoggedFunction

end CallLog
