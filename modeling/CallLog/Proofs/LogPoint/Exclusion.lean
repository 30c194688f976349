import CallLog.Proofs.Description
import CallLog.Proofs.Plan.Visible

/-!
# Excluded parameters

A parameter whose annotation excludes it is hidden, unless a slot of the message asks for it. The
main statement, `logCall_hidden`, compares two calls of one callable whose arguments differ in
hidden parameters only: logging them comes to the same, in what the sink is asked, in what is
recorded and in how it ends.
-/

namespace CallLog

/-! ## Resolved annotations

What excludes is a mark, and marks are put around annotations. Resolving goes inward and builds the
annotation again from the inside, and the marks of what is inside join those that are around it. -/

namespace World

variable {world : World}

/-- **A mark for exclusion stays** when an annotation is resolved, whether the annotation carries it
or the one that is marked, as a text or not. -/
theorem excludes_of_resolveHint {home fuel : Nat} {pending : List String} {base hint : TypeHint}
    {marks : List Mark}
    (h : world.resolveHint home (fuel + 1) pending (.annotated base marks) = .ok hint)
    (hmarks : (.dontLog ∈ marks ∨ .dontLogValue ∈ marks) ∨
      ∃ inner, world.resolveHint home fuel pending base = .ok inner ∧ inner.Excludes) :
    hint.Excludes := by
  rw [resolveHint] at h
  obtain ⟨inner, hinner, hmarked⟩ := Action.except_bind_eq_ok h
  refine TypeHint.excludes_of_marked hmarked ?_
  rcases hmarks with hmarks | ⟨inner', hinner', hexcludes⟩
  · exact .inr hmarks
  · obtain rfl := Except.ok.inj (hinner.symm.trans hinner')
    exact .inl hexcludes

/-- The annotation of the parameter at an index, the receiver left out, excludes it. It is the
resolved annotation that counts, where annotations can be resolved. -/
def IsExcluded (world : World) (func : Value) (owner : Option Class) (i : Nat) : Prop :=
  ∃ signature p, world.signatureOf (world.unwrap func) = .ok signature ∧
    (world.withoutReceiver func owner signature.params)[i]? = some p ∧
    (world.annotation (world.unwrap func) p).Excludes

/-- Nothing of the argument at an index is to be logged: its parameter is excluded, and no slot of
the message refers to it. -/
def IsHidden (world : World) (func : Value) (config : Config) (owner : Option Class)
    (i : Nat) : Prop :=
  world.IsExcluded func owner i ∧ (config.message = "" ∨ ¬ config.Mentions i)

section

variable {func : Value} {config : Config} {owner : Option Class} {m : Metadata} {j j' : Journal}
  {i : Nat}

theorem not_isExcluded_of_dontLog (hm : world.describe func config owner j = (.ok m, j'))
    {q : Parameter} (hq : m.parameters[i]? = some q) (hlog : q.dontLog = false) :
    ¬ world.IsExcluded func owner i := by
  rintro ⟨signature, p, hsignature, hp, hexcludes⟩
  obtain ⟨-, signature', hsignature', hdescribes⟩ := describe_eq_ok hm
  obtain rfl := Except.ok.inj (hsignature.symm.trans hsignature')
  have hdontLog := (hdescribes.described i p q hp hq).2.2.2.mpr hexcludes
  rw [hlog] at hdontLog
  cases hdontLog

/-- What a plan looks at is not hidden: it is not excluded, or a slot of the message asks for it. -/
theorem not_isHidden_of_isVisible (hm : world.describe func config owner j = (.ok m, j'))
    (h : m.IsVisible i) : ¬ world.IsHidden func config owner i := by
  rintro ⟨hexcluded, hmessage⟩
  obtain ⟨rfl, -⟩ := describe_eq_ok hm
  obtain ⟨q, hq, hlog | hmentions⟩ := h
  · exact not_isExcluded_of_dontLog hm hq hlog hexcluded
  · rcases hmessage with hempty | hno
    · exact Config.not_mentions_of_empty hempty i hmentions
    · exact hno hmentions

end

end World

/-! ## Log points that look at the same arguments

Logging a call asks for arguments by their index, in two places only: in the rules of the plan, and
for the exception. So two calls with the same arguments there do the same, step by step. -/

namespace LogPoint

variable {naming : Naming} {point : LogPoint} {arguments arguments' : List Value}

theorem mapM_congr {σ α β : Type} {f g : α → Action σ β} {as : List α}
    (h : ∀ a ∈ as, f a = g a) : as.mapM f = as.mapM g := by
  induction as with
  | nil => rfl
  | cons a as ih =>
    obtain ⟨ha, has⟩ := List.forall_mem_cons.mp h
    rw [List.mapM_cons, List.mapM_cons, ha, ih has]

theorem argument_congr {n : Nat} (h : arguments[n]? = arguments'[n]?) :
    argument arguments n = argument arguments' n := by
  rw [argument, argument, item?_natCast, item?_natCast, h]

/-- **Logging a call looks at the arguments** that the plan points at, and at no others. -/
theorem logCall_congr
    (hrules : ∀ i name hint, .live i name hint ∈ point.plan.parameters →
      argument arguments i = argument arguments' i)
    (herror : ∀ e, point.plan.errorParameter = some e →
      argument arguments e.index = argument arguments' e.index) (sink : Sink) :
    point.logCall naming sink arguments = point.logCall naming sink arguments' := by
  have hrender : point.plan.parameters.mapM (point.render naming arguments) =
      point.plan.parameters.mapM (point.render naming arguments') := by
    refine mapM_congr fun rule hrule => ?_
    cases rule with
    | static text => rfl
    | live i name hint => rw [render, render, hrules i name hint hrule]
  have hwith : point.withError naming arguments = point.withError naming arguments' := by
    funext values fields
    rw [withError, withError]
    rcases hparameter : point.plan.errorParameter with _ | e
    · rfl
    · dsimp only
      rw [herror e hparameter]
  rw [logCall, logCall, hrender, hwith]

/-- **Hidden arguments leave no trace.** Calls that differ in hidden arguments only are logged in
the same way. An excluded parameter is no error parameter, and marks for exclusion are not lost when
annotations with marks are nested. -/
theorem logCall_hidden {world : World} {func : Value} {config : Config} {owner : Option Class}
    {m : Metadata} {plan : Plan} {j₀ j₁ : Journal}
    (hdescribe : world.describe func config owner j₀ = (.ok m, j₁)) (hplan : m.plan = .ok plan)
    (hagree : ∀ i, i < m.parameters.length → ¬ world.IsHidden func config owner i →
      arguments[i]? = arguments'[i]?) :
    (∀ naming converters providers sink j,
      LogPoint.logCall naming ⟨plan, converters, providers⟩ sink arguments j =
        LogPoint.logCall naming ⟨plan, converters, providers⟩ sink arguments' j) ∧
    (∀ e, plan.errorParameter = some e →
      ∃ n : Nat, e.index = n ∧ ¬ world.IsExcluded func owner n) ∧
    ∀ home fuel pending base marks hint,
      world.resolveHint home (fuel + 1) pending (.annotated base marks) = .ok hint →
      (.dontLog ∈ marks ∨ .dontLogValue ∈ marks) ∨
        (∃ inner, world.resolveHint home fuel pending base = .ok inner ∧ inner.Excludes) →
      hint.Excludes := by
  obtain ⟨-, signature, -, hdescribes⟩ := World.describe_eq_ok hdescribe
  have hnumbered := hdescribes.numbered
  -- a plan points at visible parameters only, and these are not among the hidden ones
  have hvisible {n : Nat} (h : m.IsVisible n) : argument arguments n = argument arguments' n := by
    obtain ⟨p, hp, -⟩ := id h
    refine argument_congr (hagree n (List.getElem?_eq_some_iff.mp hp).1 ?_)
    exact World.not_isHidden_of_isVisible hdescribe h
  refine ⟨fun naming converters providers sink j => ?_, fun e he => ?_, ?_⟩
  · refine congrFun (logCall_congr ?_ ?_ sink) j
    · intro i name hint hrule
      cases Metadata.pointsIn_of_plan hnumbered hplan _ hrule with
      | live hp h => exact hvisible h
    · intro e he
      obtain ⟨n, p, hp, hlog, hindex, -⟩ := Metadata.errorParameter_visible hnumbered hplan he
      rw [hindex]
      exact hvisible ⟨p, hp, .inl hlog⟩
  · obtain ⟨n, p, hp, hlog, hindex, -⟩ := Metadata.errorParameter_visible hnumbered hplan he
    exact ⟨n, hindex, World.not_isExcluded_of_dontLog hdescribe hp hlog⟩
  · intro home fuel pending base marks hint
    exact World.excludes_of_resolveHint

/-- A function with two excluded parameters; the last of them takes an exception. -/
def login : Function where
  name := "login"
  qualname := "login"
  module := .str "m"
  signature := { params := [
    { name := "user" },
    { name := "password"
      hint := some (.annotated (.ofKnown .str) [.note "secret", .dontLogValue]) },
    { name := "cause", hint := some (.annotated (.ofKnown .exception) [.dontLog]) }] }
  home := 0

/-- A world with a module and a function in it. -/
def loginWorld : World where
  objects := #[.module "m" [("login", .object 1 [.object])], .function login]

/-- What is described of the function. -/
def loginMetadata : Metadata where
  name := "login"
  parameters := [⟨0, "user", .any, false⟩, ⟨1, "password", .ofKnown .str, true⟩,
    ⟨2, "cause", .ofKnown .exception, true⟩]
  scopes := [⟨"m", .module, none⟩]

/-- The plan for the function. -/
def loginPlan : Plan where
  logger := "m"
  level := .debug
  message := "login {}"
  parameters := [.live 0 "user" .any]
  logResult := true

theorem logCall_hidden_login :
    loginWorld.describe (.object 1 [.object]) {} none {} = (.ok loginMetadata, {}) ∧
      loginMetadata.plan = .ok loginPlan ∧
      LogPoint.logCall .empty ⟨loginPlan, none, none⟩ (.recorder ["debug"] none)
          [.str "ada", .str "1815", .error (.known .valueError) [.str "boom"]] {} =
        LogPoint.logCall .empty ⟨loginPlan, none, none⟩ (.recorder ["debug"] none)
          [.str "ada", .str "1852", .none] {} := by
  have hdescribe : loginWorld.describe (.object 1 [.object]) {} none {} =
      (.ok loginMetadata, {}) := rfl
  have hplan : loginMetadata.plan = .ok loginPlan := rfl
  have hagree : ∀ i, i < loginMetadata.parameters.length →
      ¬ loginWorld.IsHidden (.object 1 [.object]) {} none i →
      [Value.str "ada", .str "1815", .error (.known .valueError) [.str "boom"]][i]? =
        [Value.str "ada", .str "1852", .none][i]? := by
    intro i hi hshown
    rcases i with _ | _ | _ | i
    · rfl
    · refine absurd ⟨⟨_, _, rfl, rfl, ⟨_, _, rfl, .inr ?_⟩⟩, .inl rfl⟩ hshown
      decide
    · refine absurd ⟨⟨_, _, rfl, rfl, ⟨_, _, rfl, .inl ?_⟩⟩, .inl rfl⟩ hshown
      decide
    · exact absurd hi (by simp [loginMetadata])
  exact ⟨hdescribe, hplan, (logCall_hidden hdescribe hplan hagree).1 _ _ _ _ _⟩

end LogPoint

end CallLog
