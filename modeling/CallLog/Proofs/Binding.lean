import CallLog.Proofs.Owner
import CallLog.Proofs.PlanCache.Events

/-!
# Loggers that are bound once

A logged function gets its plan and the logger for it when it is used first since the plans were
cleared, and keeps both until they are cleared again. So whether its calls are logged depends on the
threshold that was configured at that moment, and not on what is configured later.

The main statement is `binding_lasts`. It holds in all worlds that a program comes to by configuring
loggers, clearing plans and using logged functions, in any order, as long as the function gets its
plan whenever it is used.
-/

namespace CallLog

open LogPoint (Operation)

namespace World.Event

/-- The events before the first use of a logged function since the plans were cleared, if it was
used since. The last event comes first in the list, so an earlier use is looked for in the rest, and
wins over this one. -/
def beforeUse? (ref : Nat) : List World.Event → Option (List World.Event)
  | [] => none
  | .cleared :: _ => none
  | .used r :: before =>
    (beforeUse? ref before).or (if r = ref then some before else none)
  | _ :: before => beforeUse? ref before

end World.Event

/-! ## Log points with a threshold

A log point holds a logger, and the logger holds a threshold that is never changed. So all that can
be said about what is logged later is known when the log point is made: it is the number that the
plan's level is compared to. A logger for everything has threshold zero, which no level is below. -/

/-- A log point logs from a threshold on. -/
structure BoundPoint.LogsFrom (t : Nat) (b : BoundPoint) : Prop where
  /-- the logger is the one of the plan -/
  logger : b.logger = ⟨b.point.plan.logger, t⟩
  /-- what the plan asks for is logged if its level reaches the threshold, and only then -/
  isLogged_iff : ∀ op : Operation, op.isLogged b.point b.logger = true ↔
    op.isAsked b.point = true ∧ t ≤ b.point.plan.level.number
  /-- it is written then, unless logging it raises -/
  written : t ≤ b.point.plan.level.number → ∀ (op : Operation) (w w' : World),
    op.isAsked b.point = true → b.perform (some op) w = (.ok (), w') → b.Writes w w' (some op)
  /-- and else nothing is done -/
  silent : ¬ t ≤ b.point.plan.level.number → ∀ (op : Option Operation) (w : World),
    b.perform op w = (.ok (), w)

/-- A log point logs from the threshold of its logger on, if the logger has the name of the plan.
For what does not reach the threshold nothing is done at all. -/
theorem BoundPoint.logsFrom {t : Nat} {b : BoundPoint}
    (h : b.logger = ⟨b.point.plan.logger, t⟩) : b.LogsFrom t := by
  have hiff (op : Operation) : op.isLogged b.point b.logger = true ↔
      op.isAsked b.point = true ∧ t ≤ b.point.plan.level.number := by
    rw [Operation.isLogged, Bool.and_eq_true, h]
    exact and_congr_right fun _ => decide_eq_true_iff
  refine ⟨h, hiff, fun hle op w w' hasked hrun => ?_, fun hlt op w => ?_⟩
  · have hwrites := writes_of_ok hrun
    rwa [logged, Option.filter_some, if_pos ((hiff op).mpr ⟨hasked, hle⟩)] at hwrites
  · refine perform_of_not_logged ?_ w
    rw [logged, Option.filter_eq_none_iff]
    intro op _ hlogged
    exact hlt ((hiff op).mp hlogged).2

namespace LoggedFunction

open World (Event Runs Happens Spares lastConfigured? thresholdAfter)
open World.Event (beforeUse?)

variable {ref : Nat} {l l₀ : LoggedFunction} {start w w₁ w' : World} {h before : List Event}
  {e : Event} {b : BoundPoint}

/-! ## Binding

There are two ways to come by a log point. If the cache has no plan, one is made, and a new log
point with the threshold of the moment is bound for it; if the cache has a plan and the log point in
use was made for it, that is taken as it is. The stamps of plans tell the two apart: a plan that is
made after the plans were cleared has a stamp that no log point in use has. -/

/-- In a world the plan of a logged function is made and a log point is bound for it. -/
structure BoundIn (ref : Nat) (l : LoggedFunction) (w : World) (b : BoundPoint) : Prop where
  logged : w.object? ref = some (.logged l)
  /-- there was no plan -/
  missing : w.cache.find? ref = none
  described : ∃ m, l.IsDescribed ref w m ∧ m.plan = .ok b.point.plan
  /-- the plan is none of those that were made before -/
  stamp : w.cache.fresh ≤ b.stamp
  bound : ∃ w₁, l.bound ref w = (.ok b, w₁)
  /-- the logger takes the threshold that is configured now -/
  logger : b.logger = ⟨b.point.plan.logger, w.journal.threshold⟩

/-- A log point logs from the level on that was configured last in some events. -/
structure LogsAsConfigured (start : World) (before : List Event) (b : BoundPoint) : Prop where
  /-- everything is logged if that is `trace`, and else what reaches its number -/
  configured : ∀ level, lastConfigured? before = some level →
    b.LogsFrom (if level = .trace then 0 else level.number)
  /-- if no level was configured, the threshold at the start counts -/
  unconfigured : lastConfigured? before = none → b.LogsFrom start.journal.threshold

/-- A log point keeps the threshold that was configured when it was bound. What is configured is a
level, and `trace` stands for a threshold that lets everything through. -/
theorem BoundIn.logs (hb : BoundIn ref l w b) (hruns : Runs start before w) :
    LogsAsConfigured start before b := by
  have hlogs := BoundPoint.logsFrom hb.logger
  rw [hruns.threshold, thresholdAfter] at hlogs
  refine ⟨fun level hlevel => ?_, fun hnone => ?_⟩
  · have hthreshold : level.threshold = if level = .trace then 0 else level.number := by
      cases level <;> rfl
    rw [hlevel] at hlogs
    rwa [← hthreshold]
  · rw [hnone] at hlogs
    exact hlogs

/-- The log point of a logged function has the plan that is kept for it. -/
structure Serves (ref : Nat) (w : World) (b : BoundPoint) : Prop where
  plan : ∃ p, w.cache.find? ref = some p ∧ p.stamp = b.stamp ∧ p.plan = b.point.plan
  current : ∀ l, w.object? ref = some (.logged l) → l.current = some b

/-- While the log point in use has the plan that is kept, a use changes nothing. -/
theorem Serves.bound (hb : Serves ref w b) (hl : w.object? ref = some (.logged l)) :
    l.bound ref w = (.ok b, w) := by
  obtain ⟨p, hp, hstamp, -⟩ := hb.plan
  rw [LoggedFunction.bound, Action.bind_of_ok (PlanCache.fetch_of_some hp), hb.current l hl]
  dsimp only
  rw [if_pos hstamp.symm]
  rfl

/-- Without a plan a use makes one, and binds a log point for it. The log point in use cannot be
taken, since its stamp is one of those that were given before. -/
theorem boundIn_of_missing (hl : w.object? ref = some (.logged l))
    (hmissing : w.cache.find? ref = none)
    (hstale : ∀ b, l.current = some b → b.stamp < w.cache.fresh)
    (hbound : l.bound ref w = (.ok b, w₁)) : BoundIn ref l w b ∧ Serves ref w₁ b := by
  have hholds := holds_of_bound hbound
  generalize houtcome : (Except.ok b : Except Raised BoundPoint) = outcome at hholds
  -- the plan is new, so that no log point can be for it already
  have hnew {p : StampedPlan} {u : World} (hfetched : Fetched ref l w (.ok p) u) :
      Makes ref l w (.ok p) u p := by
    rcases hfetched.here with ⟨-, hresult⟩ | ⟨q, hmakes⟩
    · cases hmissing.symm.trans (hresult p rfl)
    · rwa [← hmakes.result p rfl] at hmakes
  cases hholds with
  | failed => cases houtcome
  | @current p c _ hfetched hc hstamp =>
    have hfresh := (hnew hfetched).stamp.1
    have hold := hstale c hc
    omega
  | @renewed p u hfetched hother =>
    obtain rfl := Except.ok.inj houtcome
    have hmakes := hnew hfetched
    have hlogger : u.journal.threshold = w.journal.threshold := hfetched.kept.journal.threshold
    refine ⟨⟨hl, hmissing, hmakes.described, hmakes.stamp.1, ⟨_, hbound⟩, ?_⟩,
      ⟨⟨p, hfetched.find?_of_ok, rfl, rfl⟩, ?_⟩⟩
    · rw [← hlogger]
      rfl
    · intro l' hl'
      have hput := World.object?_put_self ((hfetched.kept.object? ref).trans hl)
        (.logged { l with current := some (l.pointFor p u.journal) })
      rw [← Object.logged.inj (Option.some.inj (hput.symm.trans hl'))]

/-- A log point goes on serving as long as neither the plan nor the logged function is touched. -/
theorem Serves.spared (hb : Serves ref w b) (hspares : Spares ref w w') : Serves ref w' b := by
  obtain ⟨p, hp, hstamp, hplan⟩ := hb.plan
  refine ⟨⟨p, hspares.plan.trans hp, hstamp, hplan⟩, fun l' hl' => ?_⟩
  obtain ⟨l, hl, hcurrent⟩ := hspares.current l' hl'
  exact hcurrent.trans (hb.current l hl)

/-! ## What is known after some events

The invariant says, for a world that some events have led to, which log point is in use: none if the
function was not used since the plans were cleared, and else the one that was bound at the first
use. For an event there are three cases. It is a use of the function, it clears the plans, or it has
nothing to do with this function, like the uses of all others. -/

/-- A log point was bound at the use that comes after some of the events. -/
def WasBound (ref : Nat) (start : World) (h before : List Event) (w : World) (b : BoundPoint) :
    Prop :=
  ∃ v l after, h = after ++ .used ref :: before ∧ Runs start before v ∧
    Runs v (after ++ [.used ref]) w ∧ BoundIn ref l v b

/-- What was bound stays bound in the past, however the events go on. -/
theorem WasBound.event (hb : WasBound ref start h before w b) (he : Happens e w w') :
    WasBound ref start (e :: h) before w' b := by
  obtain ⟨v, l, after, rfl, hv, hw, hbound⟩ := hb
  exact ⟨v, l, e :: after, rfl, hv, hw.event he, hbound⟩

/-- What is known of the log point of a logged function after some events. -/
structure Known (ref : Nat) (start : World) (h : List Event) (w : World) : Prop where
  /-- without a use there is no plan -/
  missing : beforeUse? ref h = none → w.cache.find? ref = none
  /-- the log point that was bound at the first use serves since -/
  serves : ∀ before, beforeUse? ref h = some before →
    ∃ b, Serves ref w b ∧ WasBound ref start h before w b

/-- Events that do not concern the plan leave what is known as it is. -/
theorem Known.spared (hw : Known ref start h w) (he : Happens e w w') (hspares : Spares ref w w')
    (hbefore : beforeUse? ref (e :: h) = beforeUse? ref h) : Known ref start (e :: h) w' := by
  refine ⟨fun hnone => ?_, fun before hsome => ?_⟩
  · rw [hspares.plan]
    exact hw.missing (hbefore ▸ hnone)
  · obtain ⟨b, hserves, hbound⟩ := hw.serves before (hbefore ▸ hsome)
    exact ⟨b, hserves.spared hspares, hbound.event he⟩

/-- After a use the log point serves that was bound by it, or before. -/
theorem Known.used (hw : Known ref start h w) (hruns : Runs start h w)
    (hl : w.object? ref = some (.logged l))
    (hstale : ∀ b, l.current = some b → b.stamp < w.cache.fresh)
    (hbound : l.bound ref w = (.ok b, w')) : Known ref start (.used ref :: h) w' := by
  have he : Happens (.used ref) w w' := .used hl hbound
  obtain ⟨before, hnow, b, hserves, hwas⟩ : ∃ before,
      beforeUse? ref (.used ref :: h) = some before ∧
        ∃ b, Serves ref w' b ∧ WasBound ref start (.used ref :: h) before w' b := by
    rcases hbefore : beforeUse? ref h with _ | before
    · obtain ⟨hin, hserves⟩ := boundIn_of_missing hl (hw.missing hbefore) hstale hbound
      refine ⟨h, ?_, b, hserves, w, l, [], rfl, hruns, .event .start he, hin⟩
      rw [beforeUse?, hbefore, if_pos rfl]
      rfl
    · obtain ⟨c, hserves, hwas⟩ := hw.serves before hbefore
      have hsame := hserves.bound hl
      rw [hbound] at hsame
      obtain ⟨-, rfl⟩ := Prod.mk.inj hsame
      refine ⟨before, ?_, c, hserves, hwas.event he⟩
      rw [beforeUse?, hbefore]
      rfl
  refine ⟨fun hnone => ?_, fun before' hsome => ?_⟩
  · cases hnow.symm.trans hnone
  · obtain rfl := Option.some.inj (hnow.symm.trans hsome)
    exact ⟨b, hserves, hwas⟩

/-- **What is known is still known after an event**, unless the function is refused its plan. -/
theorem Known.event (hw : Known ref start h w) (hruns : Runs start h w)
    (hl : w.object? ref = some (.logged l))
    (hstale : ∀ b, l.current = some b → b.stamp < w.cache.fresh) (he : Happens e w w')
    (hne : e ≠ .refused ref) : Known ref start (e :: h) w' := by
  cases he with
  | configured level =>
    exact hw.spared (.configured w _) (.of_cache rfl (.refl w) fun l hl => ⟨l, hl, rfl⟩) rfl
  | cleared => exact ⟨fun _ => rfl, fun before hsome => by cases hsome⟩
  | @used r l' _ b _ hl' hbound =>
    by_cases hr : r = ref
    · subst hr
      obtain rfl := Object.logged.inj (Option.some.inj (hl.symm.trans hl'))
      exact hw.used hruns hl hstale hbound
    · refine hw.spared (.used hl' hbound) (.holds (Ne.symm hr) hl' (holds_of_bound hbound)) ?_
      rw [beforeUse?, if_neg hr, Option.or_none]
  | @refused r l' _ raised _ hl' hbound =>
    have hr : ref ≠ r := by
      rintro rfl
      exact hne rfl
    exact hw.spared (.refused hl' hbound) (.holds hr hl' (holds_of_bound hbound)) rfl
  | passed hquiet =>
    refine hw.spared (.passed hquiet) (.of_cache hquiet.cache hquiet.change.retains ?_) rfl
    exact fun l' hl' => ⟨l, hl, hquiet.current hl hl'⟩

/-- **What is known** holds after all events that do not refuse the function its plan. By induction
on the events, from the first one on. -/
theorem known_of_runs (hstart : start.IsUnplanned ref l₀) (hruns : Runs start h w)
    (hbuilds : ∀ e ∈ h, e ≠ .refused ref) : Known ref start h w := by
  induction hruns with
  | start => exact ⟨fun _ => hstart.missing, fun before hsome => by cases hsome⟩
  | event hw he ih =>
    obtain ⟨hne, hbuilds⟩ := List.forall_mem_cons.mp hbuilds
    obtain ⟨made, htracks⟩ := hw.tracks hstart
    obtain ⟨l, hl, -⟩ := htracks.retains.logged hstart.logged
    exact (ih hbuilds).event hw hl (fun b hb => (htracks.current l b hl hb).1) he hne

/-! ## The main statement -/

/-- The plan that is read from outside is the plan of the log point, and reading it is a use. -/
theorem plan_run (hl : w.object? ref = some (.logged l)) (hbound : l.bound ref w = (.ok b, w₁))
    (home : Nat) (path : Path) (line : List KnownClass)
    (hheld : Session.held home path w = (.ok (.object ref line), w)) :
    Session.plan home path w = (.ok b.point.plan, w₁) := by
  have hbehind : w.behind? (.object ref line) = some (.logged l) := hl
  rw [Session.plan, Action.bind_of_ok hheld, Action.bind_of_ok (Run.world_run w), hbehind]
  dsimp only
  rw [Action.bind_of_ok hbound]
  rfl

/-- What a use of a logged function does after some events. -/
structure UsedAfter (ref : Nat) (start : World) (h : List Event) (w : World) (l : LoggedFunction)
    (b : BoundPoint) (w₁ : World) : Prop where
  /-- the log point has the plan that is kept -/
  plan : ∃ p, w₁.cache.find? ref = some p ∧ p.stamp = b.stamp ∧ p.plan = b.point.plan
  /-- if this is the first use since the plans were cleared, it makes the plan and binds the log
  point -/
  first : beforeUse? ref h = none → BoundIn ref l w b
  /-- else it does nothing, and the log point is the one that was bound at the first use -/
  later : ∀ before, beforeUse? ref h = some before → w₁ = w ∧ WasBound ref start h before w b
  /-- it logs what reaches the level that was configured before the first use -/
  logs : LogsAsConfigured start ((beforeUse? ref h).getD h) b
  /-- a call is logged by this log point -/
  called : ∀ (arguments : Arguments) (call : Task World Value),
    l.intercept ref arguments call w = b.around (l.shownArguments w₁ arguments) call w₁
  /-- and the plan that is read is its plan -/
  read : ∀ home path line, Session.held home path w = (.ok (.object ref line), w) →
    Session.plan home path w = (.ok b.point.plan, w₁)

/-- The log point that is got hold of is the one that was bound at the first use. If there was a
use, it is still in use, and nothing is done; if not, this one is the first. -/
theorem usedAfter (hknown : Known ref start h w) (hruns : Runs start h w)
    (hl : w.object? ref = some (.logged l))
    (hstale : ∀ b, l.current = some b → b.stamp < w.cache.fresh)
    (hbound : l.bound ref w = (.ok b, w₁)) :
    UsedAfter ref start h w l b w₁ := by
  have hcalled (arguments : Arguments) (call : Task World Value) :
      l.intercept ref arguments call w = b.around (l.shownArguments w₁ arguments) call w₁ :=
    intercept_run hbound call
  have hread := plan_run hl hbound
  rcases hbefore : beforeUse? ref h with _ | before
  · obtain ⟨hin, hserves⟩ := boundIn_of_missing hl (hknown.missing hbefore) hstale hbound
    refine ⟨hserves.plan, fun _ => hin, fun before hsome => ?_, ?_, hcalled, hread⟩
    · cases hbefore.symm.trans hsome
    · rw [hbefore, Option.getD_none]
      exact hin.logs hruns
  · obtain ⟨c, hserves, hwas⟩ := hknown.serves before hbefore
    have hsame := hserves.bound hl
    rw [hbound] at hsame
    obtain ⟨hc, rfl⟩ := Prod.mk.inj hsame
    obtain rfl := Except.ok.inj hc
    refine ⟨hserves.plan, fun hnone => ?_, fun before' hsome => ?_, ?_, hcalled, hread⟩
    · cases hbefore.symm.trans hnone
    · obtain rfl := Option.some.inj (hbefore.symm.trans hsome)
      exact ⟨rfl, hwas⟩
    · obtain ⟨v, lv, after, -, hv, -, hin⟩ := hwas
      rw [hbefore, Option.getD_some]
      exact hin.logs hv

/-- How a logged function is used after some events. -/
structure Binding (ref : Nat) (start : World) (h : List Event) (w : World) (l : LoggedFunction) :
    Prop where
  /-- it gets its log point once it had one -/
  found : (beforeUse? ref h).isSome → ∃ b, l.bound ref w = (.ok b, w)
  used : ∀ b w₁, l.bound ref w = (.ok b, w₁) → UsedAfter ref start h w l b w₁
  /-- all that is called or awaited goes on with such events -/
  runs : ∀ depth request, (Evaluation.respondWithin depth request w).Maintains fun u =>
    ∃ after, Runs start (after ++ h) u

/-- **A logger is bound once**, when the logged function is used first since the plans were cleared,
and keeps the threshold of that moment. What is configured afterwards changes nothing about its
calls, until the plans are cleared and the function is used again. -/
theorem binding_lasts (hstart : start.IsUnplanned ref l₀) (hruns : Runs start h w)
    (hbuilds : ∀ e ∈ h, e ≠ .refused ref) (hl : w.object? ref = some (.logged l)) :
    Binding ref start h w l := by
  have hknown := known_of_runs hstart hruns hbuilds
  refine ⟨fun hsome => ?_, fun b w₁ hbound => ?_, fun depth request => ?_⟩
  · obtain ⟨before, hbefore⟩ := Option.isSome_iff_exists.mp hsome
    obtain ⟨b, hserves, -⟩ := hknown.serves before hbefore
    exact ⟨b, hserves.bound hl⟩
  · obtain ⟨made, htracks⟩ := hruns.tracks hstart
    exact usedAfter hknown hruns hl (fun b hb => (htracks.current l b hl hb).1) hbound
  · exact World.runs_respondWithin start h depth request w ⟨[], hruns⟩

/-- The world after loggers are configured for errors, the function is used, and loggers are
configured for everything. -/
def echoBound : World :=
  (Run.logging (Logger.configure .trace)
    (echo.bound 2 (Run.logging (Logger.configure .error) echoWorld).2).2).2

/-- Whether the log point of a logged function is below a level. -/
def isBelow (number ref : Nat) (w : World) : Bool :=
  match w.object? ref with
  | some (.logged l) =>
    match l.bound ref w with
    | (.ok b, _) => b.point.plan.level.number < number
    | _ => false
  | _ => false

/-- The logger that was bound for errors does not take the calls, though others would by now. -/
theorem binding_lasts_echo :
    echoWorld.IsUnplanned 2 echo ∧
      Runs echoWorld [.configured .trace, .used 2, .configured .error] echoBound ∧
      (∀ e ∈ [Event.configured .trace, .used 2, .configured .error], e ≠ .refused 2) ∧
      ∃ l, echoBound.object? 2 = some (.logged l) ∧
        Binding 2 echoWorld [.configured .trace, .used 2, .configured .error] echoBound l ∧
        ∃ b, l.bound 2 echoBound = (.ok b, echoBound) ∧ ∀ op w, b.perform op w = (.ok (), w) := by
  have hstart : echoWorld.IsUnplanned 2 echo := ⟨rfl, rfl, rfl, fun b hb => by cases hb⟩
  have hruns : Runs echoWorld [.configured .trace, .used 2, .configured .error] echoBound := by
    have hok : (echo.bound 2 (Run.logging (Logger.configure .error) echoWorld).2).1.isOk =
        true := by decide +kernel
    rw [echoBound]
    rcases hbound : echo.bound 2 (Run.logging (Logger.configure .error) echoWorld).2 with
      ⟨r | b, w⟩
    · rw [hbound] at hok
      cases hok
    · exact ((Runs.start.event (.configured _ .error)).event (.used rfl hbound)).event
        (.configured _ .trace)
  have hbuilds : ∀ e ∈ [Event.configured .trace, .used 2, .configured .error],
      e ≠ .refused 2 := by
    simp
  obtain ⟨made, htracks⟩ := hruns.tracks hstart
  obtain ⟨l, hl, -⟩ := htracks.retains.logged hstart.logged
  have hbinding := binding_lasts hstart hruns hbuilds hl
  obtain ⟨b, hbound⟩ := hbinding.found rfl
  refine ⟨hstart, hruns, hbuilds, l, hl, hbinding, b, hbound, ?_⟩
  have hlevel : isBelow 40 2 echoBound = true := by decide +kernel
  simp only [isBelow, hl, hbound] at hlevel
  have hlow : ¬ 40 ≤ b.point.plan.level.number := Nat.not_le.mpr (of_decide_eq_true hlevel)
  exact ((hbinding.used b echoBound hbound).logs.configured .error rfl).silent hlow

end LoggedFunction

end CallLog
