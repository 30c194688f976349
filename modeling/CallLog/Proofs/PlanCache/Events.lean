import CallLog.Proofs.PlanCache.Course
import CallLog.Session

/-!
# Events

What happens to plans and loggers in the course of a program: loggers are configured, plans are
cleared, and logged functions are used, in any order and with whatever programs do in between.
`World.Runs` tells how one world comes of another by such events, the latest first. Everything that
is called or awaited is such a run (`World.runs_respondWithin`), and the threshold for new loggers
is always the one that was configured last (`World.Runs.threshold`).
-/

namespace CallLog

namespace World

/-- What happens in the course of a program. -/
inductive Event where
  /-- the threshold for new loggers is set -/
  | configured (level : Level)
  /-- all plans are forgotten -/
  | cleared
  /-- a logged function is called or asked for its plan -/
  | used (r : Nat)
  /-- a logged function is called or asked for its plan, but does not get one -/
  | refused (r : Nat)
  /-- anything else -/
  | passed

/-- A change that leaves the plans, the log points in use and the threshold as they are. Most of
what programs do is of this kind, and is not told apart any further. -/
structure Quiet (w w' : World) : Prop where
  change : Change w w'
  cache : w'.cache = w.cache
  threshold : w'.journal.threshold = w.journal.threshold
  current : ∀ {r l l'}, w.object? r = some (.logged l) → w'.object? r = some (.logged l') →
    l'.current = l.current

/-- What an event does to a world. A logged function is used where its log point is got hold of;
what its call does besides are other events. -/
inductive Happens : Event → World → World → Prop where
  | configured (w : World) (level : Level) :
    Happens (.configured level) w (Run.logging (Logger.configure level) w).2
  | cleared (w : World) : Happens .cleared w (Session.clearPlans w).2
  | used {r : Nat} {l : LoggedFunction} {w w' : World} {b : BoundPoint}
    (hl : w.object? r = some (.logged l)) (h : l.bound r w = (.ok b, w')) :
    Happens (.used r) w w'
  | refused {r : Nat} {l : LoggedFunction} {w w' : World} {raised : Raised}
    (hl : w.object? r = some (.logged l)) (h : l.bound r w = (.error raised, w')) :
    Happens (.refused r) w w'
  | passed {w w' : World} (h : Quiet w w') : Happens .passed w w'

/-- A world comes of another one by some events, the latest first. -/
inductive Runs (start : World) : List Event → World → Prop where
  | start : Runs start [] start
  | event {h : List Event} {e : Event} {w w' : World} (hw : Runs start h w)
    (he : Happens e w w') : Runs start (e :: h) w'

variable {start u v w w' : World} {e : Event} {h before after : List Event}

/-! ## Changes are events

`World.Change` lists what programs do as it is needed to follow one plan. The events say a little
more, namely what a change does to the threshold, and they cover every change but one: that the
threshold becomes another one without being configured. -/

theorem Happens.change (he : Happens e w w') : Change w w' := by
  cases he with
  | configured level => exact .journal w _
  | cleared => exact .clear w
  | used hl hbound | refused hl hbound =>
    have hchange := Change.bound hl
    rwa [hbound] at hchange
  | passed hquiet => exact hquiet.change

/-- Such a run passes worlds of which the plan of a logged function is known. -/
theorem Runs.tracks {ref : Nat} {l : LoggedFunction} (hstart : start.IsUnplanned ref l)
    (hw : Runs start h w) : ∃ made, Tracks ref start made w := by
  obtain ⟨made, hpasses⟩ : ∃ made, Passes ref start made w := by
    induction hw with
    | start => exact ⟨none, .start⟩
    | event _ he ih =>
      obtain ⟨made, hpasses⟩ := ih
      exact ⟨_, hpasses.change he.change⟩
  exact ⟨made, hpasses.tracks hstart⟩

theorem Quiet.put {r : Nat} {old object : Object} (hold : w.object? r = some old)
    (hcore : object.core = old.core) (hlogged : ∀ l, old ≠ .logged l) :
    Quiet w (w.put r object) := by
  refine ⟨.put hold hcore hlogged, rfl, rfl, fun {t l l'} hl hl' => ?_⟩
  have hne : t ≠ r := by
    rintro rfl
    exact hlogged l (Option.some.inj (hold.symm.trans hl))
  rw [object?_put_ne hne, hl] at hl'
  rw [Object.logged.inj (Option.some.inj hl')]

theorem Quiet.push {object : Object} (hchange : Change w (w.push object)) :
    Quiet w (w.push object) := by
  refine ⟨hchange, rfl, rfl, fun {t l l'} hl hl' => ?_⟩
  rw [object?_push_of_lt (lt_size_of_object? hl), hl] at hl'
  rw [Object.logged.inj (Option.some.inj hl')]

theorem Quiet.attach (w : World) (owner : Class) (r : Nat) :
    Quiet w (Run.setOwner owner r w).2 := by
  have hcache : (Run.setOwner owner r w).2.cache = w.cache := by
    rcases setOwner_cases owner r w with h | ⟨l, hl, h⟩
    · rw [h]
    · rw [h]
      rfl
  refine ⟨.attach w owner r, hcache, Run.threshold_setOwner owner r w, fun {t l l'} hl hl' => ?_⟩
  obtain ⟨l'', hl'', hcurrent⟩ := (Spares.attach owner r w).current l' hl'
  rw [hl] at hl''
  obtain rfl := Object.logged.inj (Option.some.inj hl'')
  exact hcurrent

/-- **All that programs do are events**, if they do not configure loggers by other means. A change
that is neither clearing nor the use of a logged function is quiet. -/
theorem Change.exists_event (hchange : Change w w')
    (hthreshold : w'.journal.threshold = w.journal.threshold) : ∃ e, Happens e w w' := by
  cases hchange with
  | journal j =>
    refine ⟨.passed, .passed ⟨.journal w j, rfl, hthreshold, fun hl hl' => ?_⟩⟩
    rw [Object.logged.inj (Option.some.inj (hl.symm.trans hl'))]
  | push hobject => exact ⟨.passed, .passed (.push (.push w hobject))⟩
  | wrap hcurrent => exact ⟨.passed, .passed (.push (.wrap hcurrent))⟩
  | put hold hcore hlogged => exact ⟨.passed, .passed (.put hold hcore hlogged)⟩
  | @bound r l hl =>
    rcases hbound : l.bound r w with ⟨raised | b, w'⟩
    · exact ⟨.refused r, .refused hl hbound⟩
    · exact ⟨.used r, .used hl hbound⟩
  | attach owner r => exact ⟨.passed, .passed (.attach w owner r)⟩
  | clear => exact ⟨.cleared, .cleared w⟩

/-- **Calls are runs.** Everything that is called or awaited goes on with the events before it. -/
theorem runs_respondWithin (start : World) (before : List Event) (depth : Nat) :
    (Evaluation.respondWithin depth).Maintains fun w =>
      ∃ after, Runs start (after ++ before) w := by
  refine Evaluation.respondWithin_maintains ?_ depth
  rintro w w' hchange hthreshold ⟨after, hw⟩
  obtain ⟨e, he⟩ := hchange.exists_event hthreshold
  exact ⟨e :: after, hw.event he⟩

/-! ## The threshold

Only configuring touches the threshold for new loggers, so after some events it is told by the last
of them that did. -/

/-- The level that was configured last in some events, if one was. -/
def lastConfigured? : List Event → Option Level
  | [] => none
  | .configured level :: _ => some level
  | _ :: before => lastConfigured? before

/-- The threshold for new loggers after some events: the one at the start, as long as nothing was
configured. -/
def thresholdAfter (start : Nat) (before : List Event) : Nat :=
  (lastConfigured? before).elim start Level.threshold

theorem Happens.threshold (he : Happens e w w') (start : Nat) (before : List Event)
    (hw : w.journal.threshold = thresholdAfter start before) :
    w'.journal.threshold = thresholdAfter start (e :: before) := by
  cases he with
  | configured level => rfl
  | cleared => exact hw
  | @used r l _ b _ hl hbound | @refused r l _ raised _ hl hbound =>
    have hkept := l.threshold_bound r w
    rw [hbound] at hkept
    exact hkept.trans hw
  | passed hquiet => exact hquiet.threshold.trans hw

/-- **New loggers take the threshold that was configured last**, by induction on the events. -/
theorem Runs.threshold (hw : Runs start h w) :
    w.journal.threshold = thresholdAfter start.journal.threshold h := by
  induction hw with
  | start => rfl
  | event _ he ih => exact he.threshold _ _ ih

end World

end CallLog
