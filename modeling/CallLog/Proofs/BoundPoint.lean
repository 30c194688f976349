import CallLog.Interception
import CallLog.Proofs.Logger

/-!
# Getting hold of a log point

`LoggedFunction.bound` may build a plan, keep it in the shared cache, and put a new log point to
use. `Prepared` says what else it does to a world: reports are written, and that is all.
-/

namespace CallLog

/-! ## Reports

While a plan is built, the library reports on its work: that a plan was built, and that annotations
could not be resolved. These are records, so getting hold of a log point does change the journal.
They are kept apart from the records of calls by the loggers that write them. -/

/-- A journal has got reports, and nothing else. -/
def Journal.Reported (j j' : Journal) : Prop :=
  ∃ reports, (∀ r ∈ reports, Logger.IsReport r) ∧ j' = j.logged reports

theorem Journal.Reported.refl (j : Journal) : j.Reported j :=
  ⟨[], by simp, j.logged_nil.symm⟩

theorem Journal.Reported.trans {j k l : Journal} (hjk : j.Reported k) (hkl : k.Reported l) :
    j.Reported l := by
  obtain ⟨rs, hrs, rfl⟩ := hjk
  obtain ⟨ss, hss, rfl⟩ := hkl
  refine ⟨rs ++ ss, fun r hr => ?_, Journal.logged_logged j rs ss⟩
  rcases List.mem_append.mp hr with hr | hr
  · exact hrs r hr
  · exact hss r hr

theorem Journal.Reported.threshold {j j' : Journal} (h : j.Reported j') :
    j'.threshold = j.threshold := by
  obtain ⟨reports, -, rfl⟩ := h
  rfl

/-- A report writes one record or none; which of the two depends on what is bound around it. It is
not dropped, since its level reaches the threshold of the library's own loggers. -/
theorem Logger.reported_report (naming : Naming) (part : String) {method level : String}
    {number : Nat} (hmethod : method? method = some (.writes number level))
    (hnumber : Level.debug.number ≤ number) (event : String) {given : List (String × Value)}
    (hgiven : clash? ["self", "event"] given = none) (j : Journal) :
    j.Reported (report naming part method event given j).2 := by
  rw [report_run naming part hmethod hnumber event hgiven]
  rcases hreported : reported naming part level event j.bound given with f | r
  · exact .refl j
  · refine ⟨[r], ?_, rfl⟩
    intro r' hr'
    obtain rfl := List.mem_singleton.mp hr'
    exact ⟨_, _, _, _, _, _, hreported⟩

theorem Logger.reported_reportHandled (naming : Naming) (part : String) {method level : String}
    {number : Nat} (hmethod : method? method = some (.writes number level))
    (hnumber : Level.debug.number ≤ number) (event : String) {given : List (String × Value)}
    (hgiven : clash? ["self", "event"] given = none) (r : Raised) (j : Journal) :
    j.Reported (reportHandled naming part method event given r j).2 :=
  reported_report naming part hmethod hnumber event (clash?_handled (by decide) hgiven j.bound r) j

theorem Action.ofExcept_state {σ α : Type} (x : Except Fault α) (s : σ) :
    (ofExcept x s).2 = s := by
  rw [ofExcept_run]

namespace World

theorem object?_put_ne {t ref : Nat} (h : t ≠ ref) (object : Object) (w : World) :
    (w.put ref object).object? t = w.object? t :=
  Array.getElem?_setIfInBounds_ne h.symm

theorem object?_put_self {ref : Nat} {old : Object} {w : World} (h : w.object? ref = some old)
    (object : Object) : (w.put ref object).object? ref = some object := by
  obtain ⟨hlt, -⟩ := Array.getElem?_eq_some_iff.mp h
  exact Array.getElem?_setIfInBounds_self_of_lt hlt

/-- Describing a callable writes nothing but reports. It writes at most one, if evaluating the
annotations fails, and everything else that it does is looking things up. -/
theorem reported_describe (world : World) (func : Value) (config : Config)
    (owner : Option Class) (j : Journal) :
    j.Reported (world.describe func config owner j).2 := by
  have hpure {α : Type} (x : Except Fault α) (j : Journal) :
      j.Reported (Action.ofExcept x j).2 := by
    rw [Action.ofExcept_state]
    exact .refl j
  have hunresolved (target : Value) (f : Fault) (j : Journal) :
      j.Reported (world.reportUnresolved target f j).2 := by
    refine Action.bind_rel .trans (hpure _ j) fun display k _ => ?_
    refine Logger.reported_reportHandled _ _ rfl (by decide) _ ?_ _ k
    rw [Logger.clash?_eq_none_iff]
    simp
  rw [describe]
  split
  · exact hpure _ j
  · refine Action.bind_rel .trans (hpure _ j) fun signature k _ => ?_
    refine Action.bind_rel .trans ?_ fun hints k' _ => hpure _ k'
    rw [hintsOrReport]
    rcases world.typeHints world.depth (world.unwrap func) with f | hints
    · exact Action.bind_rel .trans (hunresolved _ f k) fun _ k' _ => .refl k'
    · exact .refl k

/-- A world has got reports, and its plan cache may have changed. This is what building a plan does
to a world, before the log point is put to use. -/
structure Kept (w w' : World) : Prop where
  objects : w'.objects = w.objects
  registered : w'.registered = w.registered
  journal : w.journal.Reported w'.journal

theorem Kept.refl (w : World) : w.Kept w :=
  ⟨rfl, rfl, .refl _⟩

theorem Kept.trans {u v w : World} (huv : u.Kept v) (hvw : v.Kept w) : u.Kept w :=
  ⟨hvw.objects.trans huv.objects, hvw.registered.trans huv.registered,
    huv.journal.trans hvw.journal⟩

theorem Kept.object? {w w' : World} (h : w.Kept w') (t : Nat) : w'.object? t = w.object? t := by
  rw [World.object?, h.objects]
  rfl

/-- A computation that only reports keeps a world. -/
theorem kept_logging {α : Type} {x : Logging α} {w : World}
    (h : w.journal.Reported (x w.journal).2) : w.Kept (Run.logging x w).2 :=
  ⟨rfl, rfl, h⟩

/-- A computation in the plan cache keeps a world. -/
theorem kept_cache (w : World) (cache : PlanCache Nat) : w.Kept (cachePart.write cache w) :=
  ⟨rfl, rfl, .refl _⟩

/-- Getting a plan from the shared cache keeps a world, if building it does. It holds for each way
through the cache: the plan is there, or it is built and stored, or building it fails. -/
theorem kept_fetch {factory : Run Plan} (hfactory : ∀ w : World, w.Kept (factory w).2) (key : Nat)
    (w : World) : w.Kept (PlanCache.fetch cachePart journalPart key factory w).2 := by
  have hbuild (w : World) :
      w.Kept (PlanCache.build cachePart journalPart key factory w).2 := by
    refine Action.bind_rel .trans (hfactory w) fun plan v _ => ?_
    refine Action.bind_rel .trans (kept_cache v _) fun stamped u _ => ?_
    refine Action.bind_rel .trans (kept_logging ?_) fun _ t _ => .refl t
    refine Logger.reported_report _ _ rfl (by decide) _ ?_ _
    rw [Logger.clash?_eq_none_iff]
    simp [PlanCache.builtFields]
  have hlocked (w : World) :
      w.Kept (PlanCache.buildUnlessThere cachePart journalPart key factory w).2 := by
    refine Action.bind_rel .trans (.refl w) fun cache v _ => ?_
    rcases cache.find? key with _ | stamped
    · exact hbuild v
    · exact .refl v
  rw [PlanCache.fetch]
  refine Action.bind_rel .trans (.refl w) fun cache v _ => ?_
  rcases cache.find? key with _ | stamped
  · dsimp only
    -- a lock that is held refuses; else the plan is built, and the lock is given back in any case
    split
    · exact .refl v
    · refine Action.bind_rel .trans (kept_cache v _) fun _ u _ => ?_
      exact (hlocked u).trans (kept_cache _ _)
  · exact .refl v

end World

namespace LoggedFunction

/-- A world after the log point of the logged function behind a reference was got hold of. -/
structure Prepared (ref : Nat) (l : LoggedFunction) (b : BoundPoint) (w w' : World) : Prop where
  journal : w.journal.Reported w'.journal
  registered : w'.registered = w.registered
  /-- only the logged function may have changed: the log point is in use now -/
  others : ∀ t, t ≠ ref → w'.object? t = w.object? t
  current : w.object? ref = some (.logged l) →
    w'.object? ref = some (.logged { l with current := some b })

theorem kept_buildPlan (l : LoggedFunction) (w : World) : w.Kept (l.buildPlan w).2 := by
  refine Action.bind_rel .trans (.refl w) fun world v _ => ?_
  refine Action.bind_rel .trans ?_ fun metadata u _ => ?_
  · exact World.kept_logging (World.reported_describe _ _ _ _ _)
  · rw [Action.ofExcept_state]
    exact .refl u

theorem Prepared.of_kept {ref : Nat} {l : LoggedFunction} {b : BoundPoint} {w w' : World}
    (h : w.Kept w') (hcurrent : l.current = some b) : Prepared ref l b w w' := by
  refine ⟨h.journal, h.registered, fun t _ => h.object? t, fun hl => ?_⟩
  rw [h.object?, hl, ← hcurrent]

/-- A log point that is made anew is put to use in the logged function, which is the only object
that is changed for it. -/
theorem prepared_rebind {ref : Nat} {l : LoggedFunction} {plan : StampedPlan} {b : BoundPoint}
    {w v v' : World} (h : w.Kept v) (hrebind : l.rebind ref plan v = (.ok b, v')) :
    Prepared ref l b w v' := by
  obtain ⟨logger, u, hmake, hrebind⟩ := Action.bind_eq_ok hrebind
  obtain ⟨-, rfl⟩ := Prod.mk.inj hmake
  obtain ⟨_, t, hchange, hpure⟩ := Action.bind_eq_ok hrebind
  obtain ⟨-, rfl⟩ := Prod.mk.inj hchange
  obtain ⟨hb, rfl⟩ := Prod.mk.inj hpure
  obtain rfl := Except.ok.inj hb
  refine ⟨h.journal, h.registered, fun t ht => ?_, fun hl => ?_⟩
  · exact (World.object?_put_ne ht _ v).trans (h.object? t)
  · exact World.object?_put_self ((h.object? ref).trans hl) _

/-- **Getting hold of a log point** prepares the world for it. Either the log point in use fits the
plan in the cache, and the world is as it was after the plan was fetched, or a new one is put to
use. -/
theorem bound_prepared {ref : Nat} {l : LoggedFunction} {b : BoundPoint} {w w' : World}
    (h : l.bound ref w = (.ok b, w')) : Prepared ref l b w w' := by
  obtain ⟨plan, v, hfetch, h⟩ := Action.bind_eq_ok h
  have hkept : w.Kept v := by
    have hfetched := World.kept_fetch l.kept_buildPlan ref w
    rwa [hfetch] at hfetched
  -- the log point in use serves as long as it has the stamp of the plan
  rcases hcurrent : l.current with _ | current
  · rw [hcurrent] at h
    exact prepared_rebind hkept h
  · rw [hcurrent] at h
    by_cases hstamp : current.stamp = plan.stamp
    · simp only [if_pos hstamp] at h
      obtain ⟨hb, rfl⟩ := Prod.mk.inj h
      obtain rfl := Except.ok.inj hb
      exact .of_kept hkept hcurrent
    · simp only [if_neg hstamp] at h
      exact prepared_rebind hkept h

/-- Getting hold of a log point does not configure loggers. -/
theorem threshold_bound (l : LoggedFunction) (ref : Nat) (w : World) :
    (l.bound ref w).2.journal.threshold = w.journal.threshold := by
  have hkept := World.kept_fetch l.kept_buildPlan ref w
  rcases hfetch : PlanCache.fetch World.cachePart World.journalPart ref l.buildPlan w with
    ⟨r | plan, v⟩
  · rw [hfetch] at hkept
    rw [bound, Action.bind_of_error hfetch]
    exact hkept.journal.threshold
  · rw [hfetch] at hkept
    rw [bound, Action.bind_of_ok hfetch]
    -- making a log point changes the logged function only
    have hrebind : (l.rebind ref plan v).2.journal = v.journal := rfl
    rcases l.current with _ | current
    · exact (congrArg Journal.threshold hrebind).trans hkept.journal.threshold
    · dsimp only
      split
      · exact hkept.journal.threshold
      · exact (congrArg Journal.threshold hrebind).trans hkept.journal.threshold

end LoggedFunction

end CallLog
