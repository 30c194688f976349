import CallLog.Proofs.Description
import CallLog.Proofs.Evaluation
import CallLog.Proofs.PlanCache.Fetch

/-!
# The shared plan cache

What getting hold of the log point of a logged function does to the plan cache of a world. It only
concerns the plan of that function: the plan is the one that is kept, or it is described and made
while the lock for it is held (`fetched`). `Renewed` says when a log point is made for it, and
`bound_run` that this is all that happens.
-/

namespace CallLog

namespace World

/-- The world while the lock for a key is held. Plans are made in it. -/
def locked (key : Nat) (w : World) : World :=
  cachePart.write (w.cache.acquire key) w

theorem isLawful_cachePart : cachePart.IsLawful :=
  fun _ _ => rfl

end World

namespace LoggedFunction

open PlanCache (fetch)

variable {ref : Nat} {l : LoggedFunction} {w : World}

/-- What a logged function is described as where its plan is made. Describing may write to the
journal, so there is a journal after it. -/
def IsDescribed (ref : Nat) (l : LoggedFunction) (w : World) (m : Metadata) : Prop :=
  ∃ j, (w.locked ref).describe l.func l.interceptor.config l.owner w.journal = (.ok m, j)

/-- Making a plan changes nothing but what is logged: it is reported if the annotations cannot be
resolved. -/
theorem buildPlan_run (l : LoggedFunction) (w : World) :
    ∃ j, (l.buildPlan w).2 = { w with journal := j } := by
  rw [buildPlan, Action.bind_of_ok (Run.world_run w)]
  rcases hdescribe : w.describe l.func l.interceptor.config l.owner w.journal with ⟨r | m, j⟩
  · have hlogging : Run.logging (w.describe l.func l.interceptor.config l.owner) w =
        (.error r, { w with journal := j }) := by
      rw [Run.logging, Part.lift]
      exact congrArg (fun x : _ × Journal => (x.1, { w with journal := x.2 })) hdescribe
    exact ⟨j, by rw [Action.bind_of_error hlogging]⟩
  · have hlogging : Run.logging (w.describe l.func l.interceptor.config l.owner) w =
        (.ok m, { w with journal := j }) := by
      rw [Run.logging, Part.lift]
      exact congrArg (fun x : _ × Journal => (x.1, { w with journal := x.2 })) hdescribe
    exact ⟨j, by rw [Action.bind_of_ok hlogging, Action.ofExcept_state]⟩

theorem buildPlan_eq_ok {plan : Plan} {w' : World}
    (h : l.buildPlan (w.locked ref) = (.ok plan, w')) :
    ∃ m, l.IsDescribed ref w m ∧ m.plan = .ok plan := by
  obtain ⟨u, v, hworld, h⟩ := Action.bind_eq_ok h
  obtain ⟨hu, rfl⟩ := Prod.mk.inj hworld
  obtain rfl := Except.ok.inj hu
  obtain ⟨m, t, hdescribe, h⟩ := Action.bind_eq_ok h
  obtain ⟨hm, -⟩ := Prod.mk.inj hdescribe
  refine ⟨m, ⟨_, Prod.ext hm rfl⟩, ?_⟩
  exact (World.ofExcept_eq_ok h).1

/-! ## Fetching

A plan is fetched for one key, under its lock. The others are left as they are, and no lock stays
behind, also where the plan cannot be made. -/

/-- A plan is made for a key that has none. It is stored before it is reported, so it is there even
where the report fails and the fetch with it. -/
structure Makes (ref : Nat) (l : LoggedFunction) (w : World) (outcome : Except Raised StampedPlan)
    (w' : World) (p : StampedPlan) : Prop where
  missing : w.cache.find? ref = none
  described : ∃ m, l.IsDescribed ref w m ∧ m.plan = .ok p.plan
  stored : w'.cache.find? ref = some p
  /-- the stamp is one that no plan had before -/
  stamp : w.cache.fresh ≤ p.stamp ∧ p.stamp < w'.cache.fresh
  /-- it is the result, if it can be reported -/
  result : ∀ q, outcome = .ok q → q = p

/-- What getting a plan from the shared cache does. -/
structure Fetched (ref : Nat) (l : LoggedFunction) (w : World) (outcome : Except Raised StampedPlan)
    (w' : World) : Prop where
  kept : w.Kept w'
  /-- other plans stay as they are -/
  others : ∀ key, key ≠ ref → w'.cache.find? key = w.cache.find? key
  /-- no lock is held afterwards that was not held before -/
  locks : ∀ key, w.cache.isHeld key = false → w'.cache.isHeld key = false
  fresh : w.cache.fresh ≤ w'.cache.fresh
  /-- the plan is the one that is kept, or it is made -/
  here : (w'.cache.find? ref = w.cache.find? ref ∧
      ∀ p, outcome = .ok p → w.cache.find? ref = some p) ∨
    ∃ p, Makes ref l w outcome w' p

end LoggedFunction

namespace PlanCache

variable {κ : Type} [DecidableEq κ]

/-- A lock that is given back is not held, and no other one is held because of it. Locks are given
back by their numbers, and not by their keys. -/
theorem isHeld_release_of_acquire {cache taken : PlanCache κ} {key other : κ}
    (htaken : taken.held = (cache.acquire key).held) (h : cache.isHeld other = false) :
    (taken.release cache.fresh).isHeld other = false := by
  rw [← Bool.not_eq_true, isHeld_eq_true_iff] at h ⊢
  rw [release, htaken]
  intro hmem
  obtain ⟨lock, hlock, rfl⟩ := List.mem_map.mp hmem
  obtain ⟨hlock, hnumber⟩ := List.mem_filter.mp hlock
  rcases List.mem_cons.mp hlock with rfl | hlock
  · simp at hnumber
  · exact h (List.mem_map_of_mem hlock)

end PlanCache

namespace LoggedFunction

open PlanCache (fetch fetch_of_some fetch_of_held fetch_of_free build_of_error build_told
  find?_insert isHeld_release_of_acquire)

variable {ref : Nat} {l : LoggedFunction} {w : World}

/-- A plan that is made is kept, with the next stamp. -/
theorem fetched_of_buildPlan (hfind : w.cache.find? ref = none)
    (hheld : w.cache.isHeld ref = false) {plan : Plan} {u : World}
    (hbuild : l.buildPlan (w.locked ref) = (.ok plan, u)) {outcome : Except Raised StampedPlan}
    {w' : World}
    (h : fetch World.cachePart World.journalPart ref l.buildPlan w = (outcome, w')) :
    Fetched ref l w outcome w' := by
  have hkept : w.Kept w' := by
    have hkept := World.kept_fetch l.kept_buildPlan ref w
    rwa [h] at hkept
  obtain ⟨j, hj⟩ := buildPlan_run l (w.locked ref)
  rw [hbuild] at hj
  obtain rfl : u = _ := hj
  let p : StampedPlan := ⟨w.cache.fresh + 1, plan⟩
  let stored : World := World.cachePart.write { (w.cache.acquire ref).insert ref p with
    fresh := w.cache.fresh + 2 } { w.locked ref with journal := j }
  rcases hreport : PlanCache.reportBuilt plan (World.journalPart.read stored) with ⟨told, k⟩
  have hrun := fetch_of_free World.isLawful_cachePart hfind hheld
    (build_told hbuild (show stored = _ from rfl) hreport)
  rw [h] at hrun
  obtain ⟨houtcome, hw'⟩ := Prod.mk.inj hrun
  have hfresh : w'.cache.fresh = w.cache.fresh + 2 := by
    rw [hw']
    rfl
  have hplans (key : Nat) :
      w'.cache.find? key = if key = ref then some p else w.cache.find? key := by
    rw [hw']
    exact find?_insert (w.cache.acquire ref) ref key p
  refine ⟨hkept, fun key hkey => ?_, fun key hkey => ?_, by omega,
    .inr ⟨p, hfind, buildPlan_eq_ok hbuild, ?_, ⟨Nat.le_succ _, ?_⟩, fun q hq => ?_⟩⟩
  · rw [hplans, if_neg hkey]
  · rw [hw']
    exact isHeld_release_of_acquire rfl hkey
  · rw [hplans, if_pos rfl]
  · rw [hfresh]
    exact Nat.lt_succ_self _
  · rw [houtcome] at hq
    rcases told with r | ⟨⟩
    · cases hq
    · exact (Except.ok.inj hq).symm

/-- **A plan is fetched** from the shared cache. It is kept already, or its lock is held, or it is
made; in the last case making it may fail. -/
theorem fetched {outcome : Except Raised StampedPlan} {w' : World}
    (h : fetch World.cachePart World.journalPart ref l.buildPlan w = (outcome, w')) :
    Fetched ref l w outcome w' := by
  have hkept : w.Kept w' := by
    have hkept := World.kept_fetch l.kept_buildPlan ref w
    rwa [h] at hkept
  rcases hfind : w.cache.find? ref with _ | p
  · rcases hheld : w.cache.isHeld ref with _ | _
    · rcases hbuild : l.buildPlan (w.locked ref) with ⟨r | plan, u⟩
      · obtain ⟨j, hj⟩ := buildPlan_run l (w.locked ref)
        rw [hbuild] at hj
        obtain rfl : u = _ := hj
        rw [fetch_of_free World.isLawful_cachePart hfind hheld (build_of_error hbuild)] at h
        obtain ⟨rfl, rfl⟩ := Prod.mk.inj h
        exact {
          kept := hkept
          others := fun key _ => rfl
          locks := fun key => isHeld_release_of_acquire rfl
          fresh := Nat.le_succ _
          here := .inl ⟨rfl, fun p hp => by cases hp⟩ }
      · exact fetched_of_buildPlan hfind hheld hbuild h
    · rw [fetch_of_held hfind hheld] at h
      obtain ⟨rfl, rfl⟩ := Prod.mk.inj h
      exact ⟨hkept, fun _ _ => rfl, fun _ h => h, Nat.le_refl _,
        .inl ⟨rfl, fun p hp => by cases hp⟩⟩
  · rw [fetch_of_some hfind] at h
    obtain ⟨rfl, rfl⟩ := Prod.mk.inj h
    refine ⟨hkept, fun _ _ => rfl, fun _ h => h, Nat.le_refl _, .inl ⟨rfl, fun q hq => ?_⟩⟩
    rw [hfind, Except.ok.inj hq]

/-- The plan that is fetched is the one that is kept afterwards. -/
theorem Fetched.find?_of_ok {p : StampedPlan} {w' : World} (h : Fetched ref l w (.ok p) w') :
    w'.cache.find? ref = some p := by
  rcases h.here with ⟨hsame, hresult⟩ | ⟨q, hmakes⟩
  · rw [hsame, hresult p rfl]
  · rw [hmakes.stored, hmakes.result p rfl]

/-! ## Log points

A logged function has a log point in use, made for some plan. It is used again as long as the plan
that is fetched has the same stamp. -/

/-- The log point for a plan, with the logger that is made now. The threshold of the logger is the
one of this moment, and it stays what it is. -/
def pointFor (l : LoggedFunction) (p : StampedPlan) (j : Journal) : BoundPoint :=
  ⟨p.stamp, ⟨p.plan, l.interceptor.converters, l.interceptor.providers⟩,
    ⟨p.plan.logger, j.threshold⟩⟩

/-- How the log point of a logged function is got hold of. -/
inductive Holds (ref : Nat) (l : LoggedFunction) (w : World) :
    Except Raised BoundPoint → World → Prop where
  /-- there is no plan -/
  | failed {r : Raised} {w' : World} (h : Fetched ref l w (.error r) w') :
      Holds ref l w (.error r) w'
  /-- the log point in use is for the plan -/
  | current {p : StampedPlan} {b : BoundPoint} {w' : World} (h : Fetched ref l w (.ok p) w')
      (hb : l.current = some b) (hstamp : b.stamp = p.stamp) : Holds ref l w (.ok b) w'
  /-- the log point in use is for another plan, if there is one -/
  | renewed {p : StampedPlan} {w' : World} (h : Fetched ref l w (.ok p) w')
      (hother : ∀ b, l.current = some b → b.stamp ≠ p.stamp) :
      Holds ref l w (.ok (l.pointFor p w'.journal))
        (w'.put ref (.logged { l with current := some (l.pointFor p w'.journal) }))

/-- **The log point in use** is kept as long as its plan is, and else renewed. -/
theorem bound_holds (ref : Nat) (l : LoggedFunction) (w : World) :
    Holds ref l w (l.bound ref w).1 (l.bound ref w).2 := by
  rcases hfetch : fetch World.cachePart World.journalPart ref l.buildPlan w with ⟨r | p, w'⟩
  · rw [bound, Action.bind_of_error hfetch]
    exact .failed (fetched hfetch)
  · have hrebind : l.rebind ref p w' = (.ok (l.pointFor p w'.journal),
        w'.put ref (.logged { l with current := some (l.pointFor p w'.journal) })) := rfl
    rw [bound, Action.bind_of_ok hfetch]
    rcases hcurrent : l.current with _ | b
    · dsimp only
      rw [hrebind]
      exact .renewed (fetched hfetch) fun b hb => by rw [hcurrent] at hb; cases hb
    · dsimp only
      by_cases hstamp : b.stamp = p.stamp
      · rw [if_pos hstamp]
        exact .current (fetched hfetch) hcurrent hstamp
      · rw [if_neg hstamp, hrebind]
        refine .renewed (fetched hfetch) fun c hc => ?_
        obtain rfl := Option.some.inj (hcurrent.symm.trans hc)
        exact hstamp

theorem holds_of_bound {outcome : Except Raised BoundPoint} {w' : World}
    (h : l.bound ref w = (outcome, w')) : Holds ref l w outcome w' := by
  have hholds := bound_holds ref l w
  rwa [h] at hholds

end LoggedFunction

end CallLog
