import CallLog.Proofs.Change
import CallLog.Proofs.PlanCache.Shared

/-!
# Plans in the course of a program

`World.Passes` describes the worlds that a program passes, each with the world in which the plan was
made that is kept there for a logged function. A program may do there whatever `World.Change` lists,
in any order. `World.Tracks` is what is known of the plan. It holds after each change
(`Tracks.step`), and so in all worlds that the program passes (`Passes.tracks`).
-/

namespace CallLog

namespace World

variable {ref : Nat} {start u v w w' : World}

/-! ## Later worlds

A later world retains what an earlier one has: its objects are there, with all that is fixed of
them. So what was known of a logged function when its plan was made can be said of it later. -/

theorem retains_put {r : Nat} {old object : Object} (hold : w.object? r = some old)
    (hcore : object.core = old.core) : w.Retains (w.put r object) := by
  intro t o ho
  by_cases ht : t = r
  · subst ht
    obtain rfl := Option.some.inj (hold.symm.trans ho)
    exact ⟨object, object?_put_self hold object, hcore⟩
  · exact ⟨o, (object?_put_ne ht object w).trans ho, rfl⟩

theorem Kept.retains (h : w.Kept w') : w.Retains w' :=
  fun t object ht => ⟨object, (h.object? t).trans ht, rfl⟩

theorem setOwner_cases (owner : Class) (r : Nat) (w : World) :
    (Run.setOwner owner r w).2 = w ∨ ∃ l, w.object? r = some (.logged l) ∧
      (Run.setOwner owner r w).2 = w.put r (.logged { l with owner := some owner }) := by
  rw [Run.setOwner, Action.bind_of_ok (Run.world_run w)]
  rcases hr : w.object? r with _ | object
  · exact .inl rfl
  · cases object with
    | logged l => exact .inr ⟨l, rfl, rfl⟩
    | _ => exact .inl rfl

/-- A log point that is got hold of is put to use, and that is all that objects see of it. -/
theorem retains_of_holds {r : Nat} {l : LoggedFunction} (hl : w.object? r = some (.logged l))
    {outcome : Except Raised BoundPoint} (h : LoggedFunction.Holds r l w outcome w') :
    w.Retains w' := by
  cases h with
  | failed h => exact h.kept.retains
  | current h => exact h.kept.retains
  | renewed h =>
    refine h.kept.retains.trans (retains_put ((h.kept.object? r).trans hl) ?_)
    rfl

/-- **Nothing is lost** by what programs do, change by change: objects are added, put back with the
same core, or left alone. -/
theorem Change.retains (h : Change w w') : w.Retains w' := by
  cases h with
  | journal => exact .refl w
  | push | wrap => exact retains_push w _
  | put hold hcore => exact retains_put hold hcore
  | bound hl => exact retains_of_holds hl (LoggedFunction.bound_holds _ _ w)
  | attach owner r =>
    rcases setOwner_cases owner r w with h | ⟨l, hl, h⟩
    · rw [h]
      exact .refl w
    · rw [h]
      exact retains_put hl rfl
  | clear => exact .refl w

/-! ## The worlds that a program passes

The world in which a plan was made cannot be read off a later world. It is carried along instead,
and replaced when a plan is there that was not there before. -/

/-- The world in which the plan that is kept for a logged function was made, after one change; the
option is the world in which the one was made that was kept before. A change makes one plan at most,
and it makes it in the world that it begins in. -/
def madeAfter (ref : Nat) (made : Option World) (w w' : World) : Option World :=
  match w'.cache.find? ref with
  | none => none
  | some _ => if (w.cache.find? ref).isSome then made else some w

theorem madeAfter_of_missing {made : Option World} (h : w.cache.find? ref = none)
    (h' : (w'.cache.find? ref).isSome) : madeAfter ref made w w' = some w := by
  obtain ⟨p, hp⟩ := Option.isSome_iff_exists.mp h'
  rw [madeAfter, hp, h]
  rfl

theorem madeAfter_of_kept {made : Option World} (h : (w.cache.find? ref).isSome)
    (h' : (w'.cache.find? ref).isSome) : madeAfter ref made w w' = made := by
  obtain ⟨p, hp⟩ := Option.isSome_iff_exists.mp h'
  rw [madeAfter, hp]
  exact if_pos h

/-- The worlds that a program passes from a start where no plan is kept for a logged function, each
with the world in which the plan was made that is kept there. -/
inductive Passes (ref : Nat) (start : World) : Option World → World → Prop where
  | start : Passes ref start none start
  | change {made : Option World} {w w' : World} (h : Passes ref start made w)
      (hchange : Change w w') : Passes ref start (madeAfter ref made w w') w'

/-- Everything that is called or awaited leads from such worlds to such worlds. -/
theorem passes_respondWithin (ref : Nat) (start : World) (depth : Nat) :
    (Evaluation.respondWithin depth).Maintains fun w => ∃ made, Passes ref start made w :=
  Evaluation.respondWithin_maintains (fun _ _ hchange _ ⟨_, h⟩ => ⟨_, h.change hchange⟩) depth

/-- A plan was made in a world, for the class that the logged function belonged to there. It may
belong to another one by now. -/
def MakesPlan (ref : Nat) (v : World) (plan : Plan) : Prop :=
  ∃ l m, v.object? ref = some (.logged l) ∧ l.IsDescribed ref v m ∧ m.plan = .ok plan

/-- What is known of the plan of a logged function in a world that a program passes. The stamps are
what connects the plan that is kept with the log point in use. -/
structure Tracks (ref : Nat) (start : World) (made : Option World) (w : World) : Prop where
  retains : start.Retains w
  unlocked : w.cache.isHeld ref = false
  missing : w.cache.find? ref = none → made = none
  kept : ∀ p, w.cache.find? ref = some p → p.stamp < w.cache.fresh ∧
    ∃ v, made = some v ∧ start.Retains v ∧ MakesPlan ref v p.plan
  /-- the log point in use is for the plan that is kept, if it has its stamp -/
  current : ∀ l b, w.object? ref = some (.logged l) → l.current = some b →
    b.stamp < w.cache.fresh ∧
      ∀ p, w.cache.find? ref = some p → b.stamp = p.stamp → b.point.plan = p.plan

/-- A change does not concern the plan of a logged function. Most changes are of this kind, also
those that fetch the plans of others. -/
structure Spares (ref : Nat) (w w' : World) : Prop where
  retains : w.Retains w'
  plan : w'.cache.find? ref = w.cache.find? ref
  unlocked : w.cache.isHeld ref = false → w'.cache.isHeld ref = false
  fresh : w.cache.fresh ≤ w'.cache.fresh
  /-- nor the log point that is in use -/
  current : ∀ l', w'.object? ref = some (.logged l') →
    ∃ l, w.object? ref = some (.logged l) ∧ l'.current = l.current

/-- What is known of the plan is known after a change that spares it. If the same plan is kept, then
it was made in the same world. -/
theorem Tracks.spared {made : Option World} (h : Tracks ref start made w) (hw : Spares ref w w') :
    Tracks ref start (madeAfter ref made w w') w' := by
  have hmade : madeAfter ref made w w' = made := by
    rw [madeAfter, hw.plan]
    rcases hfind : w.cache.find? ref with _ | p
    · exact (h.missing hfind).symm
    · rfl
  rw [hmade]
  refine ⟨h.retains.trans hw.retains, hw.unlocked h.unlocked, fun hnone => ?_, fun p hp => ?_, ?_⟩
  · exact h.missing (hw.plan ▸ hnone)
  · obtain ⟨hstamp, hmaker⟩ := h.kept p (hw.plan ▸ hp)
    exact ⟨hstamp.trans_le hw.fresh, hmaker⟩
  · intro l' b hl' hb
    obtain ⟨l, hl, hcurrent⟩ := hw.current l' hl'
    obtain ⟨hstamp, hplan⟩ := h.current l b hl (hcurrent ▸ hb)
    exact ⟨hstamp.trans_le hw.fresh, fun p hp => hplan p (hw.plan ▸ hp)⟩

/-- Changes of objects spare the plan, if the log point stays in use. -/
theorem Spares.of_cache (hcache : w'.cache = w.cache) (hretains : w.Retains w')
    (hcurrent : ∀ l', w'.object? ref = some (.logged l') →
      ∃ l, w.object? ref = some (.logged l) ∧ l'.current = l.current) : Spares ref w w' := by
  refine ⟨hretains, by rw [hcache], fun h => ?_, ?_, hcurrent⟩
  · rwa [hcache]
  · rw [hcache]

/-- A plan of another logged function is fetched. -/
theorem Spares.fetched {r : Nat} (hr : ref ≠ r) {l : LoggedFunction}
    {outcome : Except Raised StampedPlan} (h : LoggedFunction.Fetched r l w outcome w') :
    Spares ref w w' := by
  refine ⟨h.kept.retains, h.others ref hr, h.locks ref, h.fresh, fun l' hl' => ?_⟩
  exact ⟨l', (h.kept.object? ref).symm.trans hl', rfl⟩

theorem Spares.trans (hu : Spares ref u v) (hv : Spares ref v w) : Spares ref u w := by
  refine ⟨hu.retains.trans hv.retains, hv.plan.trans hu.plan, fun h => hv.unlocked (hu.unlocked h),
    hu.fresh.trans hv.fresh, fun l'' hl'' => ?_⟩
  obtain ⟨l', hl', hcurrent'⟩ := hv.current l'' hl''
  obtain ⟨l, hl, hcurrent⟩ := hu.current l' hl'
  exact ⟨l, hl, hcurrent'.trans hcurrent⟩

/-- Another object changes. -/
theorem Spares.put_ne {r : Nat} (hr : ref ≠ r) {old object : Object}
    (hold : w.object? r = some old) (hcore : object.core = old.core) :
    Spares ref w (w.put r object) :=
  .of_cache rfl (retains_put hold hcore) fun l' hl' =>
    ⟨l', (object?_put_ne hr object w).symm.trans hl', rfl⟩

/-- An object is added. -/
theorem Spares.push {l : LoggedFunction} (hl : w.object? ref = some (.logged l))
    (object : Object) : Spares ref w (w.push object) :=
  .of_cache rfl (retains_push w object) fun l' hl' =>
    ⟨l', (object?_push_of_lt (lt_size_of_object? hl)).symm.trans hl', rfl⟩

/-- The log point of another logged function is got hold of. -/
theorem Spares.holds {r : Nat} (hr : ref ≠ r) {l : LoggedFunction}
    (hl : w.object? r = some (.logged l)) {outcome : Except Raised BoundPoint}
    (h : LoggedFunction.Holds r l w outcome w') : Spares ref w w' := by
  cases h with
  | failed h => exact .fetched hr h
  | current h => exact .fetched hr h
  | renewed h =>
    exact (Spares.fetched hr h).trans (.put_ne hr ((h.kept.object? r).trans hl) rfl)

/-- A logged function is told which class it belongs to. -/
theorem Spares.attach (owner : Class) (r : Nat) (w : World) :
    Spares ref w (Run.setOwner owner r w).2 := by
  rcases setOwner_cases owner r w with h | ⟨l, hl, h⟩
  · rw [h]
    exact .of_cache rfl (.refl w) fun l hl => ⟨l, hl, rfl⟩
  · rw [h]
    by_cases hr : ref = r
    · subst hr
      -- the owner changes, but neither its plan nor its log point is forgotten
      refine .of_cache rfl (retains_put hl rfl) fun l' hl' => ⟨l, hl, ?_⟩
      rw [object?_put_self hl] at hl'
      obtain rfl := Object.logged.inj (Option.some.inj hl')
      rfl
    · exact .put_ne hr hl rfl

section

variable {made : Option World} {l : LoggedFunction}

/-- The plan is fetched: if it is made, then it is made in this world. The new stamp is greater than
that of a log point in use, which is not taken to be for it then. -/
theorem Tracks.fetched (h : Tracks ref start made w) (hl : w.object? ref = some (.logged l))
    {outcome : Except Raised StampedPlan} (hfetched : LoggedFunction.Fetched ref l w outcome w') :
    Tracks ref start (madeAfter ref made w w') w' := by
  rcases hfetched.here with ⟨hsame, -⟩ | ⟨p, hmakes⟩
  · refine h.spared ⟨hfetched.kept.retains, hsame, hfetched.locks ref, hfetched.fresh, ?_⟩
    exact fun l' hl' => ⟨l', (hfetched.kept.object? ref).symm.trans hl', rfl⟩
  · have hmade : madeAfter ref made w w' = some w :=
      madeAfter_of_missing hmakes.missing (by rw [hmakes.stored]; rfl)
    obtain ⟨m, hdescribed, hplan⟩ := hmakes.described
    rw [hmade]
    refine ⟨h.retains.trans hfetched.kept.retains, hfetched.locks ref h.unlocked, ?_, ?_, ?_⟩
    · intro hnone
      rw [hmakes.stored] at hnone
      cases hnone
    · intro q hq
      obtain rfl := Option.some.inj (hmakes.stored.symm.trans hq)
      exact ⟨hmakes.stamp.2, w, rfl, h.retains, l, m, hl, hdescribed, hplan⟩
    · intro l' b hl' hb
      obtain ⟨hstamp, -⟩ := h.current l' b ((hfetched.kept.object? ref).symm.trans hl') hb
      refine ⟨hstamp.trans_le hfetched.fresh, fun q hq heq => ?_⟩
      -- the new plan has a stamp that no log point has
      obtain rfl := Option.some.inj (hmakes.stored.symm.trans hq)
      have hnew := hmakes.stamp.1
      omega

/-- A log point for the plan is put to use. -/
theorem Tracks.renewed (h : Tracks ref start made w) (hl : w.object? ref = some (.logged l))
    {p : StampedPlan} (hp : w.cache.find? ref = some p) (j : Journal) :
    Tracks ref start made (w.put ref (.logged { l with current := some (l.pointFor p j) })) := by
  refine ⟨h.retains.trans (retains_put hl rfl), h.unlocked, h.missing, h.kept, ?_⟩
  intro l' b hl' hb
  rw [object?_put_self hl] at hl'
  obtain rfl := Object.logged.inj (Option.some.inj hl')
  obtain rfl := Option.some.inj hb
  refine ⟨(h.kept p hp).1, fun q hq _ => ?_⟩
  obtain rfl := Option.some.inj (hp.symm.trans hq)
  rfl

theorem Tracks.holds (h : Tracks ref start made w) (hl : w.object? ref = some (.logged l))
    {outcome : Except Raised BoundPoint} (hholds : LoggedFunction.Holds ref l w outcome w') :
    Tracks ref start (madeAfter ref made w w') w' := by
  cases hholds with
  | failed hfetched => exact h.fetched hl hfetched
  | current hfetched => exact h.fetched hl hfetched
  | renewed hfetched =>
    exact (h.fetched hl hfetched).renewed ((hfetched.kept.object? ref).trans hl)
      hfetched.find?_of_ok _

/-- Nothing is kept after clearing, and nothing has to be known. The log point that is in use has a
smaller stamp than any plan to come. -/
theorem Tracks.clear (h : Tracks ref start made w) :
    Tracks ref start none (cachePart.write w.cache.clear w) where
  retains := h.retains
  unlocked := rfl
  missing _ := rfl
  kept p hp := by cases hp
  current l b hl hb := ⟨(h.current l b hl hb).1, fun p hp => by cases hp⟩

/-- **What is known of the plan is still known after a change.** A change of another logged function
spares the plan; a change of this one fetches it, or puts a log point for it to use. -/
theorem Tracks.step (h : Tracks ref start made w) (hl : w.object? ref = some (.logged l))
    (hchange : Change w w') : Tracks ref start (madeAfter ref made w w') w' := by
  cases hchange with
  | journal j => exact h.spared (.of_cache rfl (.refl w) fun l hl => ⟨l, hl, rfl⟩)
  | push | wrap => exact h.spared (.push hl _)
  | @put r old object hold hcore hlogged =>
    -- the logged function itself is never written that way
    refine h.spared (.put_ne ?_ hold hcore)
    rintro rfl
    exact hlogged l (Option.some.inj (hold.symm.trans hl))
  | @bound r l' hl' =>
    have hholds := LoggedFunction.bound_holds r l' w
    by_cases hr : ref = r
    · subst hr
      exact h.holds hl' hholds
    · exact h.spared (.holds hr hl' hholds)
  | attach owner r => exact h.spared (.attach owner r w)
  | clear => exact h.clear

end

/-- A logged function for which no plan was made yet. -/
structure IsUnplanned (start : World) (ref : Nat) (l : LoggedFunction) : Prop where
  logged : start.object? ref = some (.logged l)
  missing : start.cache.find? ref = none
  unlocked : start.cache.isHeld ref = false
  /-- a log point that it may have from another logged function is for an older plan -/
  current : ∀ b, l.current = some b → b.stamp < start.cache.fresh

/-- **What is known of the plan** holds in all worlds that a program passes, by induction on the
changes that lead there. -/
theorem Passes.tracks {made : Option World} {l : LoggedFunction} (hstart : start.IsUnplanned ref l)
    (h : Passes ref start made w) : Tracks ref start made w := by
  induction h with
  | start =>
    refine ⟨.refl start, hstart.unlocked, fun _ => rfl, fun p hp => ?_, fun l' b hl' hb => ?_⟩
    · rw [hstart.missing] at hp
      cases hp
    · obtain rfl := Object.logged.inj (Option.some.inj (hstart.logged.symm.trans hl'))
      refine ⟨hstart.current b hb, fun p hp => ?_⟩
      rw [hstart.missing] at hp
      cases hp
  | change _ hchange ih =>
    obtain ⟨l', hl', -⟩ := ih.retains.logged hstart.logged
    exact ih.step hl' hchange

end World

end CallLog
