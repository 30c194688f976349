import CallLog.PlanCache
import Mathlib.Data.List.Infix

/-!
# Histories of a plan cache

What happens to a plan cache is told by its history: the events in the order in which they came, the
latest first. `History.IsHistory` says which histories there are. It is a cache without entries and
without locks: whether a plan is found, and whether a lock is held, is told by the events before.

Factories run inside of each other, so the builds under way are a stack, `History.underWay`. For
each of them it is told whether the cache was cleared since it began.
-/

namespace CallLog

namespace PlanCache

/-- What happens to a plan cache. A plan is asked for under a key; what is answered is noted when it
is returned, and what the factory does in between. -/
inductive Event where
  | asked (key : Nat)
  /-- the factory for a key begins to run -/
  | started (key : Nat)
  /-- the factory has made a plan -/
  | completed (key : Nat) (made : StampedPlan)
  | failed (key : Nat) (r : Raised)
  | returned (key : Nat) (outcome : Except Raised StampedPlan)
  /-- the plan for a key is looked up -/
  | got (key : Nat) (found : Option StampedPlan)
  /-- the plans are counted -/
  | sized (n : Nat)
  /-- the name of a key is given up -/
  | dropped (key : Nat)
  | cleared

namespace History

/-- The plan that was completed last for a key since the cache was cleared. It does not matter when
its build began. -/
def kept (key : Nat) : List Event → Option StampedPlan
  | [] => none
  | .completed k made :: earlier => if k = key then some made else kept key earlier
  | .cleared :: _ => none
  | _ :: earlier => kept key earlier

/-- The builds under way by their keys, the latest first, and whether they are current: the cache
was not cleared since they began. -/
def underWay : List Event → List (Nat × Bool)
  | [] => []
  | .started k :: earlier => (k, true) :: underWay earlier
  | .completed .. :: earlier => (underWay earlier).tail
  | .failed .. :: earlier => (underWay earlier).tail
  | .cleared :: earlier => (underWay earlier).map fun build => (build.1, false)
  | _ :: earlier => underWay earlier

/-- The builds that were completed, in order. -/
def completions : List Event → List (Nat × StampedPlan)
  | [] => []
  | .completed key made :: earlier => completions earlier ++ [(key, made)]
  | _ :: earlier => completions earlier

/-- A key is alive until its name is given up, and as long as a build for it is under way. -/
def IsLive (key : Nat) (h : List Event) : Prop :=
  .dropped key ∉ h ∨ ∃ current, (key, current) ∈ underWay h

/-- Whether something is still to be answered before anything else can happen. A factory that has
ended is answered at once. -/
def awaits : List Event → Bool
  | .asked _ :: _ | .completed .. :: _ | .failed .. :: _ => true
  | _ => false

/-- The histories of a plan cache. -/
inductive IsHistory : List Event → Prop where
  | empty : IsHistory []
  | asked {h : List Event} (key : Nat) (hh : IsHistory h) (hidle : awaits h = false) :
      IsHistory (.asked key :: h)
  /-- a plan that is kept is the answer -/
  | hit {h : List Event} {key : Nat} {made : StampedPlan} (hh : IsHistory (.asked key :: h))
      (hkept : kept key h = some made) : IsHistory (.returned key (.ok made) :: .asked key :: h)
  /-- a key has one current build -/
  | locked {h : List Event} {key : Nat} (hh : IsHistory (.asked key :: h))
      (hkept : kept key h = none) (hlocked : (key, true) ∈ underWay h) :
      IsHistory (.returned key (.error (.fault .deadlock)) :: .asked key :: h)
  /-- the factory runs if there is no plan -/
  | started {h : List Event} {key : Nat} (hh : IsHistory (.asked key :: h))
      (hkept : kept key h = none) (hfree : (key, true) ∉ underWay h) :
      IsHistory (.started key :: .asked key :: h)
  /-- the build that began last is completed, and the plan is a new one -/
  | completed {h : List Event} {key : Nat} {current : Bool} {builds : List (Nat × Bool)}
      {made : StampedPlan} (hh : IsHistory h) (hidle : awaits h = false)
      (hbuild : underWay h = (key, current) :: builds)
      (hnew : ∀ build ∈ completions h, build.2.stamp < made.stamp) :
      IsHistory (.completed key made :: h)
  | failed {h : List Event} {key : Nat} {current : Bool} {builds : List (Nat × Bool)} (r : Raised)
      (hh : IsHistory h) (hidle : awaits h = false)
      (hbuild : underWay h = (key, current) :: builds) : IsHistory (.failed key r :: h)
  /-- a build answers with what the factory gave -/
  | made {h : List Event} {key : Nat} {made : StampedPlan}
      (hh : IsHistory (.completed key made :: h)) :
      IsHistory (.returned key (.ok made) :: .completed key made :: h)
  | raised {h : List Event} {key : Nat} {r : Raised} (hh : IsHistory (.failed key r :: h)) :
      IsHistory (.returned key (.error r) :: .failed key r :: h)
  | got {h : List Event} (key : Nat) (hh : IsHistory h) (hidle : awaits h = false) :
      IsHistory (.got key (kept key h) :: h)
  /-- the plans are those of the live keys -/
  | sized {h : List Event} {keys : List Nat} (hh : IsHistory h) (hidle : awaits h = false)
      (hkeys : keys.Nodup)
      (hmem : ∀ key, key ∈ keys ↔ IsLive key h ∧ ∃ made, kept key h = some made) :
      IsHistory (.sized keys.length :: h)
  | dropped {h : List Event} {key : Nat} (hh : IsHistory h) (hidle : awaits h = false)
      (hnew : .dropped key ∉ h) : IsHistory (.dropped key :: h)
  | cleared {h : List Event} (hh : IsHistory h) (hidle : awaits h = false) :
      IsHistory (.cleared :: h)

variable {h earlier full : List Event} {e : Event} {key : Nat} {made : StampedPlan} {r : Raised}

theorem IsHistory.tail (h : IsHistory (e :: earlier)) : IsHistory earlier := by
  cases h <;> assumption

/-- What came before is a history as well. -/
theorem IsHistory.of_suffix (h : IsHistory full) (hsuffix : earlier <:+ full) :
    IsHistory earlier := by
  obtain ⟨later, rfl⟩ := hsuffix
  induction later with
  | nil => exact h
  | cons e later ih => exact ih h.tail

/-- What is not the whole history was followed by something. -/
theorem exists_next (hsuffix : earlier <:+ full) (hne : earlier ≠ full) :
    ∃ e, e :: earlier <:+ full := by
  obtain ⟨later, rfl⟩ := hsuffix
  rcases List.eq_nil_or_concat later with rfl | ⟨front, e, rfl⟩
  · exact absurd rfl hne
  · exact ⟨e, front, by simp⟩

/-! ## What comes next

An event that waits for an answer is followed by one, and by the histories there are the answer is
determined. So of an event in the middle of a history it can be said what comes after it. -/

/-- What waits for an answer gets one. -/
theorem exists_answer (hidle : awaits full = false) (hsuffix : earlier <:+ full)
    (hawaits : awaits earlier = true) : ∃ e, e :: earlier <:+ full := by
  refine exists_next hsuffix ?_
  rintro rfl
  rw [hidle] at hawaits
  cases hawaits

/-- **A plan that is kept is returned**, and no factory runs. -/
theorem returned_of_kept (hfull : IsHistory full) (hidle : awaits full = false)
    (hasked : .asked key :: earlier <:+ full) (hkept : kept key earlier = some made) :
    .returned key (.ok made) :: .asked key :: earlier <:+ full := by
  obtain ⟨e, hnext⟩ := exists_answer hidle hasked rfl
  cases hfull.of_suffix hnext with
  | hit _ h =>
    obtain rfl := Option.some.inj (hkept.symm.trans h)
    exact hnext
  | locked _ h _ => cases hkept.symm.trans h
  | started _ h _ => cases hkept.symm.trans h
  | _ => contradiction

/-- **Without a plan the factory runs**, unless the key has a current build. A build that was
overtaken by clearing does not count. -/
theorem started_of_not_kept (hfull : IsHistory full) (hidle : awaits full = false)
    (hasked : .asked key :: earlier <:+ full) (hkept : kept key earlier = none)
    (hfree : (key, true) ∉ underWay earlier) :
    .started key :: .asked key :: earlier <:+ full := by
  obtain ⟨e, hnext⟩ := exists_answer hidle hasked rfl
  cases hfull.of_suffix hnext with
  | hit _ h => cases hkept.symm.trans h
  | locked _ _ h => exact absurd h hfree
  | started => exact hnext
  | _ => contradiction

/-- A plan that was made is returned. -/
theorem returned_of_completed (hfull : IsHistory full) (hidle : awaits full = false)
    (hmade : .completed key made :: earlier <:+ full) :
    .returned key (.ok made) :: .completed key made :: earlier <:+ full := by
  obtain ⟨e, hnext⟩ := exists_answer hidle hmade rfl
  cases hfull.of_suffix hnext with
  | made => exact hnext
  | _ => contradiction

/-- What a factory raised is raised. -/
theorem returned_of_failed (hfull : IsHistory full) (hidle : awaits full = false)
    (hfailed : .failed key r :: earlier <:+ full) :
    .returned key (.error r) :: .failed key r :: earlier <:+ full := by
  obtain ⟨e, hnext⟩ := exists_answer hidle hfailed rfl
  cases hfull.of_suffix hnext with
  | raised => exact hnext
  | _ => contradiction

/-- **What is looked up is what is kept.** -/
theorem IsHistory.got_eq {found : Option StampedPlan}
    (h : IsHistory (.got key found :: earlier)) : found = kept key earlier := by
  cases h
  rfl

/-- Plans that are made later have greater stamps. -/
theorem IsHistory.stamps (h : IsHistory full) :
    (completions full).Pairwise fun p q => p.2.stamp < q.2.stamp := by
  induction h with
  | empty => exact .nil
  | completed _ _ _ hnew ih =>
    rw [completions, List.pairwise_append]
    refine ⟨ih, List.pairwise_singleton _ _, fun p hp q hq => ?_⟩
    obtain rfl := List.mem_singleton.mp hq
    exact hnew p hp
  | _ => assumption

/-! ## Re-entering

A key is asked for again inside of its own build if its factory fetches it, directly or by way of
other factories. The answer is a deadlock then, so statements about plans leave these runs out. -/

/-- No key is asked for while it has a current build. -/
def NeverReenters (h : List Event) : Prop :=
  ∀ key earlier, .asked key :: earlier <:+ h → (key, true) ∉ underWay earlier

theorem neverReenters_cons : NeverReenters (e :: h) ↔
    (∀ key, e = .asked key → (key, true) ∉ underWay h) ∧ NeverReenters h := by
  constructor
  · intro hnever
    refine ⟨fun key he => hnever key h (he ▸ List.suffix_rfl), fun key earlier hsuffix => ?_⟩
    exact hnever key earlier (hsuffix.trans (List.suffix_cons e h))
  · rintro ⟨hhead, htail⟩ key earlier hsuffix
    rcases List.suffix_cons_iff.mp hsuffix with heq | hsuffix
    · obtain ⟨he, rfl⟩ := List.cons.inj heq
      exact hhead key he.symm
    · exact htail key earlier hsuffix

/-- There is something to check only where a plan is asked for. -/
instance decidableNeverReenters : (h : List Event) → Decidable (NeverReenters h)
  | [] => isTrue fun _ _ hsuffix => by simp at hsuffix
  | .asked key :: h =>
    have := decidableNeverReenters h
    decidable_of_iff ((key, true) ∉ underWay h ∧ NeverReenters h) (by simp [neverReenters_cons])
  | .started _ :: h | .completed .. :: h | .failed .. :: h | .returned .. :: h | .got .. :: h
  | .sized _ :: h | .dropped _ :: h | .cleared :: h =>
    have := decidableNeverReenters h
    decidable_of_iff (NeverReenters h) (by simp [neverReenters_cons])

instance (h : List Event) : Decidable (.cleared ∈ h) :=
  decidable_of_iff (h.any fun | .cleared => true | _ => false) <| by
    rw [List.any_eq_true]
    constructor
    · rintro ⟨e, he, hcleared⟩
      cases e <;> first | exact he | cases hcleared
    · exact fun h => ⟨.cleared, h, rfl⟩

end History

end PlanCache

end CallLog
