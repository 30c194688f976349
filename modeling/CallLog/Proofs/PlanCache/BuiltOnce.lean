import CallLog.Proofs.PlanCache.Agreement

/-!
# Plans are built once

As long as a plan cache is not cleared, every key gets one plan at most. If no key is asked for
inside of its own build either, everyone who asks for a key gets its plan. The main statement is
`built_once`.

A history without clearing is `History.Orderly`: the keys of the builds under way and of the builds
that were completed are all different, and the plans that were completed are those that are kept.
-/

namespace CallLog

namespace PlanCache

open History

namespace History

variable {h earlier : List Event} {e : Event} {key : Nat}

/-- Builds that are under way and builds that were completed are of different keys. In a cache that
was cleared a key may be completed again, so there this fails. -/
structure Orderly (h : List Event) : Prop where
  current : ∀ build ∈ underWay h, build.2 = true
  apart : ((underWay h).map Prod.fst ++ (completions h).map Prod.fst).Nodup
  kept : ∀ key made, kept key h = some made ↔ (key, made) ∈ completions h

/-- Events that make or forget nothing keep a history orderly. -/
theorem Orderly.congr (ho : Orderly earlier) (hbuilds : underWay h = underWay earlier)
    (hcompletions : completions h = completions earlier)
    (hkept : ∀ key, History.kept key h = History.kept key earlier) : Orderly h where
  current := hbuilds ▸ ho.current
  apart := by
    rw [hbuilds, hcompletions]
    exact ho.apart
  kept key made := by
    rw [hkept, hcompletions]
    exact ho.kept key made

/-- A build begins for a key without a plan that no current build is under way for. All builds are
current, so the key is a new one. -/
theorem Orderly.started (ho : Orderly h) (hkept : History.kept key h = none)
    (hfree : (key, true) ∉ underWay h) : Orderly (.started key :: h) where
  current := List.forall_mem_cons.mpr ⟨rfl, ho.current⟩
  apart := by
    have hbuilds : key ∉ (underWay h).map Prod.fst := by
      -- every build under way is current, as the cache was not cleared
      intro hmem
      obtain ⟨build, hbuild, rfl⟩ := List.mem_map.mp hmem
      exact hfree (ho.current build hbuild ▸ hbuild)
    have hcompletions : key ∉ (completions h).map Prod.fst := by
      intro hmem
      obtain ⟨⟨k, made⟩, hmade, rfl⟩ := List.mem_map.mp hmem
      exact Option.some_ne_none made (((ho.kept k made).mpr hmade).symm.trans hkept)
    exact List.nodup_cons.mpr
      ⟨fun hmem => (List.mem_append.mp hmem).elim hbuilds hcompletions, ho.apart⟩
  kept := ho.kept

/-- The build that ends leaves the others under way. -/
theorem Orderly.failed (ho : Orderly h) (r : Raised) : Orderly (.failed key r :: h) where
  current build hbuild := ho.current build (List.mem_of_mem_tail hbuild)
  apart := ho.apart.sublist (((List.tail_sublist _).map _).append_right _)
  kept := ho.kept

/-- The plan of the build that ends is kept from now on. Its key moves from the builds under way to
those that were completed. -/
theorem Orderly.completed (ho : Orderly h) {current : Bool} {builds : List (Nat × Bool)}
    (hbuild : underWay h = (key, current) :: builds) (made : StampedPlan) :
    Orderly (.completed key made :: h) where
  current build hmem := ho.current build (List.mem_of_mem_tail hmem)
  apart := by
    have hapart := ho.apart
    rw [hbuild, List.map_cons, List.cons_append] at hapart
    rw [underWay, hbuild, List.tail_cons, completions, List.map_append, ← List.append_assoc]
    exact (List.perm_append_singleton key _).nodup_iff.mpr hapart
  kept k other := by
    have hapart := ho.apart
    rw [hbuild, List.map_cons, List.cons_append, List.nodup_cons, List.mem_append, not_or] at hapart
    rw [History.kept, completions, List.mem_append, List.mem_singleton, Prod.mk.injEq]
    by_cases hk : key = k
    · subst hk
      -- nothing was completed for the key before
      have hnew : (key, other) ∉ completions h := fun hmem =>
        hapart.1.2 (List.mem_map.mpr ⟨_, hmem, rfl⟩)
      simp [hnew, eq_comm]
    · simp [hk, Ne.symm hk, ho.kept]

/-- What fails was not completed before, since its build was under way until now. -/
theorem Orderly.not_completed (ho : Orderly h) {r : Raised} (hh : IsHistory (.failed key r :: h))
    (made : StampedPlan) : (key, made) ∉ completions h := by
  cases hh with
  | failed _ _ _ hbuild =>
    have hapart := ho.apart
    rw [hbuild, List.map_cons, List.cons_append, List.nodup_cons, List.mem_append, not_or] at hapart
    exact fun hmem => hapart.1.2 (List.mem_map.mpr ⟨_, hmem, rfl⟩)

/-- **Without clearing** a history is orderly, by induction on it. Only the three events of a build
take an argument. -/
theorem IsHistory.orderly (hh : IsHistory h) (hclear : .cleared ∉ h) : Orderly h := by
  induction hh with
  | empty => exact ⟨nofun, List.nodup_nil, fun key made => by simp [kept, completions]⟩
  | started _ hkept hfree ih =>
    have ho := ih (List.not_mem_of_not_mem_cons hclear)
    exact ho.started hkept hfree
  | completed _ _ hbuild _ ih =>
    have ho := ih (List.not_mem_of_not_mem_cons hclear)
    exact ho.completed hbuild _
  | failed r _ _ _ ih =>
    have ho := ih (List.not_mem_of_not_mem_cons hclear)
    exact ho.failed r
  | cleared => exact absurd List.mem_cons_self hclear
  | asked _ _ _ ih | hit _ _ ih | locked _ _ _ ih | made _ ih | raised _ ih | got _ _ _ ih
  | sized _ _ _ _ ih | dropped _ _ _ ih =>
    have ho := ih (List.not_mem_of_not_mem_cons hclear)
    exact ho.congr rfl rfl fun _ => rfl

end History

open History

/-- A number of plans: one for each live key that got one. The plan of a key that is not alive any
more may be gone. -/
def CountsPlans (n : Nat) (h : List Event) : Prop :=
  ∃ keys : List Nat, keys.Nodup ∧ keys.length = n ∧
    ∀ key, key ∈ keys ↔ IsLive key h ∧ ∃ made, (key, made) ∈ completions h

/-- **Each key gets one plan at most**, and everyone who asks for it gets that plan. -/
structure BuiltOnce (before : Journal) (w : Watched) : Prop where
  /-- no key is completed twice, and no two plans are the same -/
  once : ((completions w.history).map Prod.fst).Nodup
  distinct : (completions w.history).Pairwise fun p q => p.2.stamp ≠ q.2.stamp
  /-- a factory answers with the plan that it made, or raises what it raised -/
  made : ∀ {key made earlier}, .completed key made :: earlier <:+ w.history →
    .returned key (.ok made) :: .completed key made :: earlier <:+ w.history
  failed : ∀ {key r earlier}, .failed key r :: earlier <:+ w.history →
    .returned key (.error r) :: .failed key r :: earlier <:+ w.history ∧
      ∀ made, (key, made) ∉ completions earlier
  /-- a plan that was made is returned, and no factory runs -/
  returned : ∀ {key made earlier}, .asked key :: earlier <:+ w.history →
    (key, made) ∈ completions earlier →
    .returned key (.ok made) :: .asked key :: earlier <:+ w.history
  /-- without one the factory runs -/
  started : ∀ {key earlier}, .asked key :: earlier <:+ w.history →
    (∀ made, (key, made) ∉ completions earlier) →
    .started key :: .asked key :: earlier <:+ w.history
  /-- what is looked up is the plan that was made, if any -/
  got : ∀ {key found earlier}, .got key found :: earlier <:+ w.history →
    ∀ made, found = some made ↔ (key, made) ∈ completions earlier
  /-- the plans are those of the live keys -/
  sized : ∀ {n earlier}, .sized n :: earlier <:+ w.history → CountsPlans n earlier
  size : CountsPlans w.script.cache.size w.history
  found : ∀ key made, w.script.cache.find? key = some made ↔
    IsLive key w.history ∧ (key, made) ∈ completions w.history
  /-- there is one record for each plan, in order -/
  records : ∃ records, w.script.journal = before.logged records ∧
    List.Forall₂ (fun build r => TellsOf build.2.plan r) (completions w.history) records

/-- **Plans are built once**, by any routine that neither clears the cache nor asks for a key inside
of its own build, where the answer is a deadlock. Factories may fail, and may fetch other plans. -/
theorem built_once {j : Journal} (hj : j.IsWritable Naming.empty) (routine : Routine)
    (hclear : .cleared ∉ (routine.run (.start j)).2.history)
    (hnever : NeverReenters (routine.run (.start j)).2.history) :
    BuiltOnce j (routine.run (.start j)).2 := by
  have hu := agrees_run hj routine
  generalize (routine.run (.start j)).2 = u at *
  have horderly {earlier : List Event} (hsuffix : earlier <:+ u.history) : Orderly earlier :=
    (hu.history.of_suffix hsuffix).orderly fun hmem => hclear (hsuffix.subset hmem)
  have hearlier {e : Event} {earlier : List Event} (hsuffix : e :: earlier <:+ u.history) :
      Orderly earlier := horderly ((List.suffix_cons e earlier).trans hsuffix)
  have hcounts {keys : List Nat} {h : List Event} (ho : Orderly h) (hnodup : keys.Nodup)
      (hmem : ∀ key, key ∈ keys ↔ IsLive key h ∧ ∃ made, kept key h = some made) :
      CountsPlans keys.length h := by
    refine ⟨keys, hnodup, rfl, fun key => ?_⟩
    rw [hmem]
    simp only [ho.kept]
  have ho := horderly List.suffix_rfl
  exact {
    once := (List.nodup_append.mp ho.apart).2.1
    distinct := hu.history.stamps.imp Nat.ne_of_lt
    made := returned_of_completed hu.history hu.idle
    failed := fun hfailed =>
      ⟨returned_of_failed hu.history hu.idle hfailed,
        (hearlier hfailed).not_completed (hu.history.of_suffix hfailed)⟩
    returned := fun hasked hmade => returned_of_kept hu.history hu.idle hasked
      (((hearlier hasked).kept _ _).mpr hmade)
    started := by
      intro key earlier hasked hnone
      refine started_of_not_kept hu.history hu.idle hasked ?_ (hnever key earlier hasked)
      rw [Option.eq_none_iff_forall_ne_some]
      exact fun made hmade => hnone made (((hearlier hasked).kept _ _).mp hmade)
    got := by
      intro key found earlier hgot made
      rw [(hu.history.of_suffix hgot).got_eq]
      exact (hearlier hgot).kept key made
    sized := by
      intro n earlier hsized
      have ho := hearlier hsized
      cases hu.history.of_suffix hsized with
      | sized _ _ hnodup hmem => exact hcounts ho hnodup hmem
    size := by
      have hsize := hcounts ho hu.plans.distinct hu.plans.mem_keys
      rwa [List.length_map] at hsize
    found := fun key made => by rw [hu.plans.found, ho.kept]
    records := hu.records }

/-- A routine with a build in a build. The one around it fails, and is made up for later. -/
def chime : Routine :=
  .fetch "hour" (.fetch "minute" (.give (plain "minute") (isCountable_plain _)) fun _ =>
    .raise (.made (.known .valueError) [])) fun _ =>
  .get "hour" fun _ =>
  .fetch "hour" (.give (plain "hour") (isCountable_plain _)) fun _ =>
  .drop "minute" <| .size fun _ => .give (plain "done") (isCountable_plain _)

theorem built_once_chime :
    ({} : Journal).IsWritable Naming.empty ∧ .cleared ∉ (chime.run (.start {})).2.history ∧
      NeverReenters (chime.run (.start {})).2.history ∧ BuiltOnce {} (chime.run (.start {})).2 ∧
      (completions (chime.run (.start {})).2.history).map
        (fun build => (build.1, build.2.plan.message)) = [(1, "minute"), (0, "hour")] := by
  have hwritable : ({} : Journal).IsWritable Naming.empty := fun _ h => absurd h List.not_mem_nil
  have hclear : .cleared ∉ (chime.run (.start {})).2.history := by decide +kernel
  have hnever : NeverReenters (chime.run (.start {})).2.history := by decide +kernel
  exact ⟨hwritable, hclear, hnever, built_once hwritable chime hclear hnever, by decide +kernel⟩

end PlanCache

end CallLog
