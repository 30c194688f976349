import CallLog.Proofs.PlanCache.Agreement

/-!
# Plans after clearing

Clearing a plan cache forgets what was built, but not what is being built: a build that is under way
goes on, and its plan is stored when it is completed. `History.renewed` is the plan that a key
should have after the cache was cleared, one whose build began since then. `History.isOvertaken`
says that the plan of a key is of a build that the clearing has overtaken.

The main statement is `plans_served`: everyone who asks for a plan gets the one that was completed
last, and it is the renewed one exactly if it is not overtaken (`History.kept_eq_renewed_iff`).
-/

namespace CallLog

namespace PlanCache

open History

namespace History

variable {h earlier : List Event} {key : Nat} {made : StampedPlan}

/-- Whether the build that began last is current. -/
def endsCurrent (h : List Event) : Bool :=
  match underWay h with
  | (_, current) :: _ => current
  | [] => false

/-- The plan that was completed last for a key, of the builds that began since the cache was
cleared. This is the one that clearing is meant to bring about. -/
def renewed (key : Nat) : List Event → Option StampedPlan
  | [] => none
  | .completed k made :: earlier =>
    if k = key ∧ endsCurrent earlier = true then some made else renewed key earlier
  | .cleared :: _ => none
  | _ :: earlier => renewed key earlier

/-- Whether the plan of a key is of a build that began before the cache was cleared. -/
def isOvertaken (key : Nat) : List Event → Bool
  | [] => false
  | .completed k _ :: earlier => if k = key then !endsCurrent earlier else isOvertaken key earlier
  | .cleared :: _ => false
  | _ :: earlier => isOvertaken key earlier

/-- A renewed plan was completed. -/
theorem mem_completions_of_renewed (h : renewed key earlier = some made) :
    (key, made) ∈ completions earlier := by
  induction earlier with
  | nil => cases h
  | cons e earlier ih =>
    cases e with
    | completed k other =>
      rw [renewed] at h
      rw [completions, List.mem_append, List.mem_singleton]
      split at h
      · rename_i hk
        obtain rfl := Option.some.inj h
        exact .inr (by rw [hk.1])
      · exact .inl (ih h)
    | cleared => cases h
    | _ => exact ih h

/-- **The plan that is kept is the renewed one** exactly if it is not overtaken. If it is, the
renewed plan is an earlier one or none at all, and never the same, since stamps grow. -/
theorem kept_eq_renewed_iff (hh : IsHistory h) (key : Nat) :
    kept key h = renewed key h ↔ isOvertaken key h = false := by
  induction h with
  | nil => exact iff_of_true rfl rfl
  | cons e h ih =>
    cases e with
    | completed k made =>
      rw [kept, renewed, isOvertaken]
      by_cases hk : k = key
      · subst hk
        rcases hcurrent : endsCurrent h with _ | _
        · -- another plan was renewed before, if any
          have hne : some made ≠ renewed k h := by
            intro heq
            cases hh with
            | completed _ _ _ hnew =>
              exact Nat.lt_irrefl _ (hnew _ (mem_completions_of_renewed heq.symm))
          simpa using hne
        · simp
      · simpa [hk] using ih hh.tail
    | cleared => exact iff_of_true rfl rfl
    | _ => exact ih hh.tail

/-- Nothing is renewed where nothing is kept. -/
theorem renewed_of_not_kept (h : kept key earlier = none) : renewed key earlier = none := by
  induction earlier with
  | nil => rfl
  | cons e earlier ih =>
    cases e with
    | completed k made =>
      rw [kept] at h
      split at h
      · cases h
      · rename_i hk
        rw [renewed, if_neg (fun hboth => hk hboth.1)]
        exact ih h
    | cleared => rfl
    | _ => exact ih h

/-- The current builds are of different keys, and none of these is renewed yet. So no plan is
renewed twice without clearing in between. -/
structure Renewing (h : List Event) : Prop where
  apart : (((underWay h).filter Prod.snd).map Prod.fst).Nodup
  renewed : ∀ key, (key, true) ∈ underWay h → renewed key h = none

theorem Renewing.congr (hr : Renewing earlier) (hbuilds : underWay h = underWay earlier)
    (hrenewed : ∀ key, History.renewed key h = History.renewed key earlier) : Renewing h where
  apart := hbuilds ▸ hr.apart
  renewed key hkey := by
    rw [hrenewed]
    exact hr.renewed key (hbuilds ▸ hkey)

/-- A build begins only for a key that nothing is kept for, and then nothing is renewed for it
either. -/
theorem Renewing.started (hr : Renewing h) (hkept : kept key h = none)
    (hfree : (key, true) ∉ underWay h) : Renewing (.started key :: h) where
  apart := by
    refine List.nodup_cons.mpr ⟨fun hmem => ?_, hr.apart⟩
    obtain ⟨⟨k, current⟩, hbuild, rfl⟩ := List.mem_map.mp hmem
    obtain ⟨hbuild, rfl⟩ := List.mem_filter.mp hbuild
    exact hfree hbuild
  renewed k hk := by
    rcases List.mem_cons.mp hk with heq | hk
    · obtain ⟨rfl, -⟩ := Prod.mk.inj heq
      exact renewed_of_not_kept hkept
    · exact hr.renewed k hk

theorem Renewing.failed (hr : Renewing h) (r : Raised) : Renewing (.failed key r :: h) where
  apart := hr.apart.sublist (((List.tail_sublist _).filter _).map _)
  renewed k hk := hr.renewed k (List.mem_of_mem_tail hk)

/-- The build that ends may renew its key. It was the only current one for it, so the others still
wait for theirs. -/
theorem Renewing.completed (hr : Renewing h) {current : Bool} {builds : List (Nat × Bool)}
    (hbuild : underWay h = (key, current) :: builds) (made : StampedPlan) :
    Renewing (.completed key made :: h) where
  apart := hr.apart.sublist (((List.tail_sublist _).filter _).map _)
  renewed k hk := by
    have hmem : (k, true) ∈ underWay h := List.mem_of_mem_tail hk
    rw [History.renewed, hr.renewed k hmem, if_neg]
    rintro ⟨rfl, hcurrent⟩
    -- the build that ends is the only current one for its key
    rw [underWay, hbuild, List.tail_cons] at hk
    obtain rfl : current = true := by
      rw [endsCurrent, hbuild] at hcurrent
      exact hcurrent
    have hapart := hr.apart
    rw [hbuild, List.filter_cons_of_pos rfl, List.map_cons, List.nodup_cons] at hapart
    exact hapart.1 (List.mem_map.mpr ⟨_, List.mem_filter.mpr ⟨hk, rfl⟩, rfl⟩)

/-- Clearing leaves no build current. -/
theorem not_mem_cleared (key : Nat) (h : List Event) : (key, true) ∉ underWay (.cleared :: h) := by
  simp [underWay]

/-- By induction on the history. Where the cache is cleared no build stays current, and there is
nothing to show. -/
theorem IsHistory.renewing (hh : IsHistory h) : Renewing h := by
  induction hh with
  | empty => exact ⟨List.nodup_nil, nofun⟩
  | started _ hkept hfree ih => exact ih.started hkept hfree
  | completed _ _ hbuild _ ih => exact ih.completed hbuild _
  | failed r _ _ _ ih => exact ih.failed r
  | @cleared h _ _ _ =>
    refine ⟨?_, fun key hkey => absurd hkey (not_mem_cleared key h)⟩
    have hnone : (underWay (.cleared :: h)).filter Prod.snd = [] := by
      rw [List.filter_eq_nil_iff]
      rintro ⟨k, _ | _⟩ hbuild
      · simp
      · exact absurd hbuild (not_mem_cleared k h)
    rw [hnone]
    exact List.nodup_nil
  | asked _ _ _ ih | hit _ _ ih | locked _ _ _ ih | made _ ih | raised _ ih | got _ _ _ ih
  | sized _ _ _ _ ih | dropped _ _ _ ih => exact ih.congr rfl fun _ => rfl

/-- **A key is renewed once** between two clearings. -/
theorem IsHistory.renewed_once (hh : IsHistory (.completed key made :: h))
    (hcurrent : endsCurrent h = true) : renewed key h = none := by
  have hr := hh.tail.renewing
  cases hh with
  | completed _ _ hbuild _ =>
    rw [endsCurrent, hbuild] at hcurrent
    refine hr.renewed key ?_
    rw [hbuild, ← hcurrent]
    exact List.mem_cons_self

end History

/-! ## What is served

`Renews` is what one would like to have: after clearing, every answer is a renewed plan. `Serves` is
what holds, and it says when the two are the same. They differ in a routine as short as `refresh`.
-/

/-- After the cache is cleared only renewed plans are served. -/
structure Renews (w : Watched) : Prop where
  got : ∀ {key found earlier}, .got key found :: earlier <:+ w.history →
    found = renewed key earlier
  returned : ∀ {key made earlier}, .asked key :: earlier <:+ w.history →
    renewed key earlier = some made →
    .returned key (.ok made) :: .asked key :: earlier <:+ w.history

/-- The plan that was completed last is served, and whether it is renewed depends on whether it is
overtaken. -/
structure Serves (w : Watched) : Prop where
  got : ∀ {key found earlier}, .got key found :: earlier <:+ w.history →
    found = kept key earlier ∧
      (found = renewed key earlier ↔ isOvertaken key earlier = false)
  returned : ∀ {key made earlier}, .asked key :: earlier <:+ w.history →
    kept key earlier = some made →
    .returned key (.ok made) :: .asked key :: earlier <:+ w.history ∧
      (renewed key earlier = some made ↔ isOvertaken key earlier = false)
  /-- without a plan the factory runs -/
  started : ∀ {key earlier}, .asked key :: earlier <:+ w.history → kept key earlier = none →
    .started key :: .asked key :: earlier <:+ w.history ∧ isOvertaken key earlier = false
  /-- a key is renewed once between two clearings -/
  once : ∀ {key made earlier}, .completed key made :: earlier <:+ w.history →
    endsCurrent earlier = true → renewed key earlier = none
  /-- the cache holds what is kept for the live keys -/
  found : ∀ key made, w.script.cache.find? key = some made ↔
    IsLive key w.history ∧ kept key w.history = some made

/-- Nothing is overtaken where nothing is kept. -/
theorem History.isOvertaken_of_not_kept {h : List Event} (hh : IsHistory h) {key : Nat}
    (hkept : kept key h = none) : isOvertaken key h = false :=
  (kept_eq_renewed_iff hh key).mp (hkept.trans (renewed_of_not_kept hkept).symm)

/-- **The plan that was completed last is served**, until the cache is cleared again or its key is
given up. It is the plan that should be served exactly if its build was not overtaken by the
clearing. -/
theorem plans_served {j : Journal} (hj : j.IsWritable Naming.empty) (routine : Routine)
    (hnever : NeverReenters (routine.run (.start j)).2.history) :
    Serves (routine.run (.start j)).2 := by
  have hu := agrees_run hj routine
  generalize (routine.run (.start j)).2 = u at *
  have hearlier {e : Event} {earlier : List Event} (hsuffix : e :: earlier <:+ u.history) :
      IsHistory earlier := (hu.history.of_suffix hsuffix).tail
  exact {
    got := by
      intro key found earlier hgot
      have hfound := (hu.history.of_suffix hgot).got_eq
      exact ⟨hfound, hfound ▸ kept_eq_renewed_iff (hearlier hgot) key⟩
    returned := by
      intro key made earlier hasked hkept
      refine ⟨returned_of_kept hu.history hu.idle hasked hkept, ?_⟩
      rw [← hkept, eq_comm]
      exact kept_eq_renewed_iff (hearlier hasked) key
    started := fun hasked hkept =>
      ⟨started_of_not_kept hu.history hu.idle hasked hkept (hnever _ _ hasked),
        isOvertaken_of_not_kept (hearlier hasked) hkept⟩
    once := fun hmade hcurrent => (hu.history.of_suffix hmade).renewed_once hcurrent
    found := hu.plans.found }

/-- A routine whose factory clears the cache. -/
def refresh : Routine :=
  .fetch "tick" (.clear (.give (plain "old") (isCountable_plain _))) fun _ =>
  .get "tick" fun _ => .give (plain "done") (isCountable_plain _)

theorem plans_served_refresh :
    ({} : Journal).IsWritable Naming.empty ∧ NeverReenters (refresh.run (.start {})).2.history ∧
      Serves (refresh.run (.start {})).2 ∧ isOvertaken 0 (refresh.run (.start {})).2.history := by
  have hwritable : ({} : Journal).IsWritable Naming.empty := fun _ h => absurd h List.not_mem_nil
  have hnever : NeverReenters (refresh.run (.start {})).2.history := by decide +kernel
  exact ⟨hwritable, hnever, plans_served hwritable refresh hnever, by decide +kernel⟩

/-- Whether the last event is that a plan is found for a key which none is renewed for. -/
def findsUnrenewed : List Event → Bool
  | .got key (some _) :: earlier => (renewed key earlier).isNone
  | _ => false

/-- **A plan may be out of date.** What is looked up last is a plan whose factory began before the
cache was cleared. -/
theorem refresh_serves_old :
    NeverReenters (refresh.run (.start {})).2.history ∧ ¬ Renews (refresh.run (.start {})).2 := by
  have hserved : findsUnrenewed (refresh.run (.start {})).2.history = true := by decide +kernel
  refine ⟨by decide +kernel, fun h => ?_⟩
  generalize (refresh.run (.start {})).2 = w at *
  rw [findsUnrenewed.eq_def] at hserved
  split at hserved
  · rename_i key made earlier hhistory
    have hfound : some made = renewed key earlier := h.got (hhistory ▸ List.suffix_rfl)
    rw [← hfound] at hserved
    cases hserved
  · cases hserved

end PlanCache

end CallLog
