import CallLog.Proofs.PlanCache.Routine
import Mathlib.Data.List.Nodup

/-!
# Runs agree with their histories

The cache, the locks, the names and the journal of a script are told by its history (`Agrees`).
Each operation of a routine keeps that, and so does the build of a plan: the factory runs with the
lock held (`opened_agrees`), and after it the lock is given back (`closed_agrees`), whatever the
factory did to the cache in between.

The main statement is `runsWell`. What holds of every history of `History.IsHistory` holds of every
run.
-/

namespace CallLog

namespace PlanCache

open ScriptState History Watched

variable {cache : PlanCache Nat} {script : ScriptState} {h h' : List Event} {w w' : Watched}
  {live : Nat → Prop} {key : Nat} {made : StampedPlan} {j : Journal}

/-- A cache holds the plans that are kept for some keys. Which ones is a parameter, since between
the end of a build and the sweep after it a key may have a plan though it is not alive any more. -/
structure HoldsPlans (live : Nat → Prop) (cache : PlanCache Nat) (h : List Event) : Prop where
  found : ∀ key made, cache.find? key = some made ↔ live key ∧ kept key h = some made
  distinct : (cache.entries.map Prod.fst).Nodup
  stamps : ∀ build ∈ completions h, build.2.stamp < cache.fresh

/-- The keys that a cache holds plans for. -/
theorem HoldsPlans.mem_keys (hplans : HoldsPlans live cache h) (key : Nat) :
    key ∈ cache.entries.map Prod.fst ↔ live key ∧ ∃ made, kept key h = some made := by
  rw [← find?_eq_some_iff_mem]
  simp only [hplans.found]
  exact exists_and_left

/-- A cache holds the locks of the current builds. -/
structure HoldsLocks (cache : PlanCache Nat) (h : List Event) : Prop where
  held : cache.held.map Prod.fst = ((underWay h).filter Prod.snd).map Prod.fst
  numbers : ∀ lock ∈ cache.held, lock.2 < cache.fresh

/-- The names of a script are those that were not given up. Keys are numbered as they come into use,
so a key below the count of objects has a name exactly if it was never dropped. -/
structure HoldsNames (script : ScriptState) (h : List Event) : Prop where
  names : (script.names.map Prod.fst).Nodup
  objects : (script.names.map Prod.snd).Nodup
  known : ∀ entry ∈ script.names, entry.2 < script.objects
  gone : ∀ key, .dropped key ∈ h → key < script.objects
  named : ∀ key < script.objects, key ∈ script.names.map Prod.snd ↔ .dropped key ∉ h

/-- Names are held as before while they stay the same and no key is given up. -/
theorem HoldsNames.congr {script' : ScriptState} (hnames : HoldsNames script h)
    (hsame : script'.names = script.names) (hobjects : script'.objects = script.objects)
    (hdropped : ∀ key, .dropped key ∈ h' ↔ .dropped key ∈ h) : HoldsNames script' h' where
  names := hsame ▸ hnames.names
  objects := hsame ▸ hnames.objects
  known := by
    rw [hsame, hobjects]
    exact hnames.known
  gone key hkey := by
    rw [hobjects]
    exact hnames.gone key ((hdropped key).mp hkey)
  named key hkey := by
    rw [hsame, hdropped]
    exact hnames.named key (hobjects ▸ hkey)

/-- A journal got a record for every build that was completed. -/
def Tells (before : Journal) (journal : Journal) (h : List Event) : Prop :=
  ∃ records, journal = before.logged records ∧
    List.Forall₂ (fun build r => TellsOf build.2.plan r) (completions h) records

/-- **The state of a script is told by its history.** Each field is about one part of the state. In
a state like this nothing waits for an answer: it is what operations begin and end with. -/
structure Agrees (before : Journal) (w : Watched) : Prop where
  history : IsHistory w.history
  idle : awaits w.history = false
  plans : HoldsPlans (IsLive · w.history) w.script.cache w.history
  locks : HoldsLocks w.script.cache w.history
  names : HoldsNames w.script w.history
  busy : w.script.busy = (underWay w.history).map Prod.fst
  used : ∀ key ∈ w.script.busy, key < w.script.objects
  records : Tells before w.script.journal w.history

/-- After a routine has run the same builds are under way, each with its lock, or the cache was
cleared. This is what the build around a factory needs to know of it when the factory has ended. -/
def Resumes (w w' : Watched) : Prop :=
  (underWay w'.history = underWay w.history ∧ w'.script.cache.held = w.script.cache.held) ∨
    (underWay w'.history = (underWay w.history).map (fun build => (build.1, false)) ∧
      w'.script.cache.held = [])

theorem Resumes.refl (w : Watched) : Resumes w w :=
  .inl ⟨rfl, rfl⟩

theorem Resumes.trans {u : Watched} (h : Resumes w w') (h' : Resumes w' u) : Resumes w u := by
  rcases h' with ⟨hbuilds', hheld'⟩ | ⟨hbuilds', hheld'⟩
  · rw [Resumes, hbuilds', hheld']
    exact h
  · refine .inr ⟨?_, hheld'⟩
    rcases h with ⟨hbuilds, -⟩ | ⟨hbuilds, -⟩
    · rw [hbuilds', hbuilds]
    · rw [hbuilds', hbuilds, List.map_map]
      rfl

/-- Two histories tell the same of keys, plans and builds. -/
structure SameFacts (h h' : List Event) : Prop where
  kept : ∀ key, kept key h' = kept key h
  underWay : underWay h' = underWay h
  dropped : ∀ key, .dropped key ∈ h' ↔ .dropped key ∈ h
  completions : completions h' = completions h

theorem sameFacts_got (h : List Event) (key : Nat) (found : Option StampedPlan) :
    SameFacts h (.got key found :: h) :=
  ⟨fun _ => rfl, rfl, by simp, rfl⟩

theorem sameFacts_sized (h : List Event) (n : Nat) : SameFacts h (.sized n :: h) :=
  ⟨fun _ => rfl, rfl, by simp, rfl⟩

/-- Without a build, an answer tells nothing new. -/
theorem sameFacts_answered (h : List Event) (key : Nat) (outcome : Except Raised StampedPlan) :
    SameFacts h (.returned key outcome :: .asked key :: h) :=
  ⟨fun _ => rfl, rfl, by simp, rfl⟩

theorem SameFacts.isLive (hf : SameFacts h h') (key : Nat) : IsLive key h' ↔ IsLive key h := by
  rw [IsLive, IsLive, hf.dropped, hf.underWay]

/-- What tells nothing new keeps the agreement. -/
theorem SameFacts.agrees (hf : SameFacts w.history h) (hw : Agrees j w) (hh : IsHistory h)
    (hidle : awaits h = false) : Agrees j { w with history := h } where
  history := hh
  idle := hidle
  plans := by
    refine ⟨fun key made => ?_, hw.plans.distinct, hf.completions ▸ hw.plans.stamps⟩
    rw [hf.isLive, hf.kept]
    exact hw.plans.found key made
  locks := ⟨hf.underWay ▸ hw.locks.held, hw.locks.numbers⟩
  names := hw.names.congr rfl rfl hf.dropped
  busy := hf.underWay ▸ hw.busy
  used := hw.used
  records := by
    rw [Tells, hf.completions]
    exact hw.records

theorem SameFacts.resumes (hf : SameFacts w.history h) : Resumes w { w with history := h } :=
  .inl ⟨hf.underWay, rfl⟩

/-! ## Names

A name stands for one key at a time. The key is made when the name is asked for and there is none;
giving the name up leaves the key to the builds that still use it. -/

theorem script_current (w : Watched) :
    current (scriptPart.read w) = (.ok w.script, w.script) := rfl

theorem isAlive_iff (script : ScriptState) (key : Nat) :
    script.isAlive key = true ↔ key ∈ script.names.map Prod.snd ∨ key ∈ script.busy := by
  rw [isAlive, Bool.or_eq_true, List.any_eq_true, List.contains_iff_mem, List.mem_map]
  simp

/-- A key is alive if it has a name or is in use by a build. -/
theorem HoldsNames.isAlive_iff (hnames : HoldsNames script h)
    (hbusy : script.busy = (underWay h).map Prod.fst) (hkey : key < script.objects) :
    script.isAlive key = true ↔ IsLive key h := by
  rw [PlanCache.isAlive_iff, hnames.named key hkey, hbusy, IsLive]
  simp

theorem mem_of_lookup {names : List (String × Nat)} {name : String}
    (h : names.lookup name = some key) : (name, key) ∈ names := by
  obtain ⟨l₁, l₂, rfl, -⟩ := List.lookup_eq_some_iff.mp h
  simp

/-- A key that has a name was not given up. -/
theorem HoldsNames.of_lookup (hnames : HoldsNames script h) {name : String}
    (hname : script.names.lookup name = some key) :
    key < script.objects ∧ .dropped key ∉ h := by
  have hmem := mem_of_lookup hname
  have hkey := hnames.known _ hmem
  exact ⟨hkey, (hnames.named key hkey).mp (List.mem_map.mpr ⟨_, hmem, rfl⟩)⟩

/-- A new object is not known yet. -/
theorem HoldsNames.extend (hnames : HoldsNames script h) {name : String}
    (hname : script.names.lookup name = none) :
    HoldsNames { script with
      names := (name, script.objects) :: script.names, objects := script.objects + 1 } h where
  names := by
    rw [List.map_cons, List.nodup_cons]
    refine ⟨fun hmem => ?_, hnames.names⟩
    obtain ⟨entry, hentry, rfl⟩ := List.mem_map.mp hmem
    simpa using List.lookup_eq_none_iff.mp hname entry hentry
  objects := by
    rw [List.map_cons, List.nodup_cons]
    refine ⟨fun hmem => ?_, hnames.objects⟩
    obtain ⟨entry, hentry, heq⟩ := List.mem_map.mp hmem
    exact absurd (hnames.known entry hentry) (by omega)
  known := by
    refine List.forall_mem_cons.mpr ⟨Nat.lt_succ_self _, fun entry hentry => ?_⟩
    exact Nat.lt_succ_of_lt (hnames.known entry hentry)
  gone key hkey := Nat.lt_succ_of_lt (hnames.gone key hkey)
  named key hkey := by
    rw [List.map_cons, List.mem_cons]
    rcases Nat.lt_succ_iff_lt_or_eq.mp hkey with hlt | rfl
    · rw [hnames.named key hlt]
      exact ⟨fun h => h.resolve_left (Nat.ne_of_lt hlt), .inr⟩
    · exact ⟨fun _ hgone => absurd (hnames.gone _ hgone) (Nat.lt_irrefl _), fun _ => .inl rfl⟩

/-- **A name is resolved** to a key that is alive. At most a new object is made for it; nothing that
the history tells is changed by that. -/
theorem resolve_agrees (hw : Agrees j w) (name : String) :
    ∃ key w', scriptPart.lift (resolve (.named name)) w = (.ok key, w') ∧ Agrees j w' ∧
      w'.history = w.history ∧ w'.script.cache = w.script.cache ∧
      w'.script.names.lookup name = some key := by
  rcases hname : w.script.names.lookup name with _ | key
  · refine ⟨w.script.objects, { w with script := { w.script with
        names := (name, w.script.objects) :: w.script.names
        objects := w.script.objects + 1 } }, ?_, ?_, rfl, rfl, by simp⟩
    · rw [Part.lift, resolve, Action.bind_of_ok (script_current w), hname]
      rfl
    · exact ⟨hw.history, hw.idle, hw.plans, hw.locks, hw.names.extend hname, hw.busy,
        fun key hkey => Nat.lt_succ_of_lt (hw.used key hkey), hw.records⟩
  · refine ⟨key, w, ?_, hw, rfl, rfl, hname⟩
    rw [Part.lift, resolve, Action.bind_of_ok (script_current w), hname]
    rfl

/-! ## Operations without a build

Looking a plan up, counting the plans and clearing them are done in one step. Only clearing does
something to the builds under way: none of them is current any more, and their locks are forgotten.
-/

/-- What is found for a name is what is kept for its key. -/
theorem Agrees.find?_eq (hw : Agrees j w) {name : String}
    (hname : w.script.names.lookup name = some key) :
    w.script.cache.find? key = kept key w.history := by
  have hlive : IsLive key w.history := .inl (hw.names.of_lookup hname).2
  ext made
  rw [hw.plans.found]
  exact and_iff_right hlive

theorem note_run (e : Event) (w : Watched) :
    note e w = (.ok (), { w with history := e :: w.history }) := rfl

theorem getKey_of_lookup {name : String} (hname : script.names.lookup name = some key) :
    getKey (.named name) script = (.ok (script.cache.find? key), script) := by
  have hcurrent : current script = (.ok script, script) := rfl
  have hresolve : resolve (.named name) script = (.ok key, script) := by
    rw [resolve, Action.bind_of_ok hcurrent, hname]
    rfl
  rw [getKey, Action.bind_of_ok hresolve, Action.bind_of_ok hcurrent]
  rfl

/-- **What is looked up** is what is kept. -/
theorem run_get (hw : Agrees j w) (name : String) (next : Option StampedPlan → Routine) :
    ∃ key w', (Routine.get name next).run w = (next (kept key w.history)).run w' ∧ Agrees j w' ∧
      Resumes w w' := by
  obtain ⟨key, u, hresolve, hu, hhistory, hcache, hname⟩ := resolve_agrees hw name
  have hget : scriptPart.lift (getKey (.named name)) u = (.ok (kept key u.history), u) := by
    rw [Part.lift, show scriptPart.read u = u.script from rfl, getKey_of_lookup hname,
      hu.find?_eq hname]
    rfl
  have hfacts := sameFacts_got u.history key (kept key u.history)
  refine ⟨key, { u with history := .got key (kept key u.history) :: u.history }, ?_,
    hfacts.agrees hu (.got key hu.history hu.idle) rfl, ?_⟩
  · rw [Routine.run, Action.bind_of_ok hresolve, Action.bind_of_ok hget,
      Action.bind_of_ok (note_run _ u), hhistory]
  · exact .inl ⟨hfacts.underWay.trans (congrArg _ hhistory), congrArg _ hcache⟩

/-- The plans are counted. -/
theorem run_size (hw : Agrees j w) (next : Nat → Routine) :
    ∃ n w', (Routine.size next).run w = (next n).run w' ∧ Agrees j w' ∧ Resumes w w' := by
  have hfacts := sameFacts_sized w.history w.script.cache.size
  have hhistory : IsHistory (.sized w.script.cache.size :: w.history) := by
    rw [PlanCache.size, ← List.length_map Prod.fst]
    exact .sized hw.history hw.idle hw.plans.distinct hw.plans.mem_keys
  refine ⟨w.script.cache.size, _, ?_, hfacts.agrees hw hhistory rfl, hfacts.resumes⟩
  rw [Routine.run, Action.bind_of_ok (show scriptPart.current w = (.ok w.script, w) from rfl),
    Action.bind_of_ok (note_run _ w)]

/-- After the cache is cleared nothing is kept, and no build is current. The factories that run go
on, but their locks are not there any more when they end. -/
theorem run_clear (hw : Agrees j w) (next : Routine) :
    ∃ w', (Routine.clear next).run w = next.run w' ∧ Agrees j w' ∧ Resumes w w' := by
  have hstale : ((underWay w.history).map fun build => (build.1, false)).filter Prod.snd = [] := by
    rw [List.filter_eq_nil_iff]
    simp
  refine ⟨{ script := { w.script with cache := w.script.cache.clear }
            history := .cleared :: w.history }, ?_, ?_, .inr ⟨rfl, rfl⟩⟩
  · rw [Routine.run]
    rfl
  · refine ⟨.cleared hw.history hw.idle, rfl, ⟨fun key made => ?_, List.nodup_nil, hw.plans.stamps⟩,
      ⟨?_, by simp [PlanCache.clear]⟩, hw.names.congr rfl rfl (by simp), ?_, hw.used, hw.records⟩
    · simp [PlanCache.clear, find?, kept]
    · rw [underWay, hstale]
      rfl
    · rw [underWay, List.map_map]
      exact hw.busy

/-! ## Giving names up

A key is swept away when nothing refers to it any more, that is, when its name is given up and no
build uses it. Both giving up a name and ending a build may be the last of these, so the sweep is
treated on its own. -/

/-- A key that is no longer alive is taken out of the cache, and nothing else. -/
theorem HoldsPlans.sweep (hplans : HoldsPlans (fun k => IsLive k h ∨ k = key) script.cache h)
    (halive : script.isAlive key = true ↔ IsLive key h) :
    HoldsPlans (IsLive · h) (script.sweep key).cache h := by
  rw [ScriptState.sweep]
  by_cases hlive : script.isAlive key = true
  · rw [if_pos hlive]
    refine ⟨fun k made => ?_, hplans.distinct, hplans.stamps⟩
    have hiff : IsLive k h ∨ k = key ↔ IsLive k h :=
      or_iff_left_of_imp fun heq => heq ▸ halive.mp hlive
    rw [hplans.found, hiff]
  · rw [if_neg hlive]
    refine ⟨fun k made => ?_, ?_, hplans.stamps⟩
    · have hfind : (script.cache.forget key).find? k =
          if k = key then none else script.cache.find? k := find?_erase script.cache key k
      dsimp only
      rw [hfind]
      by_cases hk : k = key
      · subst hk
        simp [halive.not.mp hlive]
      · rw [if_neg hk, hplans.found, or_iff_left hk]
    · exact hplans.distinct.sublist (List.filter_sublist.map Prod.fst)

theorem HoldsLocks.sweep (hlocks : HoldsLocks script.cache h)
    (halive : script.isAlive key = true ↔ IsLive key h) :
    HoldsLocks (script.sweep key).cache h ∧ (script.sweep key).cache.held = script.cache.held := by
  rw [ScriptState.sweep]
  by_cases hlive : script.isAlive key = true
  · rw [if_pos hlive]
    exact ⟨hlocks, rfl⟩
  · rw [if_neg hlive]
    -- a key whose lock is held is in use by a build
    have hheld : (script.cache.held.filter fun lock => lock.1 ≠ key) = script.cache.held := by
      rw [List.filter_eq_self]
      intro lock hlock
      have hmem : lock.1 ∈ script.cache.held.map Prod.fst := List.mem_map_of_mem hlock
      rw [hlocks.held] at hmem
      obtain ⟨build, hbuild, heq⟩ := List.mem_map.mp hmem
      have hne : lock.1 ≠ key := by
        rintro rfl
        refine halive.not.mp hlive (.inr ⟨build.2, ?_⟩)
        rw [← heq]
        exact (List.mem_filter.mp hbuild).1
      simpa using hne
    refine ⟨⟨?_, ?_⟩, hheld⟩
    · exact (congrArg (List.map Prod.fst) hheld).trans hlocks.held
    · exact fun lock hlock => hlocks.numbers lock (hheld ▸ hlock)

theorem sweep_rest (script : ScriptState) (key : Nat) :
    script.sweep key = { script with cache := (script.sweep key).cache } := by
  rw [ScriptState.sweep]
  split <;> rfl

/-- **A key is swept away**, unless it is alive. Before that the cache may hold a plan for it even
if it is not. -/
theorem sweep_agrees (hh : IsHistory h) (hidle : awaits h = false)
    (hplans : HoldsPlans (fun k => IsLive k h ∨ k = key) script.cache h)
    (hlocks : HoldsLocks script.cache h) (hnames : HoldsNames script h)
    (hbusy : script.busy = (underWay h).map Prod.fst)
    (hused : ∀ k ∈ script.busy, k < script.objects)
    (hrecords : Tells j script.journal h) (hkey : key < script.objects) :
    Agrees j { script := script.sweep key, history := h } ∧
      (script.sweep key).cache.held = script.cache.held := by
  have halive : script.isAlive key = true ↔ IsLive key h := hnames.isAlive_iff hbusy hkey
  obtain ⟨hswept, hheld⟩ := hlocks.sweep halive
  have hrest := sweep_rest script key
  refine ⟨⟨hh, hidle, hplans.sweep halive, hswept, ?_, ?_, ?_, ?_⟩, hheld⟩
  · change HoldsNames (script.sweep key) h
    rw [hrest]
    exact hnames.congr rfl rfl fun _ => Iff.rfl
  · rw [hrest]
    exact hbusy
  · rw [hrest]
    exact hused
  · rw [hrest]
    exact hrecords

/-- A name that is given up leaves the others as they are. No two names have the same key, so
exactly one key loses its name. -/
theorem HoldsNames.give_up (hnames : HoldsNames script h) {name : String}
    (hname : script.names.lookup name = some key) :
    HoldsNames { script with names := script.names.filter fun e => e.1 ≠ name }
      (.dropped key :: h) where
  names := hnames.names.sublist (List.filter_sublist.map Prod.fst)
  objects := hnames.objects.sublist (List.filter_sublist.map Prod.snd)
  known entry hentry := hnames.known entry (List.mem_filter.mp hentry).1
  gone k hk := by
    rcases List.mem_cons.mp hk with heq | hk
    · obtain rfl := Event.dropped.inj heq
      exact (hnames.of_lookup hname).1
    · exact hnames.gone k hk
  named k hk := by
    have hmem := mem_of_lookup hname
    rw [List.mem_cons, not_or, ← hnames.named k hk, List.mem_map, List.mem_map]
    constructor
    · rintro ⟨entry, hentry, rfl⟩
      obtain ⟨hentry, hne⟩ := List.mem_filter.mp hentry
      refine ⟨fun heq => ?_, entry, hentry, rfl⟩
      -- a key has one name only
      have hkey : entry.2 = key := Event.dropped.inj heq
      have hsame : entry = (name, key) :=
        List.inj_on_of_nodup_map hnames.objects hentry hmem hkey
      simp [hsame] at hne
    · rintro ⟨hne, entry, hentry, rfl⟩
      refine ⟨entry, List.mem_filter.mpr ⟨hentry, ?_⟩, rfl⟩
      have hother : entry.1 ≠ name := by
        intro heq
        have hsame : entry = (name, key) := List.inj_on_of_nodup_map hnames.names hentry hmem heq
        exact hne (by rw [hsame])
      simpa using hother

/-- **A name is given up.** If the name is not in use nothing happens, and nothing is noted. -/
theorem run_drop (hw : Agrees j w) (name : String) (next : Routine) :
    ∃ w', (Routine.drop name next).run w = next.run w' ∧ Agrees j w' ∧ Resumes w w' := by
  have hcurrent : scriptPart.current w = (.ok w.script, w) := rfl
  rcases hname : w.script.names.lookup name with _ | key
  · have hdrop : scriptPart.lift (ScriptOp.drop name).run w = (.ok .nothing, w) := by
      rw [Part.lift, ScriptOp.run, Action.bind_of_ok (script_current w), hname]
      rfl
    refine ⟨w, ?_, hw, .refl w⟩
    rw [Routine.run, Action.bind_of_ok hcurrent]
    dsimp only
    rw [Action.bind_of_ok hdrop, hname]
  · have hnames := hw.names.give_up hname
    obtain ⟨hkey, hnew⟩ := hw.names.of_lookup hname
    let script := { w.script with names := w.script.names.filter fun e => e.1 ≠ name }
    have hdrop : scriptPart.lift (ScriptOp.drop name).run w =
        (.ok .nothing, { w with script := script.sweep key }) := by
      rw [Part.lift, ScriptOp.run, Action.bind_of_ok (script_current w), hname]
      rfl
    -- before the sweep the cache holds what it held, and the key may not be alive any more
    have hplans : HoldsPlans (fun k => IsLive k (.dropped key :: w.history) ∨ k = key)
        script.cache (.dropped key :: w.history) := by
      refine ⟨fun k made => ?_, hw.plans.distinct, hw.plans.stamps⟩
      have hlive : IsLive k (.dropped key :: w.history) ∨ k = key ↔ IsLive k w.history := by
        by_cases hk : k = key
        · subst hk
          exact iff_of_true (.inr rfl) (.inl hnew)
        · simp [IsLive, hk, underWay]
      rw [hlive]
      exact hw.plans.found k made
    obtain ⟨hagrees, hheld⟩ := sweep_agrees (.dropped hw.history hw.idle hnew) rfl hplans
      ⟨hw.locks.held, hw.locks.numbers⟩ hnames hw.busy hw.used hw.records hkey
    refine ⟨_, ?_, hagrees, .inl ⟨rfl, hheld⟩⟩
    rw [Routine.run, Action.bind_of_ok hcurrent]
    dsimp only
    rw [Action.bind_of_ok hdrop, hname]
    rfl

/-! ## Builds

A build takes the lock for its key, runs its factory, and gives the lock back. What the factory does
in between is a routine of its own, which may fetch other plans or clear the cache; of all that only
`Resumes` is used here. -/

theorem note_bind {α : Type} (e : Event) (x : Action Watched α) (w : Watched) :
    (note e >>= fun _ => x) w = x { w with history := e :: w.history } :=
  Action.bind_of_ok (note_run e w) _

/-- An object is in use while its plan is fetched. So its key stays alive even if its name is given
up by the factory, and it may be swept away at the end. -/
theorem fetchObject_run {make : Action Watched Plan} {outcome : Except Raised StampedPlan}
    (h : fetch (cachePart.inside scriptPart) (journalPart.inside scriptPart) key make
      { w with script := { w.script with busy := key :: w.script.busy } } = (outcome, w')) :
    fetchObject scriptPart key make w = (outcome, { w' with
      script := ScriptState.sweep key { w'.script with busy := w'.script.busy.erase key } }) := by
  have hpush : scriptPart.update (fun s => { s with busy := key :: s.busy }) w =
      (.ok (), { w with script := { w.script with busy := key :: w.script.busy } }) := rfl
  rw [fetchObject, keeping, Action.bind_of_ok hpush, Action.always, h]
  rfl

/-- An answer without a build leaves everything as it was. -/
theorem fetchObject_answered {make : Action Watched Plan} {outcome : Except Raised StampedPlan}
    (halive : w.script.isAlive key = true)
    (h : fetch (cachePart.inside scriptPart) (journalPart.inside scriptPart) key make
      { w with script := { w.script with busy := key :: w.script.busy } } =
        (outcome, { w with script := { w.script with busy := key :: w.script.busy } })) :
    fetchObject scriptPart key make w = (outcome, w) := by
  rw [fetchObject_run h]
  have hsweep : ScriptState.sweep key { w.script with
      busy := (key :: w.script.busy).erase key } = w.script := by
    rw [List.erase_cons_head, ScriptState.sweep]
    exact if_pos halive
  exact congrArg (fun script => (outcome, { w with script := script })) hsweep

/-- Before a build a lock is taken. -/
def opened (key : Nat) (w : Watched) : Watched where
  script := { w.script with
    busy := key :: w.script.busy, cache := w.script.cache.acquire key }
  history := .started key :: .asked key :: w.history

/-- **A build begins.** The new lock has a number that no other lock has, so that giving it back
later cannot give back another one. -/
theorem opened_agrees (hw : Agrees j w) {name : String}
    (hname : w.script.names.lookup name = some key) (hkept : kept key w.history = none)
    (hfree : (key, true) ∉ underWay w.history) : Agrees j (opened key w) where
  history := .started (.asked key hw.history hw.idle) hkept hfree
  idle := rfl
  plans := by
    refine ⟨fun k made => ?_, hw.plans.distinct, fun build hbuild => ?_⟩
    · have hlive : IsLive k (opened key w).history ↔ IsLive k w.history := by
        by_cases hk : k = key
        · subst hk
          exact iff_of_true (.inr ⟨true, List.mem_cons_self⟩)
            (.inl (hw.names.of_lookup hname).2)
        · simp [IsLive, opened, underWay, hk]
      rw [hlive]
      exact hw.plans.found k made
    · exact Nat.lt_succ_of_lt (hw.plans.stamps build hbuild)
  locks := by
    refine ⟨?_, List.forall_mem_cons.mpr ⟨Nat.lt_succ_self _, fun lock hlock => ?_⟩⟩
    · exact congrArg (key :: ·) hw.locks.held
    · exact Nat.lt_succ_of_lt (hw.locks.numbers lock hlock)
  names := hw.names.congr rfl rfl (by simp [opened])
  busy := congrArg (key :: ·) hw.busy
  used := List.forall_mem_cons.mpr ⟨(hw.names.of_lookup hname).1, hw.used⟩
  records := hw.records

/-- After a build its lock is given back, and its key may be swept away. -/
def closed (key number : Nat) (w : Watched) (h : List Event) : Watched where
  script := ScriptState.sweep key { w.script with
    cache := w.script.cache.release number, busy := w.script.busy.erase key }
  history := h

/-- The locks that are left when a build gives its lock back: it is the lock that was taken last, or
all locks are forgotten already. -/
def LeavesLocks (key number : Nat) (current : Bool) (held locks : List (Nat × Nat)) : Prop :=
  (current = true ∧ held = (key, number) :: locks ∧ ∀ lock ∈ locks, lock.2 < number) ∨
    (current = false ∧ held = [] ∧ locks = [])

theorem release_held {current : Bool} {number : Nat} {held locks : List (Nat × Nat)}
    (h : LeavesLocks key number current held locks) :
    held.filter (fun lock => lock.2 ≠ number) = locks := by
  rcases h with ⟨-, rfl, hlocks⟩ | ⟨-, rfl, rfl⟩
  · have hkeep : locks.filter (fun lock => lock.2 ≠ number) = locks := by
      rw [List.filter_eq_self]
      intro lock hlock
      simpa using Nat.ne_of_lt (hlocks lock hlock)
    rw [List.filter_cons, if_neg (by simp), hkeep]
  · rfl

/-- **A build ends.** In `w` its plan is stored and reported, if there is one, but the build is
still under way. -/
theorem closed_agrees {builds : List (Nat × Bool)} {current : Bool} {number : Nat}
    {locks : List (Nat × Nat)} (hbuild : underWay w.history = (key, current) :: builds)
    (hlocks : HoldsLocks w.script.cache w.history) (hnames : HoldsNames w.script w.history)
    (hbusy : w.script.busy = (underWay w.history).map Prod.fst)
    (hused : ∀ k ∈ w.script.busy, k < w.script.objects)
    (hheld : LeavesLocks key number current w.script.cache.held locks)
    (hh : IsHistory h) (hidle : awaits h = false) (hbuilds : underWay h = builds)
    (hdropped : ∀ k, .dropped k ∈ h ↔ .dropped k ∈ w.history)
    (hplans : HoldsPlans (IsLive · w.history) w.script.cache h)
    (hrecords : Tells j w.script.journal h) :
    Agrees j (closed key number w h) ∧ (closed key number w h).script.cache.held = locks := by
  let script := { w.script with
    cache := w.script.cache.release number, busy := w.script.busy.erase key }
  have hreleased : script.cache.held = locks := release_held hheld
  have hbusy' : script.busy = (underWay h).map Prod.fst := by
    have herase : script.busy = w.script.busy.erase key := rfl
    rw [herase, hbusy, hbuild, hbuilds, List.map_cons, List.erase_cons_head]
  have hkey : key < script.objects := hused key (by rw [hbusy, hbuild]; exact List.mem_cons_self)
  have hheld' : locks.map Prod.fst = (builds.filter Prod.snd).map Prod.fst := by
    have hall := hlocks.held
    rw [hbuild] at hall
    rcases hheld with ⟨rfl, hcons, -⟩ | ⟨rfl, hnil, rfl⟩
    · rw [hcons] at hall
      exact (List.cons.inj hall).2
    · rw [hnil] at hall
      exact hall
  have hlocks' : HoldsLocks script.cache h := by
    refine ⟨by rw [hreleased, hbuilds, hheld'], fun lock hlock => ?_⟩
    exact hlocks.numbers lock (List.mem_filter.mp hlock).1
  have hplans' : HoldsPlans (fun k => IsLive k h ∨ k = key) script.cache h := by
    refine ⟨fun k made => ?_, hplans.distinct, hplans.stamps⟩
    have hlive : IsLive k h ∨ k = key ↔ IsLive k w.history := by
      rw [IsLive, IsLive, hdropped, hbuilds, hbuild]
      by_cases hk : k = key
      · subst hk
        exact iff_of_true (.inr rfl) (.inr ⟨current, List.mem_cons_self⟩)
      · simp [hk]
    rw [hlive]
    exact hplans.found k made
  have hused' : ∀ k ∈ script.busy, k < script.objects :=
    fun k hk => hused k (List.mem_of_mem_erase hk)
  obtain ⟨hagrees, hsame⟩ := sweep_agrees hh hidle hplans' hlocks'
    (hnames.congr rfl rfl hdropped) hbusy' hused' hrecords hkey
  exact ⟨hagrees, hsame.trans hreleased⟩

/-- A factory leaves its own build under way; its lock is still held, unless the cache was
cleared. -/
theorem Resumes.of_opened (hlocks : HoldsLocks w.script.cache w.history)
    (h : Resumes (opened key w) w') :
    ∃ current builds locks, underWay w'.history = (key, current) :: builds ∧
      LeavesLocks key w.script.cache.fresh current w'.script.cache.held locks ∧
      ((builds = underWay w.history ∧ locks = w.script.cache.held) ∨
        (builds = (underWay w.history).map (fun build => (build.1, false)) ∧ locks = [])) := by
  rcases h with ⟨hbuilds, hheld⟩ | ⟨hbuilds, hheld⟩
  · exact ⟨true, _, _, hbuilds, .inl ⟨rfl, hheld, hlocks.numbers⟩, .inl ⟨rfl, rfl⟩⟩
  · exact ⟨false, _, [], hbuilds, .inr ⟨rfl, hheld, rfl⟩, .inr ⟨rfl, rfl⟩⟩

/-- What a factory for a key ends with is noted. -/
theorem observed_run {factory : Action Watched Plan} {outcome : Except Raised Plan} {u : Watched}
    (h : factory { w with history := .started key :: w.history } = (outcome, u)) :
    observed key factory w = (outcome, { u with history :=
      (match outcome with
        | .ok plan => .completed key ⟨u.script.cache.fresh, plan⟩
        | .error r => .failed key r) :: u.history }) := by
  have hattempt : factory.attempt { w with history := .started key :: w.history } =
      (.ok outcome, u) := by
    rw [Action.attempt, h]
  rw [observed, note_bind, Action.bind_of_ok hattempt]
  rcases outcome with r | plan
  · exact note_bind _ _ u
  · exact note_bind _ _ u

/-- **A factory fails**, and nothing is stored. -/
theorem failed_agrees (hw : Agrees j w) {builds : List (Nat × Bool)} {current : Bool}
    {number : Nat} {locks : List (Nat × Nat)}
    (hbuild : underWay w.history = (key, current) :: builds)
    (hheld : LeavesLocks key number current w.script.cache.held locks) (r : Raised) :
    let h := .returned key (.error r) :: .failed key r :: w.history
    Agrees j (closed key number w h) ∧ (closed key number w h).script.cache.held = locks := by
  refine closed_agrees hbuild hw.locks hw.names hw.busy hw.used hheld
    (.raised (.failed r hw.history hw.idle hbuild)) rfl ?_ (fun k => by simp)
    ⟨hw.plans.found, hw.plans.distinct, hw.plans.stamps⟩ hw.records
  change (underWay w.history).tail = builds
  rw [hbuild, List.tail_cons]

/-- The state in which a plan is stored and reported. -/
def stored (key : Nat) (plan : Plan) (journal : Journal) (w : Watched) : Watched where
  script := { w.script with
    cache := { w.script.cache.insert key ⟨w.script.cache.fresh, plan⟩ with
      fresh := w.script.cache.fresh + 1 }
    journal := journal }
  history := w.history

/-- **A factory makes a plan**, which is stored and reported. It is stored whether its build is
current or not, and it takes the place of a plan that may have been stored under the key in the
meantime. -/
theorem completed_agrees (hw : Agrees j w) {builds : List (Nat × Bool)} {current : Bool}
    {number : Nat} {locks : List (Nat × Nat)}
    (hbuild : underWay w.history = (key, current) :: builds)
    (hheld : LeavesLocks key number current w.script.cache.held locks) {plan : Plan} {r : Record}
    (hr : TellsOf plan r) :
    let made := ⟨w.script.cache.fresh, plan⟩
    let h := .returned key (.ok made) :: .completed key made :: w.history
    let u := stored key plan (w.script.journal.logged [r]) w
    Agrees j (closed key number u h) ∧ (closed key number u h).script.cache.held = locks := by
  intro made h u
  have hlocks : HoldsLocks u.script.cache u.history :=
    ⟨hw.locks.held, fun lock hlock => Nat.lt_succ_of_lt (hw.locks.numbers lock hlock)⟩
  have hnames : HoldsNames u.script u.history := hw.names.congr rfl rfl fun _ => Iff.rfl
  have hh : IsHistory h := .made (.completed hw.history hw.idle hbuild hw.plans.stamps)
  refine closed_agrees hbuild hlocks hnames hw.busy hw.used hheld hh rfl ?_ (fun k => ?_) ?_ ?_
  · change (underWay w.history).tail = builds
    rw [hbuild, List.tail_cons]
  · simp [h, u, stored]
  · refine ⟨fun k other => ?_, ?_, fun build hmem => ?_⟩
    · have hfind : u.script.cache.find? k =
          if k = key then some made else w.script.cache.find? k :=
        find?_insert w.script.cache key k made
      have hkept : kept k h = if key = k then some made else kept k w.history := rfl
      rw [hfind, hkept]
      by_cases hk : k = key
      · subst hk
        have hlive : IsLive k w.history := .inr ⟨current, by rw [hbuild]; exact List.mem_cons_self⟩
        rw [if_pos rfl, if_pos rfl]
        exact (and_iff_right hlive).symm
      · rw [if_neg hk, if_neg (Ne.symm hk)]
        exact hw.plans.found k other
    · have hrest := hw.plans.distinct.sublist
        ((List.filter_sublist (p := fun e => decide (e.1 ≠ key))).map Prod.fst)
      refine List.nodup_cons.mpr ⟨fun hmem => ?_, hrest⟩
      obtain ⟨entry, hentry, heq⟩ := List.mem_map.mp hmem
      simpa [heq] using (List.mem_filter.mp hentry).2
    · change build.2.stamp < w.script.cache.fresh + 1
      rcases List.mem_append.mp hmem with hmem | hmem
      · exact Nat.lt_succ_of_lt (hw.plans.stamps build hmem)
      · obtain rfl := List.mem_singleton.mp hmem
        exact Nat.lt_succ_self _
  · obtain ⟨records, hjournal, hrecords⟩ := hw.records
    refine ⟨records ++ [r], ?_, List.rel_append hrecords (.cons hr .nil)⟩
    change w.script.journal.logged [r] = _
    rw [hjournal, Journal.logged_logged]

/-! ## Fetching

Factories are routines, so a routine runs well by induction on its structure: the statement for a
factory is an induction hypothesis when the plan is fetched that it makes. -/

/-- Every run of a routine agrees with its history, and ends with a plan that can be reported. -/
def RunsWell (before : Journal) (routine : Routine) : Prop :=
  ∀ w, Agrees before w → ∃ outcome w', routine.run w = (outcome, w') ∧ Agrees before w' ∧
    Resumes w w' ∧ ∀ plan, outcome = .ok plan → plan.IsCountable

/-- **A plan is built**, or its factory fails. The beginning and the end of the build are put
together here with the run of the factory between them. -/
theorem fetchObject_built (hj : j.IsWritable Naming.empty) {factory : Routine}
    (hfactory : RunsWell j factory) (hw : Agrees j w) {name : String}
    (hname : w.script.names.lookup name = some key) (hkept : kept key w.history = none)
    (hfree : (key, true) ∉ underWay w.history) :
    ∃ outcome w', fetchObject scriptPart key (observed key factory.run)
        { w with history := .asked key :: w.history } = (outcome, w') ∧
      Agrees j { w' with history := .returned key outcome :: w'.history } ∧
      Resumes w { w' with history := .returned key outcome :: w'.history } := by
  obtain ⟨outcome, t, hrun, ht, hresumes, hcountable⟩ :=
    hfactory (opened key w) (opened_agrees hw hname hkept hfree)
  -- the factory may have cleared the cache, and then its build is not current any more
  obtain ⟨current, builds, locks, hbuild, hheld, hbuilds⟩ := hresumes.of_opened hw.locks
  let part : Part Watched (PlanCache Nat) := cachePart.inside scriptPart
  let used : Watched := { script := { w.script with busy := key :: w.script.busy }
                          history := .asked key :: w.history }
  have hpart : part.IsLawful := fun _ _ => rfl
  have hnone : (part.read used).find? key = none := (hw.find?_eq hname).trans hkept
  have hunlocked : (part.read used).isHeld key = false := by
    rw [← Bool.not_eq_true, isHeld_eq_true_iff]
    change key ∉ w.script.cache.held.map Prod.fst
    rw [hw.locks.held]
    simpa using hfree
  have hobserved := observed_run (show factory.run { part.write ((part.read used).acquire key) used
    with history := .started key :: used.history } = (outcome, t) from hrun)
  have htail : (underWay t.history).tail = builds := by rw [hbuild, List.tail_cons]
  have hresumed {u : Watched} (hu : underWay u.history = builds)
      (hlocks : u.script.cache.held = locks) : Resumes w u := by
    rw [Resumes, hu, hlocks]
    exact hbuilds
  rcases outcome with r | plan
  · have hfetch : fetch part (journalPart.inside scriptPart) key (observed key factory.run) used =
        (.error r, _) := fetch_of_free hpart hnone hunlocked (build_of_error hobserved)
    obtain ⟨hagrees, hlocks⟩ := failed_agrees ht hbuild hheld r
    exact ⟨_, _, fetchObject_run hfetch, hagrees, hresumed htail hlocks⟩
  · obtain ⟨records, hjournal, -⟩ := ht.records
    have hwritable : t.script.journal.IsWritable Naming.empty := by
      rw [hjournal]
      exact hj
    obtain ⟨r, hr, hreport⟩ := reportBuilt_run (hcountable plan rfl) hwritable
    have hfetch : fetch part (journalPart.inside scriptPart) key (observed key factory.run) used =
        (.ok ⟨t.script.cache.fresh, plan⟩, _) :=
      fetch_of_free hpart hnone hunlocked (build_of_ok hobserved rfl hreport)
    obtain ⟨hagrees, hlocks⟩ := completed_agrees ht hbuild hheld hr
    exact ⟨_, _, fetchObject_run hfetch, hagrees, hresumed htail hlocks⟩

/-- **A plan is fetched.** It is what is kept, or it is built; nothing is done while the key has a
current build. -/
theorem run_fetch (hj : j.IsWritable Naming.empty) {factory : Routine}
    (hfactory : RunsWell j factory) (hw : Agrees j w) (name : String)
    (next : Except Raised StampedPlan → Routine) :
    ∃ outcome w', (Routine.fetch name factory next).run w = (next outcome).run w' ∧ Agrees j w' ∧
      Resumes w w' := by
  obtain ⟨key, u, hresolve, hu, hhistory, hcache, hname⟩ := resolve_agrees hw name
  obtain ⟨outcome, v, hfetch, hv, hresumes⟩ : ∃ outcome v,
      fetchObject scriptPart key (observed key factory.run)
        { u with history := .asked key :: u.history } = (outcome, v) ∧
      Agrees j { v with history := .returned key outcome :: v.history } ∧
      Resumes u { v with history := .returned key outcome :: v.history } := by
    have halive : u.script.isAlive key = true :=
      (isAlive_iff _ _).mpr (.inl (List.mem_map.mpr ⟨_, mem_of_lookup hname, rfl⟩))
    rcases hkept : kept key u.history with _ | made
    · by_cases hlocked : (key, true) ∈ underWay u.history
      · have hheld : u.script.cache.isHeld key = true := by
          rw [isHeld_eq_true_iff, hu.locks.held]
          exact List.mem_map.mpr ⟨_, List.mem_filter.mpr ⟨hlocked, rfl⟩, rfl⟩
        have hfacts := sameFacts_answered u.history key (.error (.fault .deadlock))
        refine ⟨_, _, fetchObject_answered halive (fetch_of_held ?_ hheld),
          hfacts.agrees hu (.locked (.asked key hu.history hu.idle) hkept hlocked) rfl,
          hfacts.resumes⟩
        exact (hu.find?_eq hname).trans hkept
      · exact fetchObject_built hj hfactory hu hname hkept hlocked
    · have hfacts := sameFacts_answered u.history key (.ok made)
      refine ⟨_, _, fetchObject_answered halive (fetch_of_some ?_),
        hfacts.agrees hu (.hit (.asked key hu.history hu.idle) hkept) rfl, hfacts.resumes⟩
      exact (hu.find?_eq hname).trans hkept
  have hstart : Resumes w u := .inl ⟨congrArg _ hhistory, congrArg _ hcache⟩
  refine ⟨outcome, _, ?_, hv, hstart.trans hresumes⟩
  have hattempt : (fetchObject scriptPart key (observed key factory.run)).attempt
      { u with history := .asked key :: u.history } = (.ok outcome, v) := by
    rw [Action.attempt, hfetch]
  rw [Routine.run, Action.bind_of_ok hresolve, note_bind, Action.bind_of_ok hattempt, note_bind]

/-- A routine whose first operation agrees runs well if what comes after does. -/
theorem RunsWell.of_step {routine : Routine}
    (h : ∀ w, Agrees j w → ∃ next u, RunsWell j next ∧ routine.run w = next.run u ∧ Agrees j u ∧
      Resumes w u) : RunsWell j routine := by
  intro w hw
  obtain ⟨next, u, hnext, hrun, hu, hresumes⟩ := h w hw
  obtain ⟨outcome, w', hrest, hw', hresumes', hcountable⟩ := hnext u hu
  exact ⟨outcome, w', hrun.trans hrest, hw', hresumes.trans hresumes', hcountable⟩

/-- **Every run of a routine agrees with its history**, from any state that agrees with its history,
by induction on the routine. -/
theorem runsWell (hj : j.IsWritable Naming.empty) (routine : Routine) : RunsWell j routine := by
  induction routine with
  | give plan hplan =>
    intro w hw
    exact ⟨.ok plan, w, rfl, hw, .refl w, fun p hp => Except.ok.inj hp ▸ hplan⟩
  | raise r =>
    intro w hw
    exact ⟨.error r, w, rfl, hw, .refl w, nofun⟩
  | fetch name factory next hfactory hnext =>
    refine .of_step fun w hw => ?_
    obtain ⟨outcome, u, hrun, hu, hresumes⟩ := run_fetch hj hfactory hw name next
    exact ⟨next outcome, u, hnext outcome, hrun, hu, hresumes⟩
  | get name next hnext =>
    refine .of_step fun w hw => ?_
    obtain ⟨key, u, hrun, hu, hresumes⟩ := run_get hw name next
    exact ⟨_, u, hnext _, hrun, hu, hresumes⟩
  | size next hnext =>
    refine .of_step fun w hw => ?_
    obtain ⟨n, u, hrun, hu, hresumes⟩ := run_size hw next
    exact ⟨next n, u, hnext n, hrun, hu, hresumes⟩
  | drop name next hnext =>
    refine .of_step fun w hw => ?_
    obtain ⟨u, hrun, hu, hresumes⟩ := run_drop hw name next
    exact ⟨next, u, hnext, hrun, hu, hresumes⟩
  | clear next hnext =>
    refine .of_step fun w hw => ?_
    obtain ⟨u, hrun, hu, hresumes⟩ := run_clear hw next
    exact ⟨next, u, hnext, hrun, hu, hresumes⟩

/-- Nothing has happened to an empty cache. -/
theorem agrees_start (j : Journal) : Agrees j (.start j) := by
  refine ⟨.empty, rfl, ⟨fun key made => ?_, List.nodup_nil, nofun⟩, ⟨rfl, nofun⟩,
    ⟨List.nodup_nil, List.nodup_nil, nofun, nofun, nofun⟩, rfl, nofun, [], ?_, .nil⟩
  · simp [Watched.start, find?, kept]
  · exact (Journal.logged_nil j).symm

/-- **A routine that begins with an empty cache** ends in agreement with its history. -/
theorem agrees_run (hj : j.IsWritable Naming.empty) (routine : Routine) :
    Agrees j (routine.run (.start j)).2 := by
  obtain ⟨outcome, w, hrun, hw, -⟩ := runsWell hj routine _ (agrees_start j)
  rw [hrun]
  exact hw

end PlanCache

end CallLog
