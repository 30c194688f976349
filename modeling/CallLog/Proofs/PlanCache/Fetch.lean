import CallLog.PlanCache
import CallLog.Proofs.LogPoint.Written

/-!
# Plans that are fetched

What `PlanCache.fetch` does, told apart by what the cache holds. A plan that is kept is the answer
(`fetch_of_some`). Without one the lock for the key decides: while it is held nothing can be done
(`fetch_of_held`), and else the factory runs with the lock held (`fetch_of_free`). The plan that it
makes is stored, and one record says so (`build_of_ok`, `reportBuilt_run`).
-/

namespace CallLog

/-- What is written to a part is read there. -/
def Part.IsLawful {σ τ : Type} (part : Part σ τ) : Prop :=
  ∀ t s, part.read (part.write t s) = t

/-! ## Reports

The cache reports each plan that it stores, under its own name and not under that of the logger of
the plan. A report is written as any other entry is, so it may fail, for one if the parameters
cannot be counted; these statements are about reports that do not. -/

/-- The parameters of a plan can be counted in a record. -/
def Plan.IsCountable (plan : Plan) : Prop :=
  Text.isTooLong plan.parameters.length = false

namespace PlanCache

/-- A record says that a plan was built. -/
structure TellsOf (plan : Plan) (r : Record) : Prop where
  event : r.lookup "event" = some (.str "plan_built")
  level : r.lookup "level" = some (.str "debug")
  reporter : r.lookup "logger" = some (.str "logpoint.runtime.cache")
  logger : r.lookup "plan_logger" = some (.str plan.logger)
  planLevel : r.lookup "plan_level" = some (.str plan.level.name)
  message : r.lookup "message" = some (.str plan.message)
  parameters : r.lookup "parameters" = some (.int plan.parameters.length)

/-- The fields of a report, under the name of its logger. They come before what is bound in the
context, so nothing that is bound takes the place of any of them. -/
theorem lookup_gather_built (plan : Plan) (bound : List (String × Value)) {name : String}
    {v : Value}
    (h : (("logger", .str "logpoint.runtime.cache") :: builtFields plan).lookup name = some v) :
    ((Logger.own reporter 0).gather bound (builtFields plan)).lookup name = some v := by
  change (("logger", .str "logpoint.runtime.cache") :: builtFields plan ++ _).lookup name = some v
  rw [List.lookup_append, h]
  rfl

theorem tellsOf_reported {plan : Plan} {bound : List (String × Value)} {r : Record}
    (h : Logger.reported Naming.empty reporter "debug" "plan_built" bound (builtFields plan) =
      .ok r) : TellsOf plan r := by
  obtain ⟨-, text, htext, h⟩ := Logger.of_written h
  obtain rfl := Except.ok.inj htext
  obtain ⟨hevent, hlevel⟩ := Logger.lookup_record h
  have hstr {name s : String}
      (hname : (("logger", .str "logpoint.runtime.cache") :: builtFields plan).lookup name =
        some (.str s)) (hfree : Logger.isReserved name = false) (hexception : name ≠ "exception")
      (hstack : name ≠ "stack") : r.lookup name = some (.str s) := by
    obtain ⟨d, hd, hlookup⟩ :=
      Logger.lookup_record_field h (lookup_gather_built plan bound hname)
        (Logger.isTaken_of_free _ _ hfree hexception hstack)
    rw [Document.ofValue] at hd
    rw [hlookup, ← Except.ok.inj hd]
  refine ⟨hevent, hlevel, hstr rfl (by decide) (by decide) (by decide),
    hstr rfl (by decide) (by decide) (by decide), hstr rfl (by decide) (by decide) (by decide),
    hstr rfl (by decide) (by decide) (by decide), ?_⟩
  obtain ⟨d, hd, hlookup⟩ : ∃ d,
      Document.ofValue Naming.empty (.int plan.parameters.length) = .ok d ∧
        r.lookup "parameters" = some d :=
    Logger.lookup_record_field h (lookup_gather_built plan bound rfl)
      (Logger.isTaken_of_free _ _ (by decide) (by decide) (by decide))
  rw [Document.ofValue, Document.ofInt] at hd
  split at hd
  · cases hd
  · rw [hlookup, ← Except.ok.inj hd]

/-- **A plan that was built is reported** in one record. -/
theorem reportBuilt_run {plan : Plan} (hplan : plan.IsCountable) {j : Journal}
    (hj : j.IsWritable Naming.empty) :
    ∃ r, TellsOf plan r ∧ reportBuilt plan j = (.ok (), j.logged [r]) := by
  have hclash {names : List String} (h : ∀ field ∈ builtFields plan, field.1 ∉ names) :
      Logger.clash? names (builtFields plan) = none := Logger.clash?_eq_none_iff.mpr h
  have hfields : ∀ field ∈ builtFields plan, Field.IsWritable Naming.empty field := by
    simp only [builtFields, List.forall_mem_cons]
    refine ⟨Field.isWritable_str _ _ _, Field.isWritable_str _ _ _, Field.isWritable_str _ _ _,
      .inr ⟨.int plan.parameters.length, ?_⟩, by simp⟩
    rw [Document.ofValue, Document.ofInt, hplan]
    rfl
  obtain ⟨r, hr⟩ := Logger.exists_reported hj hfields (hclash (by simp [builtFields])) reporter
    "debug" "plan_built"
  refine ⟨r, tellsOf_reported hr, ?_⟩
  rw [reportBuilt, Logger.report_run Naming.empty reporter rfl (by decide) "plan_built"
    (hclash (by simp [builtFields])) j, hr]

/-! ## What a cache holds

A cache is a list of entries with one for each key at most. Inserting erases first, so both can be
told by looking up. -/

section

variable {κ : Type} [DecidableEq κ] (cache : PlanCache κ) (key other : κ) (made : StampedPlan)

theorem find?_erase :
    (cache.erase key).find? other = if other = key then none else cache.find? other := by
  obtain ⟨entries, held, fresh⟩ := cache
  rw [find?, erase, find?]
  induction entries with
  | nil => simp
  | cons e entries ih =>
    obtain ⟨k, p⟩ := e
    rw [List.filter_cons]
    by_cases hk : k = key
    · subst hk
      rw [if_neg (by simp), ih]
      by_cases ho : other = k
      · rw [if_pos ho, if_pos ho]
      · have hbeq : (other == k) = false := by simpa using ho
        rw [if_neg ho, if_neg ho, List.lookup_cons, hbeq]
    · rw [if_pos (by simpa using hk), List.lookup_cons, List.lookup_cons]
      by_cases ho : other = k
      · simp [ho, hk]
      · have hbeq : (other == k) = false := by simpa using ho
        rw [hbeq]
        exact ih

theorem find?_insert :
    (cache.insert key made).find? other = if other = key then some made else cache.find? other := by
  rw [insert, find?, List.lookup_cons]
  by_cases ho : other = key
  · simp [ho]
  · have hbeq : (other == key) = false := by simpa using ho
    rw [hbeq, if_neg ho]
    exact (find?_erase cache key other).trans (if_neg ho)

theorem isHeld_eq_true_iff : cache.isHeld key = true ↔ key ∈ cache.held.map Prod.fst := by
  rw [isHeld, List.any_eq_true, List.mem_map]
  simp

/-- The keys that have a plan, each of them once. -/
theorem find?_eq_some_iff_mem : (∃ made, cache.find? key = some made) ↔
    key ∈ cache.entries.map Prod.fst := by
  rw [find?, ← Option.isSome_iff_exists, List.lookup_isSome_iff, List.mem_map]
  exact exists_congr fun e => and_congr_right fun _ => beq_iff_eq.trans eq_comm

end

/-! ## Fetching

How a fetch goes depends on what is kept and on whether the lock is held. The part of the state that
is the cache has to be lawful where it is written and read again. -/

section

variable {κ σ : Type} [DecidableEq κ] {part : Part σ (PlanCache κ)} {journal : Part σ Journal}
  {key : κ} {factory : Action σ Plan} {s t : σ} {stamped : StampedPlan} {plan : Plan} {r : Raised}

/-- A plan that is kept is the answer. -/
theorem fetch_of_some (h : (part.read s).find? key = some stamped) :
    fetch part journal key factory s = (.ok stamped, s) := by
  rw [fetch, Action.bind_of_ok (show part.current s = (.ok (part.read s), s) from rfl), h]
  rfl

/-- Nothing can be done while the lock is held: this is a factory that asks for the plan that it is
making. -/
theorem fetch_of_held (hnone : (part.read s).find? key = none)
    (hheld : (part.read s).isHeld key = true) :
    fetch part journal key factory s = (.error (.fault .deadlock), s) := by
  rw [fetch, Action.bind_of_ok (show part.current s = (.ok (part.read s), s) from rfl), hnone]
  dsimp only
  rw [if_pos hheld]
  rfl

/-- **The factory runs with the lock held**, and the lock is given back in any case. -/
theorem fetch_of_free (hpart : part.IsLawful) (hnone : (part.read s).find? key = none)
    (hfree : (part.read s).isHeld key = false)
    {outcome : Except Raised StampedPlan}
    (h : build part journal key factory (part.write ((part.read s).acquire key) s) =
      (outcome, t)) :
    fetch part journal key factory s =
      (outcome, part.write ((part.read t).release (part.read s).fresh) t) := by
  have hcurrent (u : σ) : part.current u = (.ok (part.read u), u) := rfl
  have hlocked : buildUnlessThere part journal key factory
      (part.write ((part.read s).acquire key) s) = (outcome, t) := by
    have hstill : (part.read (part.write ((part.read s).acquire key) s)).find? key = none := by
      rw [hpart]
      exact hnone
    rw [buildUnlessThere, Action.bind_of_ok (hcurrent _), hstill]
    exact h
  rw [fetch, Action.bind_of_ok (hcurrent s), hnone]
  dsimp only
  rw [if_neg (by simp [hfree]), Action.bind_of_ok (show part.update _ s = (.ok (), _) from rfl),
    Action.always, hlocked]

/-- A factory that raises stores nothing. -/
theorem build_of_error (h : factory s = (.error r, t)) :
    build part journal key factory s = (.error r, t) := by
  rw [build, Action.bind_of_error h]

/-- A plan that was made is stored, and then it is reported. If that raises, the plan is stored all
the same, and whoever asks next gets it. -/
theorem build_told (h : factory s = (.ok plan, t)) {u : σ} {j : Journal}
    (hu : u = part.write { (part.read t).insert key ⟨(part.read t).fresh, plan⟩ with
      fresh := (part.read t).fresh + 1 } t)
    {told : Except Raised Unit} (hreport : reportBuilt plan (journal.read u) = (told, j)) :
    build part journal key factory s =
      (told.map fun _ => ⟨(part.read t).fresh, plan⟩, journal.write j u) := by
  have hstore : store part key plan t = (.ok ⟨(part.read t).fresh, plan⟩, u) := by
    subst hu
    rfl
  have hlift : journal.lift (reportBuilt plan) u = (told, journal.write j u) := by
    rw [Part.lift, hreport]
  rw [build, Action.bind_of_ok h, Action.bind_of_ok hstore]
  rcases told with r | ⟨⟩
  · rw [Action.bind_of_error hlift]
    rfl
  · rw [Action.bind_of_ok hlift]
    rfl

/-- **A plan that was made and reported** is the result. -/
theorem build_of_ok (h : factory s = (.ok plan, t)) {u : σ} {j : Journal}
    (hu : u = part.write { (part.read t).insert key ⟨(part.read t).fresh, plan⟩ with
      fresh := (part.read t).fresh + 1 } t)
    (hreport : reportBuilt plan (journal.read u) = (.ok (), j)) :
    build part journal key factory s =
      (.ok ⟨(part.read t).fresh, plan⟩, journal.write j u) :=
  build_told h hu hreport

end

end PlanCache

end CallLog
