import CallLog.Context
import CallLog.Proofs.Logger
import Mathlib.Data.List.Find

/-!
# What is collected

Providers answer by the counters of the journal alone. `Context.answers` are the answers of some
providers that are asked one after the other, told without the journal, and `collect_run` says that
these are what is collected: of the answers for one key the last one that is a value counts
(`lookup_overlay`).
-/

namespace CallLog

/-! ## Fields

Fields are a list of names with values, in which a name stands once. They are overwritten one at a
time, and read by name; what is read after overwriting is what this section is about. -/

namespace Document

variable {α : Type}

theorem lookup_cons (name key : String) (a : α) (fields : List (String × α)) :
    ((name, a) :: fields).lookup key = if key = name then some a else fields.lookup key := by
  by_cases hkey : key = name
  · simp [hkey]
  · have hne : (key == name) = false := by simpa using hkey
    simp [List.lookup_cons, hkey, hne]

/-- A name that is overwritten has the new value, and the others have theirs. By induction on the
list: the name is overwritten where it is, or added at the end. -/
theorem lookup_insert (name key : String) (a : α) (fields : List (String × α)) :
    (insert name a fields).lookup key = if key = name then some a else fields.lookup key := by
  induction fields with
  | nil => exact lookup_cons name key a []
  | cons field fields ih =>
    obtain ⟨n, b⟩ := field
    rw [insert]
    by_cases hn : n = name
    · subst hn
      rw [if_pos rfl, lookup_cons, lookup_cons]
      by_cases hkey : key = n
      · simp [hkey]
      · simp [hkey]
    · rw [if_neg hn, lookup_cons, lookup_cons, ih]
      by_cases hkey : key = n
      · have hname : key ≠ name := fun he => hn (hkey.symm.trans he)
        simp [hkey, hn]
      · simp [hkey]

theorem lookup_eq_none_iff {name : String} {fields : List (String × α)} :
    fields.lookup name = none ↔ name ∉ fields.map Prod.fst := by
  rw [List.lookup_eq_none_iff]
  constructor
  · rintro h hmem
    obtain ⟨e, he, rfl⟩ := List.mem_map.mp hmem
    simpa using h e he
  · intro h e he
    have hne : name ≠ e.1 := by
      rintro rfl
      exact h (List.mem_map_of_mem he)
    simpa using hne

theorem mem_of_lookup {name : String} {a : α} {fields : List (String × α)}
    (h : fields.lookup name = some a) : (name, a) ∈ fields := by
  obtain ⟨before, after, rfl, -⟩ := List.lookup_eq_some_iff.mp h
  simp

/-- Where no name is given twice, each field is found under its name: no field before it can hide
it. -/
theorem lookup_of_mem {name : String} {a : α} {fields : List (String × α)}
    (hfields : (fields.map Prod.fst).Nodup) (h : (name, a) ∈ fields) :
    fields.lookup name = some a := by
  induction fields with
  | nil => cases h
  | cons field fields ih =>
    obtain ⟨n, b⟩ := field
    rw [List.map_cons, List.nodup_cons] at hfields
    rw [lookup_cons]
    rcases List.mem_cons.mp h with heq | h
    · obtain ⟨rfl, rfl⟩ := Prod.mk.inj heq
      rw [if_pos rfl]
    · have hne : name ≠ n := by
        intro hn
        rw [← hn] at hfields
        exact hfields.1 (List.mem_map.mpr ⟨(name, a), h, rfl⟩)
      rw [if_neg hne]
      exact ih hfields.2 h

/-- Fields that are chosen by their names. -/
theorem lookup_filter (p : String → Bool) (fields : List (String × α)) (name : String) :
    (fields.filter fun field => p field.1).lookup name =
      if p name then fields.lookup name else none := by
  induction fields with
  | nil => simp
  | cons field fields ih =>
    obtain ⟨n, b⟩ := field
    rw [List.filter_cons, lookup_cons]
    by_cases hn : name = n
    · subst hn
      by_cases hp : p name = true
      · simp [hp]
      · simp [hp, ih]
    · rw [if_neg hn]
      split
      · rw [lookup_cons, if_neg hn, ih]
      · exact ih

theorem nodup_keys_filter {fields : List (String × α)} (p : String × α → Bool)
    (h : (fields.map Prod.fst).Nodup) :
    ((fields.filter p).map Prod.fst).Nodup :=
  h.sublist (List.filter_sublist.map Prod.fst)

/-- Where no name is given twice, the order does not matter for what is found. -/
theorem lookup_reverse {fields : List (String × α)}
    (h : (fields.map Prod.fst).Nodup) (name : String) :
    fields.reverse.lookup name = fields.lookup name := by
  induction fields with
  | nil => rfl
  | cons field fields ih =>
    obtain ⟨n, a⟩ := field
    rw [List.map_cons, List.nodup_cons] at h
    rw [List.reverse_cons, List.lookup_append, ih h.2, lookup_cons, lookup_cons]
    by_cases hn : name = n
    · have hnone : fields.lookup name = none := by
        rw [lookup_eq_none_iff, hn]
        exact h.1
      rw [hnone, if_pos hn, if_pos hn, Option.none_or]
    · rw [if_neg hn, if_neg hn]
      exact Option.or_none

theorem mem_keys_insert {name key : String} {a : α} {fields : List (String × α)} :
    key ∈ (insert name a fields).map Prod.fst ↔ key = name ∨ key ∈ fields.map Prod.fst := by
  induction fields with
  | nil => simp [insert]
  | cons field fields ih =>
    obtain ⟨n, b⟩ := field
    rw [insert]
    by_cases hn : n = name
    · subst hn
      simp
    · rw [if_neg hn, List.map_cons, List.mem_cons, ih, List.map_cons, List.mem_cons]
      exact or_left_comm

/-- A name that is overwritten is not added again. -/
theorem nodup_keys_insert {name : String} {a : α} {fields : List (String × α)}
    (h : (fields.map Prod.fst).Nodup) : ((insert name a fields).map Prod.fst).Nodup := by
  induction fields with
  | nil => simp [insert]
  | cons field fields ih =>
    obtain ⟨n, b⟩ := field
    rw [List.map_cons, List.nodup_cons] at h
    rw [insert]
    by_cases hn : n = name
    · subst hn
      rw [if_pos rfl, List.map_cons, List.nodup_cons]
      exact h
    · rw [if_neg hn, List.map_cons, List.nodup_cons, mem_keys_insert, not_or]
      exact ⟨⟨hn, h.1⟩, ih h.2⟩

end Document

namespace Logger

/-- Whether names clash depends on the names of the fields alone. -/
theorem clash?_congr {names : List String} {given given' : List (String × Value)}
    (h : ∀ name ∈ names, name ∈ given.map Prod.fst ↔ name ∈ given'.map Prod.fst) :
    clash? names given = clash? names given' := by
  refine List.find?_congr fun name hname => ?_
  rw [Bool.eq_iff_iff, List.any_eq_true, List.any_eq_true]
  simpa using h name hname

/-- A field whose name is not asked for does not matter. -/
theorem clash?_insert {names : List String} {name : String} (h : name ∉ names) (v : Value)
    (given : List (String × Value)) :
    clash? names (Document.insert name v given) = clash? names given := by
  refine clash?_congr fun n hn => ?_
  rw [Document.mem_keys_insert]
  constructor
  · rintro (rfl | hmem)
    · exact absurd hn h
    · exact hmem
  · exact .inr

theorem clash?_append (names others : List String) (given : List (String × Value)) :
    clash? (names ++ others) given = (clash? names given).or (clash? others given) :=
  List.find?_append

/-- A clash names a key. -/
theorem clash?_mem {names : List String} {given : List (String × Value)} {name : String}
    (h : clash? names given = some name) : name ∈ names ∧ name ∈ given.map Prod.fst := by
  obtain ⟨hname, e, he, rfl⟩ := clash?_eq_some h
  exact ⟨hname, List.mem_map_of_mem he⟩

theorem clash?_ne_none {names : List String} {given : List (String × Value)}
    (h : ∃ key ∈ given.map Prod.fst, key ∈ names) : clash? names given ≠ none := by
  obtain ⟨key, hkey, hname⟩ := h
  obtain ⟨e, he, rfl⟩ := List.mem_map.mp hkey
  intro hnone
  exact clash?_eq_none_iff.mp hnone e he hname

theorem clash?_none_of_keys {names : List String} {given : List (String × Value)}
    (h : ∀ key ∈ given.map Prod.fst, key ∉ names) : clash? names given = none := by
  rw [clash?_eq_none_iff]
  exact fun e he => h e.1 (List.mem_map_of_mem he)

/-- Fewer names clash less. -/
theorem clash?_of_subset {names others : List String} {given : List (String × Value)}
    (hnames : names ⊆ others) (h : clash? others given = none) : clash? names given = none := by
  rw [clash?_eq_none_iff] at h ⊢
  exact fun e he hname => h e he (hnames hname)

end Logger

/-! ## Providers

A provider is asked for a value, and may count how often that was. The counts stand in the journal,
and nothing else in it is read or changed by asking, so what providers answer is told here by the
counters alone. That makes it a function, whatever is logged in between. -/

namespace Journal

/-- A journal with other counters. -/
def counted (j : Journal) (counters : List Nat) : Journal :=
  { j with counters := counters }

@[simp]
theorem counters_counted (j : Journal) (counters : List Nat) :
    (j.counted counters).counters = counters := rfl

@[simp]
theorem counted_counted (j : Journal) (counters others : List Nat) :
    (j.counted counters).counted others = j.counted others := rfl

@[simp]
theorem bound_counted (j : Journal) (counters : List Nat) : (j.counted counters).bound = j.bound :=
  rfl

theorem logged_counted (j : Journal) (counters : List Nat) (rs : List Record) :
    (j.counted counters).logged rs = (j.logged rs).counted counters := rfl

end Journal

namespace Provider

/-- The count that comes next in a cell. -/
def nextCount (counters : List Nat) (cell : Nat) : Nat :=
  (counters[cell]?).getD 0 + 1

/-- What a provider answers, by the counters. -/
def answer (provider : Provider) (counters : List Nat) : Except Raised Value :=
  match provider.source with
  | .const v => .ok v
  | .count cell => .ok (.int (nextCount counters cell))
  | .answers cell answer => answer (nextCount counters cell)
  | .raises c args => .error (.ofClass c args)

/-- The counters after a provider was asked. -/
def counted (provider : Provider) (counters : List Nat) : List Nat :=
  match provider.source with
  | .const _ | .raises .. => counters
  | .count cell | .answers cell _ => counters.set cell (nextCount counters cell)

/-- The provider never raises. -/
def Answers (provider : Provider) : Prop :=
  ∀ counters, ∃ v, provider.answer counters = .ok v

/-- **What asking a provider does**: it answers by the counters, and counts. -/
theorem ask_run (provider : Provider) (j : Journal) :
    provider.ask j =
      (provider.answer j.counters, j.counted (provider.counted j.counters)) := by
  obtain ⟨key, source⟩ := provider
  cases source with
  | const v => rfl
  | count cell => rfl
  | answers cell answer =>
    have hcount : countUp cell j =
        (.ok (nextCount j.counters cell),
          j.counted (j.counters.set cell (nextCount j.counters cell))) := rfl
    simp only [ask, Provider.answer]
    rw [Action.bind_of_ok hcount]
    rcases answer (nextCount j.counters cell) with r | v <;> rfl
  | raises c args => rfl

/-- What a provider raises is seen, and goes no further, if asking it is only attempted. -/
theorem attempt_ask_run (provider : Provider) (j : Journal) :
    Action.attempt provider.ask j =
      (.ok (provider.answer j.counters), j.counted (provider.counted j.counters)) := by
  rw [Action.attempt, ask_run]

end Provider

namespace Context

theorem overlay_cons (fields others : Fields) (name : String) (v : Value) :
    overlay fields ((name, v) :: others) = overlay (Document.insert name v fields) others := rfl

/-- What is read of fields over which others were laid, one after the other: the last of these with
that name counts, and what was there before if there is none. -/
theorem lookup_overlay (fields others : Fields) (key : String) :
    (overlay fields others).lookup key = (others.reverse.lookup key).or (fields.lookup key) := by
  induction others generalizing fields with
  | nil => rfl
  | cons other others ih =>
    obtain ⟨n, v⟩ := other
    rw [overlay_cons, ih, Document.lookup_insert, List.reverse_cons, List.lookup_append,
      Document.lookup_cons, Option.or_assoc]
    by_cases hkey : key = n
    · simp [hkey]
    · simp [hkey]

theorem nodup_keys_overlay {fields : Fields} (h : (fields.map Prod.fst).Nodup)
    (others : Fields) : ((overlay fields others).map Prod.fst).Nodup := by
  induction others generalizing fields with
  | nil => exact h
  | cons other others ih => exact ih (Document.nodup_keys_insert h)

/-! ## Collecting

Collecting goes through the providers and keeps four things apart: the fields so far, the reports,
the counters, and whether it was ended by something that is not caught. `gather` does this as a
function of the counters, and `collect_run` says that it is what the journal is changed by. -/

/-- What comes of asking some providers. -/
structure Gathered where
  outcome : Except Raised Fields
  reports : List Record := []
  /-- the counters afterwards -/
  counters : List Nat

section Gather

variable (naming : Naming) (bound : Fields)

/-- The report on a provider that failed. -/
def report (key : String) (r : Raised) : Except Fault Record := do
  let message ← r.text naming
  Logger.reported naming reporter "warning" "context_variable_failed" bound
    ([("key", .str key), ("error", .str (String.ofList message))] ++ Logger.handled bound r)

/-- What comes of asking one provider. -/
def gatherOne (fields : Fields) (counters : List Nat) (provider : Provider) : Gathered :=
  match provider.answer counters with
  | .ok v =>
    ⟨.ok (if v.isNone then fields else Document.insert provider.key v fields), [],
      provider.counted counters⟩
  | .error r =>
    if r.isCaught then
      match report naming bound provider.key r with
      | .ok record => ⟨.ok fields, [record], provider.counted counters⟩
      | .error f => ⟨.error (.fault f), [], provider.counted counters⟩
    else ⟨.error r, [], provider.counted counters⟩

/-- What comes of asking some providers, one after the other. -/
def gather : List Provider → Fields → List Nat → Gathered
  | [], fields, counters => ⟨.ok fields, [], counters⟩
  | provider :: rest, fields, counters =>
    let one := gatherOne naming bound fields counters provider
    match one.outcome with
    | .ok fields =>
      let others := gather rest fields one.counters
      ⟨others.outcome, one.reports ++ others.reports, others.counters⟩
    | .error r => ⟨.error r, one.reports, one.counters⟩

end Gather

theorem reportFailure_run (naming : Naming) (key : String) (r : Raised) (j : Journal) :
    reportFailure naming key r j =
      match report naming j.bound key r with
      | .ok record => (.ok (), j.logged [record])
      | .error f => (.error (.fault f), j) := by
  rw [reportFailure, report]
  rcases r.text naming with f | message
  · exact Action.bind_of_error rfl _
  · rw [Action.bind_of_ok (Action.ofExcept_run (.ok message) j)]
    have hclash : Logger.clash? ["self", "event"]
        [("key", .str key), ("error", .str (String.ofList message))] = none := by
      rw [Logger.clash?_eq_none_iff]
      simp
    exact Logger.reportHandled_run naming reporter rfl (by decide) _ hclash r j

/-- **What asking one provider does** while collecting: its value is taken, or a report is
written. -/
theorem collectOne_run (naming : Naming) (fields : Fields) (provider : Provider) (j : Journal) :
    collectOne naming fields provider j =
      ((gatherOne naming j.bound fields j.counters provider).outcome,
        (j.logged (gatherOne naming j.bound fields j.counters provider).reports).counted
          (gatherOne naming j.bound fields j.counters provider).counters) := by
  rw [collectOne, Action.bind_of_ok (provider.attempt_ask_run j), gatherOne]
  rcases provider.answer j.counters with r | v
  · simp only
    by_cases hcaught : r.isCaught = true
    · simp only [if_pos hcaught]
      have hreport := reportFailure_run naming provider.key r
        (j.counted (provider.counted j.counters))
      rw [Journal.bound_counted] at hreport
      rcases hrecord : report naming j.bound provider.key r with f | record
      · rw [hrecord] at hreport
        rw [Action.bind_of_error hreport, Journal.logged_nil]
      · rw [hrecord] at hreport
        rw [Action.bind_of_ok hreport]
        rfl
    · simp only [if_neg hcaught, Journal.logged_nil]
      rfl
  · rw [Journal.logged_nil]
    rfl

/-- **What collecting does**: it gathers the fields, writes the reports, and counts. By induction on
the providers; the journal that the rest starts from has other counters and more records, and
gathering sees only the counters. -/
theorem collect_run (naming : Naming) (providers : List Provider) (fields : Fields)
    (j : Journal) :
    providers.foldlM (collectOne naming) fields j =
      ((gather naming j.bound providers fields j.counters).outcome,
        (j.logged (gather naming j.bound providers fields j.counters).reports).counted
          (gather naming j.bound providers fields j.counters).counters) := by
  -- every provider finds the counters that those before it have left
  induction providers generalizing fields j with
  | nil => simp [gather, Action.pure_run, Journal.counted]
  | cons provider providers ih =>
    have hone := collectOne_run naming fields provider j
    rw [List.foldlM_cons, gather]
    simp only
    rcases houtcome : (gatherOne naming j.bound fields j.counters provider).outcome with r | after
    · rw [houtcome] at hone
      rw [Action.bind_of_error hone]
    · rw [houtcome] at hone
      rw [Action.bind_of_ok hone, ih]
      simp [Journal.logged_counted]

/-- What is written while providers are asked are reports. -/
theorem isReport_of_mem_gather {naming : Naming} {bound : Fields} {providers : List Provider}
    {fields : Fields} {counters : List Nat} {record : Record}
    (h : record ∈ (gather naming bound providers fields counters).reports) :
    Logger.IsReport record := by
  have hone {fields counters} {provider : Provider}
      (h : record ∈ (gatherOne naming bound fields counters provider).reports) :
      Logger.IsReport record := by
    rw [gatherOne] at h
    rcases hanswer : provider.answer counters with r | v
    · simp only [hanswer] at h
      by_cases hcaught : r.isCaught = true
      · rw [if_pos hcaught] at h
        rcases hreport : report naming bound provider.key r with f | written
        · rw [hreport] at h
          cases h
        · rw [hreport] at h
          obtain rfl := List.mem_singleton.mp h
          obtain ⟨message, -, hwritten⟩ := Action.except_bind_eq_ok hreport
          exact ⟨_, _, _, _, _, _, hwritten⟩
      · rw [if_neg hcaught] at h
        cases h
    · rw [hanswer] at h
      cases h
  induction providers generalizing fields counters with
  | nil => cases h
  | cons provider providers ih =>
    rw [gather] at h
    simp only at h
    rcases houtcome : (gatherOne naming bound fields counters provider).outcome with r | after
    · rw [houtcome] at h
      exact hone h
    · rw [houtcome] at h
      rcases List.mem_append.mp h with h | h
      · exact hone h
      · exact ih h

/-- The values that some providers answer with, asked one after the other. -/
def answers : List Provider → List Nat → Fields
  | [], _ => []
  | provider :: rest, counters =>
    match provider.answer counters with
    | .ok v =>
      if v.isNone then answers rest (provider.counted counters)
      else (provider.key, v) :: answers rest (provider.counted counters)
    | .error _ => answers rest (provider.counted counters)

/-- The counters after some providers were asked. -/
def countedAll (providers : List Provider) (counters : List Nat) : List Nat :=
  providers.foldl (fun counters provider => provider.counted counters) counters

/-- **What providers gather that never raise**: their answers, of which the later hide the earlier
ones for the same key. There are no reports then, so nothing depends on what is bound around. -/
theorem gather_of_answers {providers : List Provider} (h : ∀ p ∈ providers, p.Answers)
    (naming : Naming) (bound fields : Fields) (counters : List Nat) :
    gather naming bound providers fields counters =
      ⟨.ok (overlay fields (answers providers counters)), [], countedAll providers counters⟩ := by
  induction providers generalizing fields counters with
  | nil => rfl
  | cons provider providers ih =>
    obtain ⟨hprovider, hrest⟩ := List.forall_mem_cons.mp h
    obtain ⟨v, hv⟩ := hprovider counters
    simp only [gather, gatherOne, hv, ih hrest, answers, List.nil_append]
    by_cases hnone : v.isNone = true
    · rw [if_pos hnone, if_pos hnone]
      rfl
    · rw [if_neg hnone, if_neg hnone]
      rfl

end Context

end CallLog
