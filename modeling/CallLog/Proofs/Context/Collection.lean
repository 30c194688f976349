import CallLog.Proofs.Recovery

/-!
# Collecting from providers that fail

To ask some providers is to ask each of them once, one after the other (`askAll`). Their replies
tell all that collecting does: of the replies for one key the last that is a value counts
(`IsLastValue`), so one that is none and one that fails take nothing away, and a warning is written
for each that fails.

The warning is written with all that is bound around, and it is written outside of what the handler
protects. Where something bound cannot be written (`AllowsReports`), the first provider that fails
ends the collecting, and those after it are not asked. `Course` has both ways, and `collect_course`
says which is taken. To collect from some providers and then from others is to collect from all of
them (`collect_append`), however they end.
-/

namespace CallLog

/-! ## Fields over fields

Fields that are overwritten keep their places, and new ones come at the end. To lay some fields over
others and then over a third comes to the same as laying them over both, also in the order; that is
what makes collecting in parts the same as collecting at once. -/

namespace Document

variable {α : Type} {name other : String} {fields : List (String × α)}

theorem insert_insert (name : String) (a b : α) (fields : List (String × α)) :
    insert name a (insert name b fields) = insert name a fields := by
  induction fields with
  | nil => simp [insert]
  | cons field fields ih =>
    obtain ⟨n, c⟩ := field
    by_cases hn : n = name
    · simp [insert, hn]
    · simp [insert, hn, ih]

/-- A field that is there already keeps its place, so it does not matter when it is put. For a field
that is not there yet it does matter: the one that comes first gets the earlier place. -/
theorem insert_comm (hne : other ≠ name) (hname : name ∈ fields.map Prod.fst) (a b : α) :
    insert name a (insert other b fields) = insert other b (insert name a fields) := by
  induction fields with
  | nil => cases hname
  | cons field fields ih =>
    obtain ⟨n, c⟩ := field
    by_cases hn : n = name
    · subst hn
      simp [insert, Ne.symm hne]
    · have hrest : name ∈ fields.map Prod.fst := by
        simpa [Ne.symm hn] using hname
      by_cases ho : n = other
      · subst ho
        simp [insert, hn]
      · simp [insert, hn, ho, ih hrest]

end Document

namespace Context

variable {name : String} {v : Value} {fields others : Fields}

theorem insert_overlay_of_mem (hmem : name ∈ fields.map Prod.fst)
    (hothers : name ∉ others.map Prod.fst) :
    Document.insert name v (overlay fields others) =
      overlay (Document.insert name v fields) others := by
  induction others generalizing fields with
  | nil => rfl
  | cons other others ih =>
    obtain ⟨n, b⟩ := other
    rw [List.map_cons, List.mem_cons, not_or] at hothers
    rw [overlay_cons, ih (Document.mem_keys_insert.mpr (.inr hmem)) hothers.2,
      Document.insert_comm (Ne.symm hothers.1) hmem, overlay_cons]

/-- What is put over fields that are over others is over those as well. -/
theorem insert_overlay (hothers : (others.map Prod.fst).Nodup) :
    Document.insert name v (overlay fields others) =
      overlay fields (Document.insert name v others) := by
  induction others generalizing fields with
  | nil => rfl
  | cons other others ih =>
    obtain ⟨n, b⟩ := other
    rw [List.map_cons, List.nodup_cons] at hothers
    by_cases hn : n = name
    · subst hn
      rw [overlay_cons, insert_overlay_of_mem (Document.mem_keys_insert.mpr (.inl rfl)) hothers.1,
        Document.insert_insert, Document.insert, if_pos rfl, overlay_cons]
    · rw [overlay_cons, ih hothers.2, Document.insert, if_neg hn, overlay_cons]

/-! ## One part after the other

Gathering carries the fields so far along. To take a part of it by itself, it is started without
fields, and what comes out is put over those that were there. Reports and counters do not depend on
the fields, so they are the same in both. -/

section Append

variable {naming : Naming} {bound : Fields} {providers : List Provider} {counters : List Nat}

/-- What was gathered, put over some fields. -/
def Gathered.over (g : Gathered) (fields : Fields) : Gathered :=
  { g with outcome := g.outcome.map (overlay fields) }

/-- One provider adds its field to what is carried along, or leaves that as it is, or ends it. -/
theorem gatherOne_overlay (hothers : (others.map Prod.fst).Nodup) (provider : Provider) :
    gatherOne naming bound (overlay fields others) counters provider =
      (gatherOne naming bound others counters provider).over fields := by
  simp only [gatherOne]
  rcases provider.answer counters with r | v
  · simp only
    split
    · cases report naming bound provider.key r <;> rfl
    · rfl
  · by_cases hnone : v.isNone = true
    · simp [hnone, Gathered.over, Except.map]
    · simp [hnone, Gathered.over, Except.map, insert_overlay hothers]

/-- The fields that one provider leaves have no name twice, if they had none. -/
theorem nodup_keys_gatherOne {provider : Provider} {after : Fields}
    (hfields : (fields.map Prod.fst).Nodup)
    (h : (gatherOne naming bound fields counters provider).outcome = .ok after) :
    (after.map Prod.fst).Nodup := by
  rw [gatherOne] at h
  rcases hanswer : provider.answer counters with r | v
  · simp only [hanswer] at h
    split at h
    · rcases hreport : report naming bound provider.key r with f | record
      · rw [hreport] at h
        cases h
      · rw [hreport] at h
        exact Except.ok.inj h ▸ hfields
    · cases h
  · simp only [hanswer] at h
    rw [← Except.ok.inj h]
    split
    · exact hfields
    · exact Document.nodup_keys_insert hfields

/-- **What is gathered on top of some fields** is gathered on its own and put over them. By
induction on the providers, with the fields on top for what is carried along. -/
theorem gather_overlay (hothers : (others.map Prod.fst).Nodup) :
    gather naming bound providers (overlay fields others) counters =
      (gather naming bound providers others counters).over fields := by
  induction providers generalizing others counters with
  | nil => rfl
  | cons provider providers ih =>
    simp only [gather, gatherOne_overlay hothers]
    rcases hone : (gatherOne naming bound others counters provider).outcome with r | after
    · simp [Gathered.over, hone, Except.map]
    · have hafter := nodup_keys_gatherOne hothers hone
      simp [Gathered.over, hone, Except.map, ih hafter]

/-- **To collect from some providers and then from others** is to collect from all of them. If the
first part is ended, so is the whole, and the second part is not begun. -/
theorem collect_append (naming : Naming) (xs ys : List Provider) :
    collect naming (xs ++ ys) = do
      let fields ← collect naming xs
      let others ← collect naming ys
      return overlay fields others := by
  rw [collect, List.foldlM_append]
  refine bind_congr fun fields => funext fun j => ?_
  have hgather : gather naming j.bound ys (overlay fields []) j.counters =
      (gather naming j.bound ys [] j.counters).over fields := gather_overlay List.nodup_nil
  have hothers := collect_run naming ys [] j
  have hfields := collect_run naming ys (overlay fields []) j
  rw [hgather] at hfields
  refine hfields.trans ?_
  rcases houtcome : (gather naming j.bound ys [] j.counters).outcome with r | others
  · rw [houtcome] at hothers
    rw [collect, Action.bind_of_error hothers]
    simp [Gathered.over, houtcome, Except.map]
  · rw [houtcome] at hothers
    rw [collect, Action.bind_of_ok hothers]
    simp [Gathered.over, houtcome, Except.map, Action.pure_run]

end Append

end Context

/-! ## Asking

The replies of the providers are what is given to the rest: everything that collecting gives and
writes is told by them. They are what one gets by asking each provider in turn, whatever it replies,
so they say that each is asked once. -/

namespace Provider

/-- The cell that a provider counts in. -/
def cell? (provider : Provider) : Option Nat :=
  match provider.source with
  | .const _ | .raises .. => none
  | .count cell | .answers cell _ => some cell

/-- A provider counts up in its own cell, and in no other. A cell that is not there is not made. -/
theorem getElem?_counted (provider : Provider) (counters : List Nat) (cell : Nat) :
    (provider.counted counters)[cell]? =
      counters[cell]?.map fun n => if provider.cell? = some cell then n + 1 else n := by
  have hset (own : Nat) : (counters.set own (nextCount counters own))[cell]? =
      counters[cell]?.map fun n => if some own = some cell then n + 1 else n := by
    by_cases hown : own = cell
    · subst hown
      rcases hn : counters[own]? with _ | n
      · rw [List.set_eq_of_length_le (List.getElem?_eq_none_iff.mp hn), hn]
        rfl
      · obtain ⟨hlt, -⟩ := List.getElem?_eq_some_iff.mp hn
        rw [List.getElem?_set_self hlt, nextCount, hn]
        simp
    · rw [List.getElem?_set_ne hown]
      simp [hown]
  obtain ⟨key, source⟩ := provider
  cases source with
  | const v => simp [counted, cell?]
  | count own => exact hset own
  | answers own answer => exact hset own
  | raises c args => simp [counted, cell?]

end Provider

namespace Context

/-- What came of asking one provider, under its key. -/
abbrev Reply := String × Except Raised Value

namespace Reply

/-- The field that a reply gives. -/
def value? : Reply → Option (String × Value)
  | (key, .ok v) => if v.isNone then none else some (key, v)
  | (_, .error _) => none

/-- The failure that a reply is. -/
def failure? : Reply → Option (String × Raised)
  | (_, .ok _) => none
  | (key, .error r) => some (key, r)

end Reply

/-- Asks some providers, each once, one after the other. -/
def askAll (providers : List Provider) : Logging (List Reply) :=
  providers.mapM fun provider => do return (provider.key, ← Action.attempt provider.ask)

/-- The replies of some providers that are asked one after the other, by the counters. -/
def replies : List Provider → List Nat → List Reply
  | [], _ => []
  | provider :: rest, counters =>
    (provider.key, provider.answer counters) :: replies rest (provider.counted counters)

section Asking

variable (providers : List Provider) (counters : List Nat)

theorem askAll_run (j : Journal) :
    askAll providers j =
      (.ok (replies providers j.counters), j.counted (countedAll providers j.counters)) := by
  induction providers generalizing j with
  | nil => rfl
  | cons provider providers ih =>
    have hone : (do return (provider.key, ← Action.attempt provider.ask) : Logging Reply) j =
        (.ok (provider.key, provider.answer j.counters),
          j.counted (provider.counted j.counters)) := by
      rw [Action.bind_of_ok (provider.attempt_ask_run j), Action.pure_run]
    exact Action.mapM_cons_of_ok hone (ih _)

theorem answers_eq : answers providers counters =
    (replies providers counters).filterMap Reply.value? := by
  induction providers generalizing counters with
  | nil => rfl
  | cons provider providers ih =>
    rw [answers, replies, List.filterMap_cons, ← ih]
    rcases provider.answer counters with r | v
    · rfl
    · by_cases hnone : v.isNone = true
      · simp [Reply.value?, hnone]
      · simp [Reply.value?, hnone]

theorem failures_eq : failures providers counters =
    (replies providers counters).filterMap Reply.failure? := by
  induction providers generalizing counters with
  | nil => rfl
  | cons provider providers ih =>
    rw [failures, replies, List.filterMap_cons, ← ih]
    rcases provider.answer counters with r | v <;> rfl

/-- **Each provider is asked once**: a cell counts the providers that count in it. Of one that
counts in no cell it could not be told how often it was asked, but then it makes no difference. -/
theorem getElem?_countedAll (cell : Nat) :
    (countedAll providers counters)[cell]? =
      counters[cell]?.map (· + providers.countP fun provider => provider.cell? = some cell) := by
  induction providers generalizing counters with
  | nil => simp [countedAll]
  | cons provider providers ih =>
    have hstep : countedAll (provider :: providers) counters =
        countedAll providers (provider.counted counters) := rfl
    rw [hstep, ih, Provider.getElem?_counted, Option.map_map, List.countP_cons]
    congr 1
    funext n
    by_cases hcell : provider.cell? = some cell
    · simp only [hcell, Function.comp_apply, decide_true, if_true]
      omega
    · simp [hcell]

end Asking

/-! ## The value of a key

Of the replies for a key three kinds do not matter: those before the last value, those that are
none, and failures. `IsLastValue` says where the value stands among them. -/

/-- The value of a key is that of the last reply for it that is a value. -/
def IsLastValue (replies : List Reply) (key : String) (v : Value) : Prop :=
  ∃ before after, replies = before ++ (key, .ok v) :: after ∧ ¬ v.isNone = true ∧
    ∀ w, (key, .ok w) ∈ after → w.isNone = true

theorem isLastValue_cons {reply : Reply} {rest : List Reply} {key : String} {v : Value} :
    IsLastValue (reply :: rest) key v ↔ IsLastValue rest key v ∨
      reply = (key, .ok v) ∧ ¬ v.isNone = true ∧ ∀ w, (key, .ok w) ∈ rest → w.isNone = true := by
  constructor
  · rintro ⟨before, after, hsplit, hv, hafter⟩
    rcases List.cons_eq_append_iff.mp hsplit with ⟨rfl, heq⟩ | ⟨before, rfl, rfl⟩
    · obtain ⟨rfl, rfl⟩ := List.cons.inj heq
      exact .inr ⟨rfl, hv, hafter⟩
    · exact .inl ⟨before, after, rfl, hv, hafter⟩
  · rintro (⟨before, after, rfl, hv, hafter⟩ | ⟨rfl, hv, hafter⟩)
    · exact ⟨reply :: before, after, rfl, hv, hafter⟩
    · exact ⟨[], rest, rfl, hv, hafter⟩

/-- The fields that replies give are the values among them. -/
theorem mem_values_iff {replies : List Reply} {key : String} {v : Value} :
    (key, v) ∈ replies.filterMap Reply.value? ↔ (key, .ok v) ∈ replies ∧ ¬ v.isNone = true := by
  rw [List.mem_filterMap]
  constructor
  · rintro ⟨⟨k, r | w⟩, hreply, hvalue⟩
    · cases hvalue
    · rw [Reply.value?] at hvalue
      split at hvalue
      · cases hvalue
      · rename_i hnone
        obtain ⟨rfl, rfl⟩ := Prod.mk.inj (Option.some.inj hvalue)
        exact ⟨hreply, hnone⟩
  · rintro ⟨hreply, hnone⟩
    exact ⟨_, hreply, by rw [Reply.value?, if_neg hnone]⟩

/-- There is no field for a key exactly if all that its providers gave is none. -/
theorem lookup_values_eq_none_iff {replies : List Reply} {key : String} :
    (replies.filterMap Reply.value?).reverse.lookup key = none ↔
      ∀ w, (key, .ok w) ∈ replies → w.isNone = true := by
  rw [Document.lookup_eq_none_iff, List.map_reverse, List.mem_reverse]
  constructor
  · intro h w hw
    by_contra hnone
    exact h (List.mem_map_of_mem (mem_values_iff.mpr ⟨hw, hnone⟩))
  · intro h hmem
    obtain ⟨⟨_, w⟩, hfield, rfl⟩ := List.mem_map.mp hmem
    obtain ⟨hreply, hnone⟩ := mem_values_iff.mp hfield
    exact hnone (h w hreply)

/-- **The last value for a key** is what is found for it among the fields that were given. By
induction on the replies: the value stands in the rest, or it is the first and the rest has none. -/
theorem lookup_values_eq_some_iff {replies : List Reply} {key : String} {v : Value} :
    (replies.filterMap Reply.value?).reverse.lookup key = some v ↔ IsLastValue replies key v := by
  induction replies with
  | nil => simp [IsLastValue]
  | cons reply rest ih =>
    rw [isLastValue_cons, ← ih, List.filterMap_cons, ← lookup_values_eq_none_iff]
    obtain ⟨k, answer⟩ := reply
    rcases answer with r | w
    · simp [Reply.value?]
    · by_cases hnone : w.isNone = true
      · simp only [Reply.value?, if_pos hnone]
        refine ⟨.inl, ?_⟩
        rintro (h | ⟨heq, hv, -⟩)
        · exact h
        · obtain ⟨-, rfl⟩ : k = key ∧ w = v := by simpa using heq
          exact absurd hnone hv
      · simp only [Reply.value?, if_neg hnone]
        rw [List.reverse_cons, List.lookup_append, Option.or_eq_some_iff, Document.lookup_cons]
        refine or_congr_right ?_
        constructor
        · rintro ⟨hrest, h⟩
          split at h
          · obtain rfl := Option.some.inj h
            subst_vars
            exact ⟨rfl, hnone, hrest⟩
          · cases h
        · rintro ⟨heq, hv, hrest⟩
          obtain ⟨rfl, rfl⟩ : k = key ∧ w = v := by simpa using heq
          exact ⟨hrest, by rw [if_pos rfl]⟩

end Context

/-! ## Collecting

If all that is raised is ordinary, it depends on what is bound around alone whether failures can be
reported, and not on the failures. So there are two courses: all are reported, or the first one ends
the collecting. -/

/-- What is raised is caught by handlers, and it has a text. -/
structure Raised.IsOrdinary (naming : Naming) (r : Raised) : Prop where
  caught : r.isCaught = true
  text : ∃ message, r.text naming = .ok message

namespace Context

variable {naming : Naming} {bound fields : Fields} {providers : List Provider}
  {counters : List Nat}

/-- What is bound around lets a warning be written that a provider failed: it can be recorded, as
far as the warning does not hide it, and the failure and the stack do not take its place. -/
def AllowsReports (naming : Naming) (bound : Fields) : Prop :=
  ∀ field ∈ bound, field.1 ∉ ["logger", "key", "error"] →
    Field.IsWritable naming field ∨ Logger.Replaced bound field.1

/-- Whether a failure can be reported does not depend on the failure. -/
theorem canReport_iff {failed : String × Raised} (h : failed.2.IsOrdinary naming) :
    CanReport naming bound failed ↔ AllowsReports naming bound := by
  obtain ⟨message, hmessage⟩ := h.text
  exact ⟨fun ⟨_, _, hfree⟩ => hfree, fun hallows => ⟨message, hmessage, hallows⟩⟩

/-- **Where failures can be reported**, the answers are gathered, and there is one warning for each
failure. -/
theorem gather_of_allows (fields : Fields)
    (hordinary : ∀ failed ∈ failures providers counters, failed.2.IsOrdinary naming)
    (h : AllowsReports naming bound ∨ failures providers counters = []) :
    ∃ records, List.Forall₂ (ReportsOn naming bound) (failures providers counters) records ∧
      gather naming bound providers fields counters =
        ⟨.ok (overlay fields (answers providers counters)), records,
          countedAll providers counters⟩ := by
  have hcan : ∀ failed ∈ failures providers counters, CanReport naming bound failed := by
    intro failed hfailed
    rcases h with hallows | hnone
    · exact (canReport_iff (hordinary failed hfailed)).mpr hallows
    · rw [hnone] at hfailed
      cases hfailed
  have hcollection : Collection naming bound providers fields counters
      (gather naming bound providers fields counters) :=
    gather_collection fun failed hfailed => (hordinary failed hfailed).caught
  generalize gather naming bound providers fields counters = g at hcollection
  cases hcollection with
  | gathered hrecords => exact ⟨_, hrecords, rfl⟩
  | ended hsplit _ hfailed => exact absurd (hcan _ (by rw [hsplit]; simp)) hfailed

/-- **Where they cannot**, the first one ends the gathering, and nothing is asked or written after
it. Those before it have answered, and what they gave is lost. -/
theorem gather_of_not_allows (fields : Fields)
    (hordinary : ∀ failed ∈ failures providers counters, failed.2.IsOrdinary naming)
    (hallows : ¬ AllowsReports naming bound) (hfailures : failures providers counters ≠ []) :
    ∃ before provider rest r message f, providers = before ++ provider :: rest ∧
      failures before counters = [] ∧ provider.answer (countedAll before counters) = .error r ∧
      r.text naming = .ok message ∧
      (failure provider.key message).warned naming bound r = .error f ∧
      gather naming bound providers fields counters =
        ⟨.error (.fault f), [], countedAll (before ++ [provider]) counters⟩ := by
  induction providers generalizing fields counters with
  | nil => exact absurd rfl hfailures
  | cons provider providers ih =>
    rcases hanswer : provider.answer counters with r | v
    · have hr : r.IsOrdinary naming := by
        refine hordinary (provider.key, r) ?_
        rw [failures, hanswer]
        exact List.mem_cons_self
      obtain ⟨message, hmessage⟩ := hr.text
      rcases Emission.warned_cases (isWarning_failure provider.key message) naming bound r with
        ⟨hfree, -⟩ | ⟨-, f, hwarned⟩
      · exact absurd hfree hallows
      · have hreport : report naming bound provider.key r = .error f :=
          (report_of_text hmessage provider.key).trans hwarned
        refine ⟨[], provider, providers, r, message, f, rfl, rfl, hanswer, hmessage, hwarned, ?_⟩
        simp only [gather, gatherOne, hanswer, if_pos hr.caught, hreport]
        rfl
    · have hrest : failures (provider :: providers) counters =
          failures providers (provider.counted counters) := by
        rw [failures, hanswer]
      rw [hrest] at hordinary hfailures
      obtain ⟨before, failing, rest, r, message, f, rfl, hbefore, hr, hmessage, hwarned, hgather⟩ :=
        ih (if v.isNone then fields else Document.insert provider.key v fields) hordinary hfailures
      refine ⟨provider :: before, failing, rest, r, message, f, rfl, ?_, hr, hmessage, hwarned, ?_⟩
      · rw [failures, hanswer]
        exact hbefore
      · simp only [gather, gatherOne, hanswer, hgather]
        rfl

/-- What collecting does in a journal, if all that is raised is ordinary. -/
inductive Course (naming : Naming) (providers : List Provider) (j : Journal) :
    Except Raised Fields × Journal → Prop where
  /-- all providers were asked, each key has its last value, and there is a warning for each
  failure -/
  | collected {replies : List Reply} {asked : Journal} {fields : Fields} {records : List Record}
      (hasked : askAll providers j = (.ok replies, asked))
      (hkeys : (fields.map Prod.fst).Nodup)
      (hfields : ∀ key v, fields.lookup key = some v ↔ IsLastValue replies key v)
      (hrecords : List.Forall₂ (ReportsOn naming j.bound) (replies.filterMap Reply.failure?)
        records) :
      Course naming providers j (.ok fields, asked.logged records)
  /-- the first provider that failed ended it: those after it were not asked, and its warning was
  not written -/
  | ended {before rest : List Provider} {provider : Provider} {replies : List Reply} {r : Raised}
      {message : List Char} {asked : Journal} {f : Fault}
      (hproviders : providers = before ++ provider :: rest)
      (hasked : askAll (before ++ [provider]) j =
        (.ok (replies ++ [(provider.key, .error r)]), asked))
      (hreplies : replies.filterMap Reply.failure? = [])
      (hmessage : r.text naming = .ok message)
      (hwarned : (failure provider.key message).warned naming j.bound r = .error f) :
      Course naming providers j (.error (.fault f), asked)

theorem replies_concat (before : List Provider) (provider : Provider) (counters : List Nat) :
    replies (before ++ [provider]) counters =
      replies before counters ++
        [(provider.key, provider.answer (countedAll before counters))] := by
  induction before generalizing counters with
  | nil => rfl
  | cons first before ih =>
    rw [List.cons_append, replies, ih]
    rfl

/-- **What collecting does** where what is bound around lets failures be reported, or nothing
fails. -/
theorem course_of_allows {j : Journal}
    (hordinary : ∀ failed ∈ failures providers j.counters, failed.2.IsOrdinary naming)
    (h : AllowsReports naming j.bound ∨ failures providers j.counters = []) :
    (∃ fields, (collect naming providers j).1 = .ok fields) ∧
      Course naming providers j (collect naming providers j) := by
  obtain ⟨records, hrecords, hgather⟩ := gather_of_allows [] hordinary h
  have hrun : collect naming providers j =
      (.ok (overlay [] (answers providers j.counters)),
        (j.counted (countedAll providers j.counters)).logged records) := by
    rw [collect, collect_run, hgather, Journal.logged_counted]
  rw [hrun]
  have hnil : (([] : Fields).map Prod.fst).Nodup := List.nodup_nil
  refine ⟨⟨_, rfl⟩, .collected (askAll_run providers j) (nodup_keys_overlay hnil _) ?_ ?_⟩
  · intro key v
    rw [lookup_overlay, answers_eq, List.lookup_nil, Option.or_none, lookup_values_eq_some_iff]
  · rwa [← failures_eq]

/-- **What collecting does** where it does not, and a provider fails. -/
theorem course_of_not_allows {j : Journal}
    (hordinary : ∀ failed ∈ failures providers j.counters, failed.2.IsOrdinary naming)
    (hallows : ¬ AllowsReports naming j.bound) (hfailures : failures providers j.counters ≠ []) :
    (¬ ∃ fields, (collect naming providers j).1 = .ok fields) ∧
      Course naming providers j (collect naming providers j) := by
  obtain ⟨before, provider, rest, r, message, f, hproviders, hbefore, hr, hmessage, hwarned,
    hgather⟩ := gather_of_not_allows [] hordinary hallows hfailures
  have hrun : collect naming providers j =
      (.error (.fault f), j.counted (countedAll (before ++ [provider]) j.counters)) := by
    rw [collect, collect_run, hgather, Journal.logged_nil]
  have hasked : askAll (before ++ [provider]) j =
      (.ok (replies before j.counters ++ [(provider.key, .error r)]),
        j.counted (countedAll (before ++ [provider]) j.counters)) := by
    rw [askAll_run, replies_concat, hr]
  rw [hrun]
  constructor
  · rintro ⟨fields, h⟩
    cases h
  · refine .ended hproviders hasked ?_ hmessage hwarned
    rw [← failures_eq]
    exact hbefore

/-- What collecting does in a journal, and when it gives fields. -/
structure Collects (naming : Naming) (providers : List Provider) (j : Journal) : Prop where
  course : Course naming providers j (collect naming providers j)
  /-- it gives them exactly if failures can be reported, or there are none -/
  gives_iff : (∃ fields, (collect naming providers j).1 = .ok fields) ↔
    AllowsReports naming j.bound ∨ failures providers j.counters = []
  /-- where it does, every provider was asked once: its cell has counted that -/
  counts : ∀ fields after, collect naming providers j = (.ok fields, after) → ∀ cell,
    after.counters[cell]? =
      j.counters[cell]?.map (· + providers.countP fun provider => provider.cell? = some cell)

/-- **Collecting context variables**: providers that fail are left out, and of the values for one
key the last one counts; unless a failure cannot be reported for what is bound around. And to
collect from providers one part after the other is to collect from all of them. -/
theorem collect_course (naming : Naming) (j : Journal) :
    (∀ providers : List Provider,
      (∀ failed ∈ failures providers j.counters, failed.2.IsOrdinary naming) →
      Collects naming providers j) ∧
    ∀ xs ys : List Provider, collect naming (xs ++ ys) = do
      let fields ← collect naming xs
      let others ← collect naming ys
      return overlay fields others := by
  refine ⟨fun providers hordinary => ?_, collect_append naming⟩
  have hcourse : Course naming providers j (collect naming providers j) ∧
      ((∃ fields, (collect naming providers j).1 = .ok fields) ↔
        AllowsReports naming j.bound ∨ failures providers j.counters = []) := by
    by_cases h : AllowsReports naming j.bound ∨ failures providers j.counters = []
    · obtain ⟨hgives, hcourse⟩ := course_of_allows hordinary h
      exact ⟨hcourse, iff_of_true hgives h⟩
    · obtain ⟨hallows, hfailures⟩ := not_or.mp h
      obtain ⟨hgives, hcourse⟩ := course_of_not_allows hordinary hallows hfailures
      exact ⟨hcourse, iff_of_false hgives h⟩
  refine ⟨hcourse.1, hcourse.2, fun fields after hrun cell => ?_⟩
  obtain ⟨hcourse, -⟩ := hcourse
  rw [hrun] at hcourse
  cases hcourse with
  | collected hasked =>
    rw [askAll_run] at hasked
    obtain ⟨-, rfl⟩ := Prod.mk.inj hasked
    exact getElem?_countedAll providers j.counters cell

theorem collect_course_mixed :
    Collects .empty
      [⟨"a", .const (.int 1)⟩, ⟨"n", .count 0⟩, ⟨"a", .raises (.known .valueError) [.str "no"]⟩,
        ⟨"a", .const .none⟩, ⟨"n", .count 0⟩] { counters := [0] } ∧
    (collect .empty
      [⟨"a", .const (.int 1)⟩, ⟨"n", .count 0⟩, ⟨"a", .raises (.known .valueError) [.str "no"]⟩,
        ⟨"a", .const .none⟩, ⟨"n", .count 0⟩] { counters := [0] }).1 =
      .ok [("a", .int 1), ("n", .int 2)] := by
  refine ⟨(collect_course .empty { counters := [0] }).1 _ ?_, rfl⟩
  have hfailures : failures
      [⟨"a", .const (.int 1)⟩, ⟨"n", .count 0⟩, ⟨"a", .raises (.known .valueError) [.str "no"]⟩,
        ⟨"a", .const .none⟩, ⟨"n", .count 0⟩] [0] =
        [("a", .made (.known .valueError) [.str "no"])] := rfl
  rw [hfailures, List.forall_mem_singleton]
  exact ⟨rfl, _, rfl⟩

/-- **A bound value that cannot be written**, here a dictionary with a tuple for a key, turns a
provider that fails into the end of the collecting, though what is collected would have hidden that
value: the failure has a text, but it is not reported, and the provider after it is not asked. -/
theorem bound_value_ends_collect :
    ∃ after, collect .empty
        [⟨"x", .const (.int 1)⟩, ⟨"k", .raises (.known .valueError) [.str "no"]⟩, ⟨"n", .count 0⟩]
        { bound := [("x", .dict [(.tuple [.int 1], .int 2)])], counters := [0] } =
          (.error (.fault (.unsupported "keys must be str, int, float, bool or None")), after) ∧
      after.counters = [0] ∧ after.records = [] :=
  ⟨_, rfl, rfl, rfl⟩

end Context

end CallLog
