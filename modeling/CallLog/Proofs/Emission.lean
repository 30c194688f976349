import CallLog.Proofs.PlanCache.Fetch
import CallLog.Proofs.Steady

/-!
# Emissions

A module that makes a logger and hands it an event writes one record or none. Which fields a record
has follows from three sources, told without their merging: what is given with the event, the name
of the logger, and what is bound around (`Emission.value?`). An exception or the stack, where the
event asks for one, takes the place of what these sources have under its key (`Replaces`). The main
statement is `Emission.run_ends`: an emission that passes the threshold is recorded with these
fields if all of it can be shown, and raises without a record otherwise; one that does not pass
writes nothing.

Of the stack a record shows here no more than that it is one. Time stamps are left out.
-/

namespace CallLog

/-! ## The fields of a record

The fields of an event are merged from three sources into one list, in which each name stands once.
That list is opened here once and for all: below it is only asked what stands under a name. -/

namespace Logger

variable {naming : Naming}

/-- What is given with an event, over the name of its logger. -/
def ownFields (logger : Logger) (given : List (String × Value)) : List (String × Value) :=
  Context.overlay [("logger", .str logger.name)] given

theorem gather_eq (logger : Logger) (bound given : List (String × Value)) :
    logger.gather bound given = logger.ownFields given ++
      bound.filter fun field => ((logger.ownFields given).lookup field.1).isNone := rfl

/-- **Where a field of an event comes from.** Of several fields given under one name the last one
counts, and after these the name of the logger; what is bound comes last. -/
theorem lookup_gather (logger : Logger) (bound given : List (String × Value)) (name : String) :
    (logger.gather bound given).lookup name =
      (given.reverse.lookup name).or
        (if name = "logger" then some (.str logger.name) else bound.lookup name) := by
  have hown : (logger.ownFields given).lookup name =
      (given.reverse.lookup name).or
        (if name = "logger" then some (.str logger.name) else none) := by
    rw [ownFields, Context.lookup_overlay, Document.lookup_cons]
    rfl
  rw [gather_eq, List.lookup_append,
    Document.lookup_filter fun n => ((logger.ownFields given).lookup n).isNone, hown]
  rcases given.reverse.lookup name with _ | v
  · by_cases hname : name = "logger"
    · simp [hname]
    · simp [hname]
  · rfl

/-- No name comes twice among the fields of an event: what is bound is taken only under names that
are still free. -/
theorem nodup_keys_gather (logger : Logger) {bound : List (String × Value)}
    (hbound : (bound.map Prod.fst).Nodup) (given : List (String × Value)) :
    ((logger.gather bound given).map Prod.fst).Nodup := by
  have hown : ((logger.ownFields given).map Prod.fst).Nodup :=
    Context.nodup_keys_overlay (by simp) given
  rw [gather_eq, List.map_append]
  refine List.nodup_append.mpr ⟨hown, Document.nodup_keys_filter _ hbound, ?_⟩
  -- what is bound is taken only where the name is still free
  rintro name hmem _ htaken rfl
  obtain ⟨field, hfield, rfl⟩ := List.mem_map.mp htaken
  have hfree := (List.mem_filter.mp hfield).2
  rw [Option.isNone_iff_eq_none, Document.lookup_eq_none_iff] at hfree
  exact hfree hmem

/-- An event can be recorded if what is found under the keys that the record takes becomes
documents. Under any other key the value may be one that has no document. -/
theorem exists_record_iff_lookup (logger : Logger) (level event : String)
    {bound : List (String × Value)} (hbound : (bound.map Prod.fst).Nodup)
    (given : List (String × Value)) :
    (∃ r, record naming logger level event bound given = .ok r) ↔
      ∀ name v, isTaken naming (logger.gather bound given) name = true →
        (logger.gather bound given).lookup name = some v →
          ∃ d, Document.ofValue naming v = .ok d := by
  rw [exists_record_iff]
  have hnodup := nodup_keys_gather logger hbound given
  constructor
  · intro h name v htaken hname
    exact h (name, v) (Document.mem_of_lookup hname) htaken
  · intro h field hfield htaken
    exact h field.1 field.2 htaken (Document.lookup_of_mem hnodup hfield)

end Logger

/-! ## Emissions

An emission is a call of a method on a logger that was just made, with everything that decides what
comes of it but the values bound around. These are given as a function from keys here, so that
statements about nested blocks can say what it is. -/

/-- A module makes a logger and hands it an event. -/
structure Emission where
  /-- the name of the logger -/
  name : String
  method : String
  event : String
  args : List Value := []
  /-- the fields given with the event -/
  given : Context.Fields := []

/-- The keys of fields that are not simply shown under their key. -/
def Record.treatedKeys : List String :=
  ["level", "timestamp", "event", "exception", "exc_info", "stack_info"]

/-- A record shows a value, or nothing, under a key. -/
def Record.Shows (naming : Naming) (r : Record) (key : String) : Option Value → Prop
  | some v => ∃ d, Document.ofValue naming v = .ok d ∧ r.lookup key = some d
  | none => r.lookup key = none

namespace Emission

variable {naming : Naming} {e : Emission} {threshold : Nat} {level : String}
  {bound : String → Option Value}

/-- Makes the logger and hands it the event. -/
def run (naming : Naming) (e : Emission) : Logging Unit := do
  (← Logger.make e.name).emit naming e.method e.event e.args e.given

/-- The level that the record shows, if the method writes records and passes the threshold. -/
def level? (threshold : Nat) (e : Emission) : Option String :=
  match Logger.method? e.method with
  | some (.writes number level) => if threshold ≤ number then some level else none
  | some .writesException => some "error"
  | _ => none

/-- The fields that the record is made with. A method that writes an exception adds that it does. -/
def fields (e : Emission) : Context.Fields :=
  match Logger.method? e.method with
  | some .writesException =>
    if (e.given.lookup "exc_info").isSome then e.given else e.given ++ [("exc_info", .bool true)]
  | _ => e.given

/-- The value of a field: what is given under its key, else the name of the logger, else what is
bound around. -/
def value? (bound : String → Option Value) (e : Emission) (key : String) : Option Value :=
  (e.given.reverse.lookup key).or (if key = "logger" then some (.str e.name) else bound key)

/-- The exception that a record of an emission shows. -/
def exception? (bound : String → Option Value) (e : Emission) : Option Raised :=
  ((e.fields.reverse.lookup "exc_info").or (bound "exc_info")).bind Logger.exceptionOf?

/-- Whether a record of an emission shows the stack: `stack_info` holds as a condition. -/
def asksForStack (bound : String → Option Value) (e : Emission) : Bool :=
  (e.value? bound "stack_info").any Value.isTrue

/-- An exception or the stack takes the place of what an emission has under a key. -/
def Replaces (bound : String → Option Value) (e : Emission) (key : String) : Prop :=
  key = "exception" ∧ (e.exception? bound).isSome = true ∨
    key = "stack" ∧ e.asksForStack bound = true

/-- A record is what an emission writes at a level, with some values bound around it. -/
structure IsRecord (naming : Naming) (bound : String → Option Value) (e : Emission)
    (level : String) (r : Record) : Prop where
  level : r.lookup "level" = some (.str level)
  event : ∃ text, Logger.eventText naming e.event e.args = .ok text ∧
    r.lookup "event" = some (.str text)
  /-- every other key has its value; but where the stack is asked for, `stack` is the stack -/
  field : ∀ key ∉ Record.treatedKeys, (key = "stack" → e.asksForStack bound = false) →
    r.Shows naming key (e.value? bound key)
  stack : e.asksForStack bound = true → r.lookup "stack" = some (.str Logger.stackText)
  exception : ∀ raised, e.exception? bound = some raised →
    r.lookup "exception" = some (.str (Logger.exceptionText naming raised))

/-- Nothing keeps an emission from being recorded, with some values bound around it. The three
conditions are independent of each other: the names, the text and the values. -/
structure Fits (naming : Naming) (bound : String → Option Value) (e : Emission) : Prop where
  /-- no field has a name that the logger needs for itself -/
  free : Logger.clash? ["self", "event", "method_name"] e.given = none
  text : ∃ text, Logger.eventText naming e.event e.args = .ok text
  /-- each field becomes a document, is left out, or is replaced -/
  shown : ∀ key v, Logger.isReserved key = false → ¬ e.Replaces bound key →
    e.value? bound key = some v → ∃ d, Document.ofValue naming v = .ok d

/-- How an emission can end, with some values bound around it: the records that it writes, and its
outcome. -/
inductive Ends (naming : Naming) (threshold : Nat) (bound : String → Option Value) (e : Emission) :
    List Record → Except Raised Unit → Prop
  | written {level r} (passes : e.level? threshold = some level) (fits : e.Fits naming bound)
    (isRecord : e.IsRecord naming bound level r) : e.Ends naming threshold bound [r] (.ok ())
  | refused {level r} (passes : e.level? threshold = some level) (fits : ¬ e.Fits naming bound) :
    e.Ends naming threshold bound [] (.error r)
  | silent {outcome} (passes : e.level? threshold = none) : e.Ends naming threshold bound [] outcome

/-! ### Fields -/

theorem lookup_fields (e : Emission) {key : String} (hkey : key ≠ "exc_info") :
    e.fields.reverse.lookup key = e.given.reverse.lookup key := by
  unfold fields
  split
  · split
    · rfl
    · rw [List.reverse_append, List.reverse_singleton, List.singleton_append,
        Document.lookup_cons, if_neg hkey]
  · rfl

theorem clash?_fields (e : Emission) {names : List String} (hnames : "exc_info" ∉ names) :
    Logger.clash? names e.fields = Logger.clash? names e.given := by
  refine Logger.clash?_congr fun name hname => ?_
  have hne : name ≠ "exc_info" := by
    rintro rfl
    exact hnames hname
  unfold fields
  split
  · split
    · exact Iff.rfl
    · simp [hne]
  · exact Iff.rfl

/-- What a record finds under a key is the value of the field, for every key but that of the
exception, which a method may add. -/
theorem lookup_gather (e : Emission) (threshold : Nat) {fields : Context.Fields}
    (hfields : ∀ key, fields.lookup key = bound key) {key : String} (hkey : key ≠ "exc_info") :
    (Logger.gather ⟨e.name, threshold⟩ fields e.fields).lookup key = e.value? bound key := by
  rw [Logger.lookup_gather, e.lookup_fields hkey, hfields]
  rfl

section

variable {fields : Context.Fields} (hfields : ∀ key, fields.lookup key = bound key)
include hfields

theorem exceptionOf?_gather (e : Emission) (threshold : Nat) :
    ((Logger.gather ⟨e.name, threshold⟩ fields e.fields).lookup "exc_info").bind
      Logger.exceptionOf? = e.exception? bound := by
  rw [Logger.lookup_gather, hfields]
  rfl

theorem asksFor_gather (e : Emission) (threshold : Nat) :
    Logger.asksFor "stack_info" (Logger.gather ⟨e.name, threshold⟩ fields e.fields) =
      e.asksForStack bound := by
  rw [Logger.asksFor, e.lookup_gather threshold hfields (by decide)]
  rfl

/-- **What a record takes from an emission**: what is not left out and not replaced. What is
replaced depends on what is found under two other keys, so it cannot be told from the key alone. -/
theorem isTaken_gather_iff (naming : Naming) (e : Emission) (threshold : Nat) {key : String} :
    Logger.isTaken naming (Logger.gather ⟨e.name, threshold⟩ fields e.fields) key = true ↔
      Logger.isReserved key = false ∧ ¬ e.Replaces bound key := by
  rw [Logger.isTaken_iff, e.exceptionOf?_gather hfields, e.asksFor_gather hfields, Replaces, not_or]

theorem lookup_rendered_gather (naming : Naming) (e : Emission) (threshold : Nat) (key : String) :
    (Logger.rendered naming (Logger.gather ⟨e.name, threshold⟩ fields e.fields)).lookup key =
      if key = "exception" then
        (e.exception? bound).map fun raised => .str (Logger.exceptionText naming raised)
      else if key = "stack" && e.asksForStack bound then some (.str Logger.stackText)
      else none := by
  rw [Logger.lookup_rendered, e.exceptionOf?_gather hfields, e.asksFor_gather hfields]

end

/-- A name that an emission cannot be given is taken by the method, or by what writes the record. -/
theorem clash?_taken (given : Context.Fields) :
    Logger.clash? ["self", "event", "method_name"] given =
      (Logger.clash? ["self", "event"] given).or (Logger.clash? ["method_name"] given) :=
  Logger.clash?_append ["self", "event"] ["method_name"] given

theorem isReserved_eq_false {key : String} (hkey : key ∉ Record.treatedKeys) :
    Logger.isReserved key = false ∧ key ≠ "exception" := by
  simp only [Record.treatedKeys, List.mem_cons, List.not_mem_nil, or_false, not_or] at hkey
  obtain ⟨hlevel, htime, hevent, hexception, hinfo, hstack⟩ := hkey
  simp [Logger.isReserved, hlevel, htime, hevent, hexception, hinfo, hstack]

/-- What is written is the record of the emission. The documents come first, then what was
asked for, and the event and the level last; none of these hides another, since they have
different keys. -/
theorem isRecord_of_written {fields : Context.Fields}
    (hfields : ∀ key, fields.lookup key = bound key) {r : Record}
    (h : Logger.written naming ⟨e.name, threshold⟩ level e.event e.args fields e.fields = .ok r) :
    e.IsRecord naming bound level r := by
  obtain ⟨-, text, htext, hrecord⟩ := Logger.of_written h
  obtain ⟨hevent, hlevel⟩ := Logger.lookup_record hrecord
  have hrendered := e.lookup_rendered_gather hfields naming threshold
  refine ⟨hlevel, ⟨text, htext, hevent⟩, fun key hkey hstack => ?_, fun hstack => ?_,
    fun raised hraised => ?_⟩
  · obtain ⟨hfree, hne⟩ := isReserved_eq_false hkey
    have htaken : Logger.isTaken naming (Logger.gather ⟨e.name, threshold⟩ fields e.fields) key =
        true := by
      refine (e.isTaken_gather_iff hfields naming threshold).mpr ⟨hfree, ?_⟩
      rintro (⟨rfl, -⟩ | ⟨rfl, h⟩)
      · exact hne rfl
      · cases (hstack rfl).symm.trans h
    have hgather := e.lookup_gather threshold hfields (Logger.ne_of_isReserved hfree (by decide))
    rcases hvalue : e.value? bound key with _ | v
    · rw [hvalue] at hgather
      exact Logger.lookup_record_absent hrecord hgather htaken
    · rw [hvalue] at hgather
      exact Logger.lookup_record_field hrecord hgather htaken
  · refine Logger.lookup_record_rendered hrecord ?_
    rw [hrendered, hstack]
    rfl
  · refine Logger.lookup_record_rendered hrecord ?_
    rw [hrendered, hraised]
    rfl

/-- **When an emission can be recorded.** The code that writes the record needs one name more for
itself than the method, so names are checked twice; together that is the first condition. -/
theorem exists_written_iff (naming : Naming) (e : Emission) (threshold : Nat) (level : String)
    {fields : Context.Fields} (hnodup : (fields.map Prod.fst).Nodup)
    (hfields : ∀ key, fields.lookup key = bound key)
    (hfree : Logger.clash? ["self", "event"] e.given = none) :
    (∃ r, Logger.written naming ⟨e.name, threshold⟩ level e.event e.args fields e.fields = .ok r) ↔
      e.Fits naming bound := by
  have hclash : Logger.clash? ["self", "event", "method_name"] e.given =
      Logger.clash? ["method_name"] e.fields := by
    rw [e.clash?_fields (by decide), clash?_taken, hfree, Option.none_or]
  constructor
  · rintro ⟨r, h⟩
    obtain ⟨hname, text, htext, hrecord⟩ := Logger.of_written h
    refine ⟨hclash.trans hname, ⟨text, htext⟩, fun key v hkey hreplaces hvalue => ?_⟩
    refine (Logger.exists_record_iff_lookup _ level text hnodup e.fields).mp ⟨r, hrecord⟩ key v
      ((e.isTaken_gather_iff hfields naming threshold).mpr ⟨hkey, hreplaces⟩) ?_
    rw [e.lookup_gather threshold hfields (Logger.ne_of_isReserved hkey (by decide)), hvalue]
  · intro h
    obtain ⟨text, htext⟩ := h.text
    rw [Logger.written_of_text htext (hclash.symm.trans h.free)]
    refine (Logger.exists_record_iff_lookup _ level text hnodup e.fields).mpr
      fun key v htaken hvalue => ?_
    obtain ⟨hkey, hreplaces⟩ := (e.isTaken_gather_iff hfields naming threshold).mp htaken
    rw [e.lookup_gather threshold hfields (Logger.ne_of_isReserved hkey (by decide))] at hvalue
    exact h.shown key v hkey hreplaces hvalue

/-! ### What an emission does -/

theorem make_bind {α : Type} (name : String) (f : Logger → Logging α) (j : Journal) :
    (Logger.make name >>= f) j = f ⟨name, j.threshold⟩ j := rfl

/-- A name that the method needs for itself is refused before anything else is looked at. -/
theorem run_of_refused {name : String} (hlevel : e.level? threshold = some level)
    (h : Logger.clash? ["self", "event"] e.given = some name) (j : Journal) :
    e.run naming j = (.error (.fault (.keywordClash name)), j) := by
  rw [run, make_bind]
  unfold level? at hlevel
  split at hlevel
  case h_1 number shown hmethod =>
    simp only [Logger.emit, hmethod]
    exact Action.bind_of_error (Logger.refuse_of_some h j) _
  case h_2 hmethod =>
    simp only [Logger.emit, hmethod]
    exact Action.bind_of_error (Logger.refuse_of_some h j) _
  case h_3 => cases hlevel

/-- An emission that passes the threshold hands its event over for writing. That may be by a method
that writes whatever the threshold is, with the exception that is being handled. -/
theorem run_of_level? (naming : Naming) {j : Journal} (hlevel : e.level? j.threshold = some level)
    (hfree : Logger.clash? ["self", "event"] e.given = none) :
    e.run naming j =
      match Logger.written naming ⟨e.name, j.threshold⟩ level e.event e.args j.bound e.fields with
      | .ok r => (.ok (), j.logged [r])
      | .error f => (.error (.fault f), j) := by
  rw [run, make_bind]
  unfold level? at hlevel
  split at hlevel
  case h_1 number shown hmethod =>
    by_cases hpasses : j.threshold ≤ number
    · rw [if_pos hpasses] at hlevel
      obtain rfl := Option.some.inj hlevel
      have hfields : e.fields = e.given := by
        simp only [fields, hmethod]
      rw [hfields]
      exact Logger.emit_run hmethod (decide_eq_true hpasses) hfree j
    · rw [if_neg hpasses] at hlevel
      cases hlevel
  case h_2 hmethod =>
    obtain rfl := Option.some.inj hlevel
    have hfields : e.fields = if (e.given.lookup "exc_info").isSome then e.given
        else e.given ++ [("exc_info", .bool true)] := by
      simp only [fields, hmethod]
    simp only [Logger.emit, hmethod]
    rw [Action.bind_of_ok (Logger.refuse_of_none hfree j), ← hfields]
    rcases h : Logger.written naming ⟨e.name, j.threshold⟩ "error" e.event e.args j.bound e.fields
      with f | r
    · rw [Action.bind_of_error (by rw [Logger.recordOf_run, h]; rfl)]
    · rw [Action.bind_of_ok (by rw [Logger.recordOf_run, h]; rfl)]
      rfl
  case h_3 => cases hlevel

/-- An emission that does not pass the threshold leaves everything as it is. Some methods never
write, and may raise all the same; that leaves everything as it is too. -/
theorem run_of_level?_none {j : Journal} (hlevel : e.level? j.threshold = none) :
    (e.run naming j).2 = j := by
  have hkeeps : (Logger.emit naming ⟨e.name, j.threshold⟩ e.method e.event e.args e.given).Maintains
      (· = j) := by
    unfold level? at hlevel
    unfold Logger.emit
    rcases hmethod : Logger.method? e.method with _ | method
    · exact .fault _
    cases method with
    | writes number shown =>
      simp only [hmethod] at hlevel
      refine (Logger.maintains_refuse _ _).bind fun _ => ?_
      have hlow : ¬ j.threshold ≤ number := by
        intro hle
        rw [if_pos hle] at hlevel
        cases hlevel
      rw [if_neg (by simpa [Logger.isEnabledFor] using hlow)]
      exact .pure ()
    | writesException =>
      simp only [hmethod] at hlevel
      cases hlevel
    | writesNothing =>
      refine (Logger.maintains_refuse _ _).bind fun _ => ?_
      split
      · exact (Logger.maintains_recordOf _ _ _ _ _).bind fun _ => .fault _
      · exact .pure ()
    | defers => exact Logger.maintains_refuse _ _
    | defersAtLevel =>
      refine (Logger.maintains_refuse _ _).bind fun _ => ?_
      split
      · exact .fault _
      · exact .pure ()
    | forgets isStrict =>
      simp only
      split
      · exact Logger.maintains_forget _ _
      · exact .fault _
    | refuses => exact .fault _
  rw [run, make_bind]
  exact hkeeps j rfl

/-- **What an emission does.** It changes nothing but the records, by at most one, and both that one
and the outcome are as the values that are bound around it say. There is a case for each way to end:
it passes and fits, it passes and does not fit, or it does not pass. -/
theorem run_ends (naming : Naming) (e : Emission) {j : Journal}
    (hnodup : (j.bound.map Prod.fst).Nodup) (hbound : ∀ key, j.bound.lookup key = bound key) :
    ∃ rs outcome, e.run naming j = (outcome, j.logged rs) ∧
      e.Ends naming j.threshold bound rs outcome := by
  rcases hlevel : e.level? j.threshold with _ | level
  · refine ⟨[], (e.run naming j).1, ?_, .silent hlevel⟩
    rw [Journal.logged_nil]
    exact Prod.ext rfl (run_of_level?_none hlevel)
  · rcases hfree : Logger.clash? ["self", "event"] e.given with _ | name
    · have hrun := run_of_level? naming hlevel hfree
      have hfits := e.exists_written_iff naming j.threshold level hnodup hbound hfree
      rcases hwritten : Logger.written naming ⟨e.name, j.threshold⟩ level e.event e.args j.bound
        e.fields with f | r
      · rw [hwritten] at hrun hfits
        refine ⟨[], .error (.fault f), by rw [hrun, Journal.logged_nil], .refused hlevel ?_⟩
        intro h
        obtain ⟨r, hr⟩ := hfits.mpr h
        cases hr
      · rw [hwritten] at hrun
        exact ⟨[r], .ok (), hrun,
          .written hlevel (hfits.mp ⟨r, hwritten⟩) (isRecord_of_written hbound hwritten)⟩
    · refine ⟨[], _, by rw [run_of_refused hlevel hfree, Journal.logged_nil], .refused hlevel ?_⟩
      intro h
      have hclash := h.free
      rw [clash?_taken, hfree] at hclash
      cases hclash

end Emission

end CallLog
