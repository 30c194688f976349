import CallLog.Logger
import CallLog.Proofs.Action

/-!
# What loggers write

A logger that is handed an event through one of the methods that levels have writes one record or
none, or raises. `Logger.written` is the record, told without the state: `emit_run` says that the
records of the journal get it, and nothing else changes.
-/

namespace CallLog

namespace Action

variable {σ α : Type}

/-- The outcome of a pure computation. -/
def outcome : Except Fault α → Except Raised α
  | .ok a => .ok a
  | .error f => .error (.fault f)

theorem ofExcept_run (x : Except Fault α) (s : σ) : ofExcept x s = (outcome x, s) := by
  rcases x with f | a <;> rfl

end Action

namespace Journal

/-- A journal with some more records. -/
def logged (j : Journal) (records : List Record) : Journal :=
  { j with records := j.records ++ records }

@[simp]
theorem logged_nil (j : Journal) : j.logged [] = j := by
  simp [logged]

@[simp]
theorem logged_logged (j : Journal) (rs ss : List Record) :
    (j.logged rs).logged ss = j.logged (rs ++ ss) := by
  simp [logged]

@[simp]
theorem bound_logged (j : Journal) (rs : List Record) : (j.logged rs).bound = j.bound := rfl

@[simp]
theorem counters_logged (j : Journal) (rs : List Record) :
    (j.logged rs).counters = j.counters := rfl

end Journal

namespace Logger

/-! ## Names that are taken

Fields are handed over as named arguments, so a field cannot have the name of a parameter of what it
is handed to. There are two such places, with different names: the method, and what writes the
record. -/

theorem clash?_eq_none_iff {names : List String} {given : List (String × Value)} :
    clash? names given = none ↔ ∀ e ∈ given, e.1 ∉ names := by
  rw [clash?, List.find?_eq_none]
  constructor
  · intro h e he hname
    exact h e.1 hname (List.any_eq_true.mpr ⟨e, he, by simp⟩)
  · intro h name hname hany
    obtain ⟨e, he, heq⟩ := List.any_eq_true.mp hany
    obtain rfl : e.1 = name := by simpa using heq
    exact h e he hname

theorem clash?_eq_some {names : List String} {given : List (String × Value)} {name : String}
    (h : clash? names given = some name) : name ∈ names ∧ ∃ e ∈ given, e.1 = name := by
  rw [clash?] at h
  have hany := List.find?_some h
  obtain ⟨e, he, heq⟩ := List.any_eq_true.mp hany
  exact ⟨List.mem_of_find?_eq_some h, e, he, by simpa using heq⟩

theorem refuse_of_none {names : List String} {given : List (String × Value)}
    (h : clash? names given = none) (j : Journal) : refuse names given j = (.ok (), j) := by
  rw [refuse, h]
  rfl

/-- The first name that clashes is the one that is named in the failure. -/
theorem refuse_of_some {names : List String} {given : List (String × Value)} {name : String}
    (h : clash? names given = some name) (j : Journal) :
    refuse names given j = (.error (.fault (.keywordClash name)), j) := by
  rw [refuse, h]
  rfl

/-! ## Records

What becomes of an event depends on the journal only through what is bound around it. So the record
is a function of that, and the journal changes by getting it. -/

/-- The record that a logger writes for an event with arguments. -/
def written (naming : Naming) (logger : Logger) (level event : String) (args : List Value)
    (bound given : List (String × Value)) : Except Fault Record := do
  let text ← eventText naming event args
  match clash? ["method_name"] given with
  | some name => .error (.keywordClash name)
  | none => record naming logger level text bound given

/-- Making a record leaves the journal as it is: it is written afterwards. -/
theorem recordOf_run (naming : Naming) (logger : Logger) (level event : String) (args : List Value)
    (given : List (String × Value)) (j : Journal) :
    recordOf naming logger level event args given j =
      (Action.outcome (written naming logger level event args j.bound given), j) := by
  rw [recordOf, written]
  rcases eventText naming event args with f | text
  · exact Action.bind_of_error rfl _
  · rw [Action.bind_of_ok (Action.ofExcept_run (.ok text) j)]
    rcases hclash : clash? ["method_name"] given with _ | name
    · rw [Action.bind_of_ok (refuse_of_none hclash j)]
      exact Action.ofExcept_run _ _
    · rw [Action.bind_of_error (refuse_of_some hclash j)]
      rfl

theorem written_of_text {naming : Naming} {event text : String} {args : List Value}
    (htext : eventText naming event args = .ok text) {given : List (String × Value)}
    (hgiven : clash? ["method_name"] given = none) (logger : Logger) (level : String)
    (bound : List (String × Value)) :
    written naming logger level event args bound given =
      record naming logger level text bound given := by
  rw [written, htext]
  simp only [bind, Except.bind, hgiven]

theorem written_of_error {naming : Naming} {event : String} {args : List Value} {f : Fault}
    (htext : eventText naming event args = .error f) (logger : Logger) (level : String)
    (bound given : List (String × Value)) :
    written naming logger level event args bound given = .error f := by
  rw [written, htext]
  rfl

/-- What was written has a text, and no field has the name that the code which writes it needs. -/
theorem of_written {naming : Naming} {l : Logger} {level event : String} {args : List Value}
    {bound given : List (String × Value)} {r : Record}
    (h : written naming l level event args bound given = .ok r) :
    clash? ["method_name"] given = none ∧ ∃ text, eventText naming event args = .ok text ∧
      record naming l level text bound given = .ok r := by
  obtain ⟨text, htext, h⟩ := Action.except_bind_eq_ok h
  rcases hclash : clash? ["method_name"] given with _ | name
  · rw [hclash] at h
    exact ⟨rfl, text, htext, h⟩
  · rw [hclash] at h
    cases h

/-- **An event is written as one record** through a method that writes, by a logger that lets it
through, if no field has a name that is taken. If it cannot be made, that is raised, and nothing is
written. -/
theorem emit_run {naming : Naming} {logger : Logger} {method event level : String}
    {number : Nat} {args : List Value} {given : List (String × Value)}
    (hmethod : method? method = some (.writes number level))
    (hlevel : logger.isEnabledFor number = true)
    (hgiven : clash? ["self", "event"] given = none) (j : Journal) :
    logger.emit naming method event args given j =
      match written naming logger level event args j.bound given with
      | .ok r => (.ok (), j.logged [r])
      | .error f => (.error (.fault f), j) := by
  simp only [emit, hmethod]
  rw [Action.bind_of_ok (refuse_of_none hgiven j), hlevel]
  simp only [if_true]
  rcases h : written naming logger level event args j.bound given with f | r
  · rw [Action.bind_of_error (by rw [recordOf_run, h]; rfl)]
  · rw [Action.bind_of_ok (by rw [recordOf_run, h]; rfl)]
    rfl

/-! ## Reports

The library reports through loggers of its own. What their threshold is depends on when the library
was loaded, but it lets all reports through, so their records do not depend on it. -/

/-- The record of a report. The logger that makes it was made with some threshold, which the record
does not show. -/
def reported (naming : Naming) (part level event : String) (bound given : List (String × Value)) :
    Except Fault Record :=
  written naming (own part 0) level event [] bound given

/-- A report is what a logger of the library itself writes. -/
def IsReport (r : Record) : Prop :=
  ∃ part naming level event fields bound, reported naming part level event bound fields = .ok r

/-- **A report is written** whenever it can be: the loggers of the library itself let everything
through that is not below the level `debug`. -/
theorem report_run (naming : Naming) (part : String) {method level : String} {number : Nat}
    (hmethod : method? method = some (.writes number level)) (hnumber : Level.debug.number ≤ number)
    (event : String) {given : List (String × Value)}
    (hgiven : clash? ["self", "event"] given = none) (j : Journal) :
    report naming part method event given j =
      match reported naming part level event j.bound given with
      | .ok r => (.ok (), j.logged [r])
      | .error f => (.error (.fault f), j) := by
  have hlevel : (own part j.reporting.threshold).isEnabledFor number = true :=
    decide_eq_true (Nat.le_trans j.reporting.letsThrough hnumber)
  exact emit_run hmethod hlevel hgiven j

theorem mem_handled {bound : List (String × Value)} {r : Raised} {field : String × Value}
    (h : field ∈ handled bound r) : field = ("exc_info", r.toValue) := by
  unfold handled at h
  split at h
  · exact List.mem_singleton.mp h
  · cases h

/-- What a handler gives more has no name that is taken. -/
theorem clash?_handled {names : List String} (hnames : "exc_info" ∉ names)
    {given : List (String × Value)} (hgiven : clash? names given = none)
    (bound : List (String × Value)) (r : Raised) :
    clash? names (given ++ handled bound r) = none := by
  rw [clash?_eq_none_iff] at hgiven ⊢
  refine List.forall_mem_append.mpr ⟨hgiven, fun field hfield => ?_⟩
  rwa [mem_handled hfield]

/-- **A report from a handler** may show the failure, besides what it says of it. -/
theorem reportHandled_run (naming : Naming) (part : String) {method level : String} {number : Nat}
    (hmethod : method? method = some (.writes number level)) (hnumber : Level.debug.number ≤ number)
    (event : String) {given : List (String × Value)}
    (hgiven : clash? ["self", "event"] given = none) (r : Raised) (j : Journal) :
    reportHandled naming part method event given r j =
      match reported naming part level event j.bound (given ++ handled j.bound r) with
      | .ok record => (.ok (), j.logged [record])
      | .error f => (.error (.fault f), j) :=
  report_run naming part hmethod hnumber event (clash?_handled (by decide) hgiven j.bound r) j

/-- The name that a level has in records. -/
def shownLevel : Level → String
  | .trace => "debug"
  | .debug => "debug"
  | .info => "info"
  | .warn => "warning"
  | .error => "error"
  | .derived => "debug"

/-- The method of a level writes. What it writes is not below the level, so a log point whose level
reaches the threshold is not stopped by the logger afterwards. -/
theorem method?_method (level : Level) :
    ∃ number, method? level.method = some (.writes number (shownLevel level)) ∧
      level.number ≤ number := by
  cases level
  all_goals exact ⟨_, rfl, by decide⟩

end Logger

end CallLog
