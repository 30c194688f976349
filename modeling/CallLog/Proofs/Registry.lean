import CallLog.Proofs.Steady

/-!
# Which converter is used

A registry is changed by registrations only, made at once or by a decorator that was asked for
before. So all that counts is its history: the registrations that it began with and those of the
events after that, in order. `IsLatest` is the converter that was registered last for a class, and
`Selects` the one that a line of ancestors leads to: the latest of the first class that has any.

What the classes are is left open, and so are their lines of ancestors: `lineOf` gives one for every
value. `Converters.convert` is the case of the known classes, with `Value.line`.

The main statement is `run_selects`: the history decides how every value is converted.
-/

namespace CallLog

namespace Registry

variable {κ : Type}

/-! ## Histories

A history is a list of registrations, the first one first. A class can be in it several times, and
what counts of it is its last one; and a line of ancestors can lead to several classes in it, of
which the first one counts. These are different orders, so they are said separately. -/

/-- A converter was registered for a class. -/
def IsRegistered (history : List (κ × Converter)) (k : κ) : Prop :=
  ∃ converter, (k, converter) ∈ history

/-- A converter is the one that was registered last for a class. -/
def IsLatest (history : List (κ × Converter)) (k : κ) (converter : Converter) : Prop :=
  ∃ before after, history = before ++ (k, converter) :: after ∧ ¬ IsRegistered after k

/-- A converter is the latest one of the first class in a line that has any. -/
def Selects (history : List (κ × Converter)) (line : List κ) (converter : Converter) : Prop :=
  ∃ above k below, line = above ++ k :: below ∧ IsLatest history k converter ∧
    ∀ a ∈ above, ¬ IsRegistered history a

/-- What happens to a registry. -/
inductive Event (κ : Type) where
  | register (k : κ) (converter : Converter)
  /-- a decorator is asked for that registers converters for a class -/
  | ask (k : κ)
  /-- the decorator for a class is put on a converter -/
  | decorate (k : κ) (converter : Converter)
  | convert (v : Value)

namespace Event

/-- The registration that an event makes. -/
def registration? : Event κ → Option (κ × Converter)
  | register k converter | decorate k converter => some (k, converter)
  | ask _ | convert _ => none

/-- Whether an event is a conversion. -/
def isConversion : Event κ → Bool
  | convert _ => true
  | _ => false

end Event

/-- The history of a registry: what it began with, and the registrations of some events. A registry
keeps the latest first, so what it began with is turned around. -/
def history (initial : Registry κ) (events : List (Event κ)) : List (κ × Converter) :=
  initial.entries.reverse ++ events.filterMap Event.registration?

variable [DecidableEq κ] {registry initial : Registry κ} {line : List κ} {converter : Converter}
  {naming : Naming} {lineOf : Value → List κ}

/-- What an event does to a registry and to the journal. -/
def step (naming : Naming) (lineOf : Value → List κ) (s : Registry κ × Journal) :
    Event κ → Registry κ × Journal
  | .register k converter | .decorate k converter => (s.1.add k converter, s.2)
  | .ask _ => s
  | .convert v => (s.1, (s.1.convert naming (lineOf v) v s.2).2)

/-- What some events do. -/
def run (naming : Naming) (lineOf : Value → List κ) (events : List (Event κ))
    (s : Registry κ × Journal) : Registry κ × Journal :=
  events.foldl (step naming lineOf) s

/-! ## Registries by their history

A registry is a list that is looked through from its front, and it gets longer at its front. So the
first entry for a class is the latest, and what is found can be told by the history alone. -/

omit [DecidableEq κ] in
theorem isRegistered_reverse {entries : List (κ × Converter)} {k : κ} :
    IsRegistered entries.reverse k ↔ IsRegistered entries k := by
  simp only [IsRegistered, List.mem_reverse]

theorem forall_ne_iff {entries : List (κ × Converter)} {k : κ} :
    (∀ e ∈ entries, (k != e.1) = true) ↔ ¬ IsRegistered entries k := by
  simp only [bne_iff_ne, IsRegistered, not_exists, Prod.forall]
  constructor
  · exact fun h converter hmem => h k converter hmem rfl
  · rintro h k' converter hmem rfl
    exact h converter hmem

theorem get?_eq_none_iff {k : κ} :
    registry.get? k = none ↔ ¬ IsRegistered registry.entries.reverse k := by
  rw [get?, List.lookup_eq_none_iff, forall_ne_iff, isRegistered_reverse]

/-- What a registry has for a class is the latest of its history. -/
theorem get?_eq_some_iff {k : κ} :
    registry.get? k = some converter ↔ IsLatest registry.entries.reverse k converter := by
  rw [get?, List.lookup_eq_some_iff]
  simp only [forall_ne_iff]
  constructor
  · rintro ⟨after, before, hentries, hafter⟩
    refine ⟨before.reverse, after.reverse, by simp [hentries], ?_⟩
    rwa [isRegistered_reverse]
  · rintro ⟨before, after, hentries, hafter⟩
    refine ⟨after.reverse, before.reverse, ?_, by rwa [isRegistered_reverse]⟩
    rw [← List.reverse_reverse registry.entries, hentries]
    simp

theorem find_eq_none_iff :
    registry.find line = none ↔ ∀ k ∈ line, ¬ IsRegistered registry.entries.reverse k := by
  rw [find, List.findSome?_eq_none_iff]
  exact forall₂_congr fun k _ => get?_eq_none_iff

/-- What a line leads to in a registry is what its history selects. -/
theorem find_eq_some_iff :
    registry.find line = some converter ↔ Selects registry.entries.reverse line converter := by
  rw [find, List.findSome?_eq_some_iff]
  simp only [get?_eq_none_iff, get?_eq_some_iff]
  rfl

/-! ## Steps and runs

Only registrations change a registry, and each adds an entry at the front. By induction the entries
after some events are known, whatever is asked for and converted between them. -/

/-- Of all events only registrations change a registry. -/
theorem step_registry (e : Event κ) (s : Registry κ × Journal) :
    (step naming lineOf s e).1 =
      { s.1 with entries := e.registration?.toList ++ s.1.entries } := by
  cases e <;> rfl

theorem run_registry (events : List (Event κ)) (s : Registry κ × Journal) :
    (run naming lineOf events s).1 =
      { s.1 with entries := (events.filterMap Event.registration?).reverse ++ s.1.entries } := by
  induction events generalizing s with
  | nil => rfl
  | cons e events ih =>
    rw [run, List.foldl_cons, ← run, ih, step_registry]
    rcases he : e.registration? with _ | registration <;> simp [he]

omit [DecidableEq κ] in
theorem registrations_filter (events : List (Event κ)) :
    (events.filter fun e => !e.isConversion).filterMap Event.registration? =
      events.filterMap Event.registration? := by
  rw [List.filterMap_filter]
  refine congrArg (fun f => events.filterMap f) (funext fun e => ?_)
  cases e <;> rfl

/-- **The history of a registry** is that of its events. -/
theorem reverse_entries_run (events : List (Event κ)) (j : Journal) :
    (run naming lineOf events (initial, j)).1.entries.reverse = history initial events := by
  simp [run_registry, history]

theorem meaning_run (events : List (Event κ)) (j : Journal) :
    (run naming lineOf events (initial, j)).1.meaning = initial.meaning := by
  rw [run_registry]

/-! ## Conversions

What a conversion does depends on the registry in two ways: on the converter that is found, and on
what converters mean, which never changes. Two registries that agree in these convert alike; so
whatever does not change what is found can be left out of a history. -/

theorem convert_none (j : Journal) : registry.convert naming line .none j = (.ok .none, j) :=
  rfl

theorem convert_of_find {v : Value} (hv : v.isNone = false)
    (h : registry.find line = some converter) :
    registry.convert naming line v = registry.applied naming converter v := by
  simp only [convert, hv, h, Bool.false_eq_true, if_false]

omit [DecidableEq κ] in
/-- What a converter gives is shown, and nothing is reported. -/
theorem applied_of_ok {v w : Value} (h : registry.meaning naming converter v = .ok w)
    (j : Journal) : registry.applied naming converter v j = (.ok w, j) := by
  rw [applied, h]
  rfl

omit [DecidableEq κ] in
/-- What a converter raises is reported if it can be caught, and is raised else. -/
theorem applied_of_error {v : Value} {r : Raised}
    (h : registry.meaning naming converter v = .error r) :
    registry.applied naming converter v =
      if r.isCaught then Converters.recover naming v r else Action.raise r := by
  rw [applied, h]

theorem convert_of_find_none {v : Value} (h : registry.find line = none) (j : Journal) :
    registry.convert naming line v j = (.ok v, j) := by
  rw [convert, h]
  split
  · rename_i hv
    cases v <;> first | rfl | cases hv
  · rfl

/-- Conversions look at the converter that is found, and at what converters mean. -/
theorem convert_congr {registry' : Registry κ} (hmeaning : registry'.meaning = registry.meaning)
    (hfind : registry'.find line = registry.find line) (v : Value) :
    registry'.convert naming line v = registry.convert naming line v := by
  simp only [convert, applied, hfind, hmeaning]

theorem find_append (registry : Registry κ) (above below : List κ) :
    registry.find (above ++ below) = (registry.find above).or (registry.find below) :=
  List.findSome?_append

theorem find_of_notMem {registry' : Registry κ} {k : κ}
    (hget : ∀ a, a ≠ k → registry'.get? a = registry.get? a) (hk : k ∉ line) :
    registry'.find line = registry.find line := by
  induction line with
  | nil => rfl
  | cons a line ih =>
    rw [List.mem_cons, not_or] at hk
    have hrest := ih hk.2
    rw [find, find] at hrest ⊢
    rw [List.findSome?_cons, List.findSome?_cons, hget a (Ne.symm hk.1), hrest]

/-- What a line leads to does not change with the registrations for a class that is not in the line,
or that comes after a registered one. In the second case the search ends before it gets there. -/
theorem find_of_apart {registry' : Registry κ} {k : κ}
    (hget : ∀ a, a ≠ k → registry'.get? a = registry.get? a)
    (hline : k ∉ line ∨ ∃ above a below, line = above ++ a :: below ∧ k ∉ above ++ [a] ∧
      IsRegistered registry.entries.reverse a) :
    registry'.find line = registry.find line := by
  rcases hline with hk | ⟨above, a, below, rfl, hk, ha⟩
  · exact find_of_notMem hget hk
  · -- the search ends at the registered class
    have hends : (registry.find (above ++ [a])).isSome := by
      rw [Option.isSome_iff_ne_none, ne_eq, find_eq_none_iff]
      exact fun hnone => hnone a (by simp) ha
    rw [List.append_cons, find_append registry' _ below, find_append registry _ below,
      find_of_notMem hget hk, Option.or_of_isSome hends, Option.or_of_isSome hends]

/-- The registrations for one class do not touch the others. -/
theorem get?_run_of_ne {before after : List (Event κ)} {e : Event κ} {k : κ}
    (he : e.registration? = some (k, converter)) {a : κ} (ha : a ≠ k) (j j' : Journal) :
    (run naming lineOf (before ++ e :: after) (initial, j)).1.get? a =
      (run naming lineOf (before ++ after) (initial, j')).1.get? a := by
  have hne : (a == k) = false := by simpa using ha
  simp [run_registry, get?, List.lookup_append, List.lookup_cons, he, hne]

/-- Histories with the same latest converters convert alike. So a registration that is followed
by another one for the same class leaves no trace, and those for different classes can change
places. -/
theorem convert_run_of_latest {events events' : List (Event κ)} {initial' : Registry κ}
    (hmeaning : initial'.meaning = initial.meaning)
    (hlatest : ∀ k converter, IsLatest (history initial' events') k converter ↔
      IsLatest (history initial events) k converter) (v : Value) (j j' : Journal) :
    (run naming lineOf events' (initial', j')).1.convert naming line v =
      (run naming lineOf events (initial, j)).1.convert naming line v := by
  have hget : (run naming lineOf events' (initial', j')).1.get? =
      (run naming lineOf events (initial, j)).1.get? := by
    refine funext fun k => Option.ext fun converter => ?_
    rw [get?_eq_some_iff, get?_eq_some_iff, reverse_entries_run, reverse_entries_run]
    exact hlatest k converter
  refine convert_congr ?_ ?_ v
  · rw [meaning_run, meaning_run, hmeaning]
  · rw [find, find, hget]

/-- A registration that is out of the way of a line has no part in what the line leads to. -/
theorem convert_run_of_apart {before after : List (Event κ)} {e : Event κ} {k : κ}
    (he : e.registration? = some (k, converter))
    (hline : k ∉ line ∨ ∃ above a below, line = above ++ a :: below ∧ k ∉ above ++ [a] ∧
      IsRegistered (history initial (before ++ after)) a) (v : Value) (j j' : Journal) :
    (run naming lineOf (before ++ e :: after) (initial, j')).1.convert naming line v =
      (run naming lineOf (before ++ after) (initial, j)).1.convert naming line v := by
  refine convert_congr ?_ ?_ v
  · rw [meaning_run, meaning_run]
  · refine find_of_apart (fun a ha => get?_run_of_ne he ha j' j) ?_
    rwa [reverse_entries_run]

/-- How a registry converts values that has a history behind it. -/
structure ConvertsBy (naming : Naming) (lineOf : Value → List κ) (initial : Registry κ)
    (events : List (Event κ)) (registry : Registry κ) : Prop where
  /-- `None` is shown as it is -/
  absent : ∀ line j, registry.convert naming line .none j = (.ok .none, j)
  /-- any other value is converted by the converter that its line leads to -/
  selected : ∀ v converter, v.isNone = false →
    Selects (history initial events) (lineOf v) converter →
    ∀ j, registry.convert naming (lineOf v) v j = initial.applied naming converter v j
  /-- the result of that converter is what is shown, and nothing is reported -/
  result : ∀ v converter w, v.isNone = false →
    Selects (history initial events) (lineOf v) converter →
    initial.meaning naming converter v = .ok w →
    ∀ j, registry.convert naming (lineOf v) v j = (.ok w, j)
  /-- if it fails the failure is reported, and the value is displayed; an interrupt goes through -/
  failure : ∀ v converter r, v.isNone = false →
    Selects (history initial events) (lineOf v) converter →
    initial.meaning naming converter v = .error r →
    ∀ j, registry.convert naming (lineOf v) v j =
      if r.isCaught then Converters.recover naming v r j else (.error r, j)
  /-- or shown as it is, if no class of its line is registered -/
  unregistered : ∀ v, (∀ k ∈ lineOf v, ¬ IsRegistered (history initial events) k) →
    ∀ j, registry.convert naming (lineOf v) v j = (.ok v, j)
  /-- a line leads to one converter or to none -/
  unique : ∀ line, (∃ converter, Selects (history initial events) line converter ∧
      ∀ other, Selects (history initial events) line other → other = converter) ∨
    ∀ k ∈ line, ¬ IsRegistered (history initial events) k
  /-- the registry would be the same without the conversions -/
  unchanged : ∀ j, (run naming lineOf (events.filter fun e => !e.isConversion) (initial, j)).1 =
    registry
  /-- and no conversion changes the registry in the journal -/
  journal : ∀ v j, (registry.convert naming (lineOf v) v j).2.converters = j.converters
  /-- only the latest converter of each class counts -/
  latest : ∀ initial' events' j', initial'.meaning = initial.meaning →
    (∀ k converter, IsLatest (history initial' events') k converter ↔
      IsLatest (history initial events) k converter) →
    ∀ v j, (run naming lineOf events' (initial', j')).1.convert naming (lineOf v) v j =
      registry.convert naming (lineOf v) v j
  /-- a registration has no part in the conversion of a value if its class is not in the line of the
  value, or comes after a registered one -/
  apart : ∀ before after e k converter, before ++ after = events →
    e.registration? = some (k, converter) →
    ∀ v, (k ∉ lineOf v ∨ ∃ above a below, lineOf v = above ++ a :: below ∧ k ∉ above ++ [a] ∧
      IsRegistered (history initial events) a) →
    ∀ j' j, (run naming lineOf (before ++ e :: after) (initial, j')).1.convert naming (lineOf v) v
      j = registry.convert naming (lineOf v) v j

/-- **The history of a registry decides how values are converted.** The conversions in between do
not count, and neither does what the journal has in it at the start. -/
theorem run_selects (naming : Naming) (lineOf : Value → List κ) (initial : Registry κ)
    (events : List (Event κ)) (j : Journal) :
    ConvertsBy naming lineOf initial events (run naming lineOf events (initial, j)).1 := by
  have hhistory : (run naming lineOf events (initial, j)).1.entries.reverse =
      history initial events := reverse_entries_run events j
  have hselected (v : Value) (converter : Converter) (hv : v.isNone = false)
      (hselects : Selects (history initial events) (lineOf v) converter) (j' : Journal) :
      (run naming lineOf events (initial, j)).1.convert naming (lineOf v) v j' =
        initial.applied naming converter v j' := by
    rw [← hhistory, ← find_eq_some_iff] at hselects
    rw [convert_of_find hv hselects, applied, applied, meaning_run]
  constructor
  · exact fun line j' => convert_none j'
  · exact hselected
  · intro v converter w hv hselects hmeaning j'
    rw [hselected v converter hv hselects, applied_of_ok hmeaning]
  · intro v converter r hv hselects hmeaning j'
    rw [hselected v converter hv hselects, applied_of_error hmeaning]
    split <;> rfl
  · intro v hline j'
    rw [← hhistory, ← find_eq_none_iff] at hline
    exact convert_of_find_none hline j'
  · intro line
    rw [← hhistory]
    simp only [← find_eq_some_iff, ← find_eq_none_iff]
    rcases (run naming lineOf events (initial, j)).1.find line with _ | converter
    · exact .inr rfl
    · exact .inl ⟨converter, rfl, fun other hother => (Option.some.inj hother).symm⟩
  · intro j'
    rw [run_registry, run_registry, registrations_filter]
  · intro v j'
    exact maintains_convert (Journal.isSteady_converters j'.converters) _ _ v j' rfl
  · intro initial' events' j' hmeaning hlatest v j''
    rw [convert_run_of_latest hmeaning hlatest]
  · intro before after e k converter hevents he v hline j' j''
    subst hevents
    rw [convert_run_of_apart he hline]

/-- In a diamond the first class of the line counts, whenever it was registered. -/
example : Registry.find (⟨[(.right, .display), (.left, .same), (.base, .length)], Converter.apply⟩ :
    Converters) KnownClass.bottom.line = some .same := rfl

end Registry

end CallLog
