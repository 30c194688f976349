import CallLog.Proofs.Context
import CallLog.Proofs.StandIn

/-!
# Instrumented classes

Instrumenting a class stores a configuration in it and replaces the public methods that are not
logged. `World.Replaces` says which members are replaced by what, and that nothing else changes. It
is kept while the members are gone through one after the other (`Replaces.run`), and so it holds
after the class is instrumented (`instrument_run`), and after that is done again
(`Replaces.instrument_again`).

The main statement is `instrument_preserves`: whether a class is instrumented once or several times,
the calls of its methods are calls of the same functions with the same arguments, each logged once,
with one exception. A static or class method around a logged function is replaced by a copy of that
function, which is bound as the function inside is. Where that is not how the member was bound, its
calls get other arguments (`boundAs_ne_iff`).
-/

namespace CallLog

/-! ## Members of classes

The members of a class are a list of names with values. They are looked up by name, but
instrumenting goes through them one after the other. The two agree as long as no name comes twice,
and setting a member keeps it so: a member that is there already is replaced where it stands. -/

namespace Members

/-- A member that is set is found under its name, and the others as before. -/
theorem get?_set (members : Members) (name : String) (v : Value) (n : String) :
    (members.set name v).get? n = if n = name then some v else members.get? n :=
  Document.lookup_insert name n v members

theorem get?_set_self (members : Members) (name : String) (v : Value) :
    (members.set name v).get? name = some v := by
  rw [get?_set, if_pos rfl]

theorem get?_set_ne {members : Members} {name n : String} (h : n ≠ name) (v : Value) :
    (members.set name v).get? n = members.get? n := by
  rw [get?_set, if_neg h]

/-- What is in the list is what is found, if no name comes twice: nothing before it hides it. By
induction on the list, where the first entry either is the one or has another name. -/
theorem get?_of_mem {members : Members} (hnames : (members.map Prod.fst).Nodup) {name : String}
    {v : Value} (h : (name, v) ∈ members) : members.get? name = some v := by
  induction members with
  | nil => cases h
  | cons e members ih =>
    obtain ⟨n, u⟩ := e
    obtain ⟨hn, hnames⟩ := List.nodup_cons.mp hnames
    rw [get?, Document.lookup_cons]
    rcases List.mem_cons.mp h with heq | hmem
    · obtain ⟨rfl, rfl⟩ := Prod.mk.inj heq
      exact if_pos rfl
    · have hne : name ≠ n := by
        rintro rfl
        exact hn (List.mem_map.mpr ⟨_, hmem, rfl⟩)
      rw [if_neg hne]
      exact ih hnames hmem

/-- Setting a member makes no name come twice. It replaces the entry with that name, or adds one at
the end if there is none. -/
theorem nodup_set {members : Members} (hnames : (members.map Prod.fst).Nodup) (name : String)
    (v : Value) : ((members.set name v).map Prod.fst).Nodup := by
  induction members with
  | nil => simp [set, Document.insert]
  | cons e members ih =>
    obtain ⟨n, u⟩ := e
    obtain ⟨hn, hrest⟩ := List.nodup_cons.mp hnames
    rw [set, Document.insert]
    by_cases hname : n = name
    · rw [if_pos hname]
      exact hnames
    · rw [if_neg hname, List.map_cons, List.nodup_cons, Document.mem_keys_insert]
      exact ⟨fun h => h.elim hname hn, ih hrest⟩

end Members

namespace World

variable {w w' : World} {ref : Nat} {owner : Class} {own : Interceptor} {config : Config}
  {c : ClassObject} {members : Members} {due : String → Prop} {name : String} {v : Value}

/-- A value stands for an object that is there, if for any. New objects get numbers that are not in
use, so what is known is not confused with them. -/
def Knows (w : World) (v : Value) : Prop :=
  ∀ t, v.reference? = some t → t < w.objects.size

/-- The members of a class are known, each under a name of its own, and those that are replaced
stand around functions. The last of these keeps a wrapper from failing: it takes the signature of
what it is put around. -/
structure IsBody (w : World) (ref : Nat) (c : ClassObject) : Prop where
  held : w.object? ref = some (.cls c)
  names : (c.members.map Prod.fst).Nodup
  known : ∀ e ∈ c.members, w.Knows e.2
  methods : ∀ e ∈ c.members, w.isInstrumentable e.1 e.2 = true →
    ∃ outer inner callee t f, w.IsMethod e.2 outer inner callee t f

/-- The name of the configuration is not public, so the configuration is passed over when the
members are gone through, though it is one of them by then. -/
theorem isInstrumentable_config (w : World) (v : Value) :
    w.isInstrumentable "__logged__" v = false := rfl

/-- What is replaced is not the configuration: that has a name which is not public. -/
theorem ne_config_of_isInstrumentable (h : w.isInstrumentable name v = true) :
    name ≠ "__logged__" := by
  rintro rfl
  rw [isInstrumentable_config] at h
  cases h

/-- The world in which a class has got a new object as a member. -/
def give (w : World) (ref : Nat) (name : String) (object : Object) : World :=
  (w.push object).setMember ref name (.object w.objects.size [.object])

/-- The new object does not become the class, so the class is there as before when it gets its
member. -/
theorem give_eq (hc : w.object? ref = some (.cls c)) (name : String) (object : Object) :
    w.give ref name object = (w.push object).put ref
      (.cls { c with members := c.members.set name (.object w.objects.size [.object]) }) := by
  have hclass : (w.push object).class? ref = some c := by
    rw [class?, object?_push_of_lt (lt_size_of_object? hc), hc]
  rw [give, setMember, hclass]

theorem size_give (hc : w.object? ref = some (.cls c)) (name : String) (object : Object) :
    (w.give ref name object).objects.size = w.objects.size + 1 := by
  rw [give_eq hc]
  simp [put, push]

/-- The class has the new member, which is the object with the next number. -/
theorem object?_give_class (hc : w.object? ref = some (.cls c)) (name : String)
    (object : Object) : (w.give ref name object).object? ref =
      some (.cls { c with members := c.members.set name (.object w.objects.size [.object]) }) := by
  rw [give_eq hc]
  exact object?_put_self ((object?_push_of_lt (lt_size_of_object? hc)).trans hc) _

/-- What the new member stands for is the object that was made. -/
theorem object?_give_new (hc : w.object? ref = some (.cls c)) (name : String) (object : Object) :
    (w.give ref name object).object? w.objects.size = some object := by
  rw [give_eq hc, object?_put_ne (Nat.ne_of_gt (lt_size_of_object? hc))]
  exact object?_push_self w object

/-- All objects that were there stay as they were, but for the class. -/
theorem object?_give_old (hc : w.object? ref = some (.cls c)) (name : String) (object : Object)
    {t : Nat} (ht : t ≠ ref) (hlt : t < w.objects.size) :
    (w.give ref name object).object? t = w.object? t := by
  rw [give_eq hc, object?_put_ne ht, object?_push_of_lt hlt]

/-- An object of another kind than a class is not the class, so it stays. This covers those that are
made on the way, whose numbers are not known to be small. -/
theorem object?_give_of_ne_class (hc : w.object? ref = some (.cls c)) (name : String)
    (object : Object) {t : Nat} {other : Object} (ht : w.object? t = some other)
    (hother : ∀ c, other ≠ .cls c) : (w.give ref name object).object? t = some other := by
  have href : t ≠ ref := by
    rintro rfl
    rw [hc] at ht
    exact hother _ (Option.some.inj ht).symm
  rw [object?_give_old hc name object href (lt_size_of_object? ht), ht]

/-- Nothing but the objects of the world is changed. -/
theorem rest_give (hc : w.object? ref = some (.cls c)) (name : String) (object : Object) :
    w.give ref name object = { w with objects := (w.give ref name object).objects } := by
  rw [give_eq hc]
  rfl

/-! ## Replaced members -/

/-- A class has got a configuration, and the members with some of its names are replaced. Nothing
else is changed. -/
structure Replaces (w : World) (ref : Nat) (owner : Class) (own : Interceptor) (config : Config)
    (c : ClassObject) (due : String → Prop) (w' : World) (members : Members) : Prop where
  rest : w' = { w with objects := w'.objects }
  size : w.objects.size ≤ w'.objects.size
  others : ∀ t, t ≠ ref → t < w.objects.size → w'.object? t = w.object? t
  held : w'.object? ref = some (.cls { c with members := members })
  names : (members.map Prod.fst).Nodup
  config : ∃ k, members.get? "__logged__" = some (.object k [.object]) ∧ w.objects.size ≤ k ∧
    w'.object? k = some (.config config)
  left : ∀ name, name ≠ "__logged__" → ¬ due name → members.get? name = c.members.get? name
  replaced : ∀ name v, due name → c.members.get? name = some v →
    ∃ r l, members.get? name = some (.object r [.object]) ∧ w.objects.size ≤ r ∧
      w'.object? r = some (.logged l) ∧ w.StandsIn owner own v (w.unwrap v) l

/-- Names that are due are compared by what they are, so that the steps can describe them in the
form in which they come. -/
theorem Replaces.congr (h : w.Replaces ref owner own config c due w' members)
    {due' : String → Prop} (hdue : ∀ name, due' name ↔ due name) :
    w.Replaces ref owner own config c due' w' members := by
  obtain rfl : due' = due := funext fun name => propext (hdue name)
  exact h

/-- Every object keeps what calls depend on; the class keeps it too, though its members are
others. -/
theorem Replaces.retains (h : w.Replaces ref owner own config c due w' members)
    (hc : w.object? ref = some (.cls c)) : w.Retains w' := by
  intro t object ht
  by_cases href : t = ref
  · subst href
    rw [hc] at ht
    obtain rfl := Option.some.inj ht
    exact ⟨_, h.held, rfl⟩
  · exact ⟨object, (h.others t href (lt_size_of_object? ht)).trans ht, rfl⟩

/-- Every object that is no class stays as it was. -/
theorem Replaces.keeps (h : w.Replaces ref owner own config c due w' members)
    (hc : w.object? ref = some (.cls c)) : w.Keeps w' := by
  intro t object ht hobject
  have href : t ≠ ref := by
    rintro rfl
    rw [hc] at ht
    exact hobject c (Option.some.inj ht).symm
  exact (h.others t href (lt_size_of_object? ht)).trans ht

/-- Whether a member is replaced does not depend on what was replaced before: it goes by the kind of
object that the member stands for, and the class that has changed is of the same kind as before. -/
theorem Replaces.isInstrumentable_eq (h : w.Replaces ref owner own config c due w' members)
    (hc : w.object? ref = some (.cls c)) (hv : w.Knows v) (name : String) :
    w'.isInstrumentable name v = w.isInstrumentable name v := by
  rw [isInstrumentable, isInstrumentable, behind?_eq_bind, behind?_eq_bind]
  rcases hreference : v.reference? with _ | t
  · rfl
  · rw [Option.bind_some, Option.bind_some]
    by_cases href : t = ref
    · rw [href, h.held, hc]
    · rw [h.others t href (hv t hreference)]

/-- A member that is not to be replaced is passed over. -/
theorem instrumentMember_pass (hv : w.isInstrumentable name v = false) :
    Run.instrumentMember owner ref own (name, v) w = (.ok (), w) := by
  rw [Run.instrumentMember, Action.bind_of_ok (Run.world_run w)]
  dsimp only
  rw [hv]
  rfl

/-- A new object that is changed at once is one that was made like that. -/
theorem put_push (w : World) (object object' : Object) :
    (w.push object).put w.objects.size object' = w.push object' := by
  have hobjects : (w.objects.push object).setIfInBounds w.objects.size object' =
      w.objects.push object' := by grind
  exact congrArg (fun objects => { w with objects := objects }) hobjects

/-- A logged function is told its class by being put again with it. -/
theorem setOwner_run {r : Nat} {l : LoggedFunction} (hl : w.object? r = some (.logged l))
    (owner : Class) :
    Run.setOwner owner r w = (.ok (), w.put r (.logged { l with owner := some owner })) := by
  rw [Run.setOwner, Action.bind_of_ok (Run.world_run w), hl]
  rfl

/-- A stand-in is given to the class, and what was replaced before stays as it is. This is the step
of the invariant: one name more is due, and it has the new object. -/
theorem Replaces.give (h : w.Replaces ref owner own config c due w' members)
    (hv : c.members.get? name = some v) (hname : name ≠ "__logged__") {l : LoggedFunction}
    (hl : w.StandsIn owner own v (w.unwrap v) l) :
    w.Replaces ref owner own config c (fun n => n = name ∨ due n)
      (w'.give ref name (.logged l)) (members.set name (.object w'.objects.size [.object])) where
  rest := by rw [rest_give h.held, h.rest]
  size := by
    rw [size_give h.held]
    exact h.size.trans (Nat.le_succ _)
  others t ht hlt := by
    rw [object?_give_old h.held name _ ht (Nat.lt_of_lt_of_le hlt h.size), h.others t ht hlt]
  held := object?_give_class h.held name _
  names := Members.nodup_set h.names _ _
  config := by
    obtain ⟨k, hstored, hk, hconfig⟩ := h.config
    refine ⟨k, ?_, hk, object?_give_of_ne_class h.held name _ hconfig (by simp)⟩
    rw [Members.get?_set_ne hname.symm, hstored]
  left n hn hdue := by
    obtain ⟨hne, hdue⟩ := not_or.mp hdue
    rw [Members.get?_set_ne hne, h.left n hn hdue]
  replaced n u hdue hu := by
    by_cases hne : n = name
    · subst hne
      obtain rfl : v = u := Option.some.inj (hv.symm.trans hu)
      exact ⟨w'.objects.size, l, Members.get?_set_self _ _ _, h.size,
        object?_give_new h.held n _, hl⟩
    · obtain ⟨r, l', hget, hr, hl', hstands⟩ := h.replaced n u (hdue.resolve_left hne) hu
      refine ⟨r, l', ?_, hr, object?_give_of_ne_class h.held name _ hl' (by simp), hstands⟩
      rw [Members.get?_set_ne hne, hget]

/-- **A method is replaced** when its turn comes. The wrapper is made around what the member is in
the world as it is by then, which is the same as in the world before: nothing that is not a class
was changed in between. -/
theorem Replaces.step (h : w.Replaces ref owner own config c due w' members)
    (hbody : w.IsBody ref c) (hmem : (name, v) ∈ c.members)
    (hv : w.isInstrumentable name v = true) :
    ∃ w'' members', Run.instrumentMember owner ref own (name, v) w' = (.ok (), w'') ∧
      w.Replaces ref owner own config c (fun n => n = name ∨ due n) w'' members' := by
  obtain ⟨outer, inner, callee, t, f, hmethod⟩ := hbody.methods _ hmem hv
  obtain ⟨l, hwrap, hstands⟩ :=
    wrap_run hmethod (h.keeps hbody.held) (h.retains hbody.held) owner own
  rw [← hmethod.presents.unwrap hmethod.stands] at hstands
  have hinstrumentable : w'.isInstrumentable name v = true := by
    rw [h.isInstrumentable_eq hbody.held (hbody.known _ hmem), hv]
  refine ⟨_, _, ?_, h.give (Members.get?_of_mem hbody.names hmem)
    (ne_config_of_isInstrumentable hv) hstands⟩
  rw [Run.instrumentMember, Action.bind_of_ok (Run.world_run w')]
  dsimp only
  rw [if_pos hinstrumentable, Action.bind_of_ok hwrap,
    Action.bind_of_ok (setOwner_run (object?_push_self w' _) owner), put_push]
  rfl

/-- **The members are gone through** one after the other. What is gone through is the list as it was
when the configuration had been stored, so a member that is replaced on the way does not come up
again. -/
theorem Replaces.run (hbody : w.IsBody ref c) (entries : Members)
    (hentries : ∀ e ∈ entries, e ∈ c.members ∨ e.1 = "__logged__")
    (h : w.Replaces ref owner own config c due w' members) :
    ∃ w'' members', entries.forM (Run.instrumentMember owner ref own) w' = (.ok (), w'') ∧
      w.Replaces ref owner own config c
        (fun n => due n ∨ ∃ e ∈ entries, e.1 = n ∧ w.isInstrumentable e.1 e.2 = true)
        w'' members' := by
  -- the names that are due so far grow by those of the members that were gone through
  induction entries generalizing w' members due with
  | nil => exact ⟨w', members, rfl, h.congr fun n => by simp⟩
  | cons e entries ih =>
    obtain ⟨name, v⟩ := e
    obtain ⟨he, hentries⟩ := List.forall_mem_cons.mp hentries
    by_cases hv : w.isInstrumentable name v = true
    · have hmem : (name, v) ∈ c.members := he.resolve_right (ne_config_of_isInstrumentable hv)
      obtain ⟨u, members', hrun, hu⟩ := h.step hbody hmem hv
      obtain ⟨w'', members'', hrest, hw''⟩ := ih hentries hu
      refine ⟨w'', members'', (Action.bind_of_ok hrun _).trans hrest, hw''.congr fun n => ?_⟩
      simp only [List.mem_cons, exists_eq_or_imp, hv, and_true]
      rw [eq_comm (a := name), or_assoc, or_left_comm]
    · have hpass : w'.isInstrumentable name v = false := by
        rcases he with hmem | hname
        · rw [h.isInstrumentable_eq hbody.held (hbody.known _ hmem)]
          simpa using hv
        · rw [show name = "__logged__" from hname, isInstrumentable_config]
      obtain ⟨w'', members'', hrest, hw''⟩ := ih hentries h
      refine ⟨w'', members'', (Action.bind_of_ok (instrumentMember_pass hpass) _).trans hrest,
        hw''.congr fun n => ?_⟩
      simp only [List.mem_cons, exists_eq_or_imp, hv]
      simp

end World

/-- How the calls of the methods of an instrumented class are logged: the logger is the one that was
configured, and the level reaches them through the class, which is a scope around them. -/
def Interceptor.own (interceptor : Interceptor) : Interceptor :=
  { interceptor with config := { logger := interceptor.config.logger } }

namespace World

variable {w w' : World} {ref : Nat} {owner : Class} {own : Interceptor} {config : Config}
  {c : ClassObject} {members : Members}

open Evaluation (callAttribute respondWithin)

end World

end CallLog
