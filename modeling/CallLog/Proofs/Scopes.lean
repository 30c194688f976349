import CallLog.Proofs.Instrument
import CallLog.Proofs.LogPoint.Explicit
import CallLog.Proofs.LogPoint.Generated
import CallLog.Proofs.Plan.Visible

/-!
# Scopes around methods

A qualified name is followed through the module, one name after the other. `World.LeadsThrough` says
which classes it leads through, and `World.BreaksOff` that it leads nowhere; they are what
`World.classesAlong` finds. So the scopes around a method are known: the classes on the way, from
the owner outward, or the owner alone, and the module after them.

The main statement is `scopes_inherited`. The level of a method is the first that is configured on
the way outward, and its logger is that of the outermost class. What classes elsewhere are
configured to has no influence (`AgreesOn.scopesOf_eq`).
-/

namespace CallLog

/-! ## Dotted names

A qualified name is a text with dots, and the scopes are found by its parts. Mathlib splits and
joins lists of characters, so the parts are reduced to that: a text is the only one that its parts
are joined from, and no part holds a dot. -/

namespace World

/-- The parts of a text are what splitting its characters at dots gives; `part` is what was read
since the last dot, in reverse. -/
theorem split_eq (part cs : List Char) :
    components.split part cs = cs.splitOnPPrepend (· == '.') part := by
  induction cs generalizing part with
  | nil => rfl
  | cons c cs ih =>
    rw [components.split, List.splitOnPPrepend, ih, ih]
    simp only [beq_iff_eq]

/-- No part of a text between dots holds a dot. -/
theorem dot_notMem_split {part cs : List Char} (hpart : '.' ∉ part) :
    ∀ p ∈ components.split part cs, '.' ∉ p := by
  induction cs generalizing part with
  | nil => simpa [components.split] using hpart
  | cons c cs ih =>
    rw [components.split]
    split
    · refine List.forall_mem_cons.mpr ⟨by simpa using hpart, ih List.not_mem_nil⟩
    · rename_i hc
      exact ih (by simpa [eq_comm] using ⟨hc, hpart⟩)

/-- **The names of a dotted name** are those that it is joined from. There is at least one of them,
since the empty text has one part, which is empty. -/
theorem components_eq_iff {name : String} {names : List String} :
    components name = names ↔
      names ≠ [] ∧ (∀ n ∈ names, '.' ∉ n.toList) ∧ name = ".".intercalate names := by
  have hsplit : components.split [] name.toList = name.toList.splitOn '.' := split_eq [] _
  rw [components]
  constructor
  · rintro rfl
    refine ⟨by simp [hsplit], ?_, ?_⟩
    · rw [List.forall_mem_map]
      intro part hpart
      rw [String.toList_ofList]
      exact dot_notMem_split List.not_mem_nil part hpart
    · -- on lists of characters this is what splitting and joining at dots is
      have hparts : String.toList ∘ String.ofList = id := funext fun _ => String.toList_ofList
      rw [← String.toList_inj, String.toList_intercalate, List.map_map, hparts, List.map_id, hsplit]
      exact (List.intercalate_splitOn '.').symm
  · rintro ⟨hne, hdots, rfl⟩
    have hparts : ∀ part ∈ names.map String.toList, '.' ∉ part := List.forall_mem_map.mpr hdots
    have hnames : String.ofList ∘ String.toList = id := funext fun _ => String.ofList_toList
    rw [split_eq, String.toList_intercalate]
    change (List.splitOn '.' (['.'].intercalate (names.map String.toList))).map String.ofList =
      names
    rw [List.splitOn_intercalate '.' hparts (by simpa using hne), List.map_map, hnames, List.map_id]

/-! ## Paths through classes

The classes on the way are found by looking up one name after the other, each in the class that the
name before has led to. The search ends with nothing at the first name that is missing, or is not
the name of a class. Both outcomes are relations here, so that what depends on them is proved by
induction on the path, and not by following the search again. -/

variable {w w' : World} {v : Value} {names : List String} {cs path : List Class}

/-- The classes that a path of names leads through, the outermost first. -/
inductive LeadsThrough (w : World) : Value → List String → List Class → Prop where
  | arrived (v : Value) : LeadsThrough w v [] []
  | step {v : Value} {name : String} {names : List String} {c : Class} {cs : List Class}
      (hc : w.classAt? v name = some c) (h : LeadsThrough w (.type (.cls c)) names cs) :
      LeadsThrough w v (name :: names) (c :: cs)

/-- A name on a path leads to no class. -/
inductive BreaksOff (w : World) : Value → List String → Prop where
  | here {v : Value} {name : String} {names : List String} (h : w.classAt? v name = none) :
      BreaksOff w v (name :: names)
  | later {v : Value} {name : String} {names : List String} {c : Class}
      (hc : w.classAt? v name = some c) (h : BreaksOff w (.type (.cls c)) names) :
      BreaksOff w v (name :: names)

/-- The search finds the classes that the path leads through, and only these. -/
theorem classesAlong_eq_some_iff :
    w.classesAlong v names = some cs ↔ w.LeadsThrough v names cs := by
  constructor
  · intro h
    induction names generalizing v cs with
    | nil =>
      obtain rfl := Option.some.inj h
      exact .arrived v
    | cons name names ih =>
      rw [classesAlong] at h
      rcases hc : w.classAt? v name with _ | c
      · rw [hc] at h
        cases h
      · rw [hc] at h
        obtain ⟨rest, hrest, rfl⟩ := Option.map_eq_some_iff.mp h
        exact .step hc (ih hrest)
  · intro h
    induction h with
    | arrived v => rfl
    | step hc _ ih =>
      rw [classesAlong, hc]
      exact Option.map_eq_some_iff.mpr ⟨_, ih, rfl⟩

/-- The search finds nothing exactly if the path breaks off. Together with the other case every path
does one or the other. -/
theorem classesAlong_eq_none_iff :
    w.classesAlong v names = none ↔ w.BreaksOff v names := by
  constructor
  · intro h
    induction names generalizing v with
    | nil => cases h
    | cons name names ih =>
      rw [classesAlong] at h
      rcases hc : w.classAt? v name with _ | c
      · exact .here hc
      · rw [hc] at h
        exact .later hc (ih (Option.map_eq_none_iff.mp h))
  · intro h
    induction h with
    | here h => rw [classesAlong, h]
    | later hc _ ih =>
      rw [classesAlong, hc]
      exact Option.map_eq_none_iff.mpr ih

/-! ## The scopes

What a configuration is looked for in: the classes from the owner outward, then the module. That a
class is an ancestor of the owner does not make it one of them, whatever is configured there. -/

/-- The configuration of a class. -/
def configOf (w : World) (c : Class) : Option Config :=
  w.configAmong (w.ownMembers c)

/-- The configuration of a module, if there is a module of that name. -/
def moduleConfig (w : World) (moduleName : String) : Option Config :=
  (w.registeredModule? (.str moduleName)).bind fun m => w.configAmong (w.membersOf m)

/-- The scopes inside a module of the classes on a path, the innermost first. -/
def scopesOf (w : World) (path : List Class) (moduleName : String) : List Scope :=
  path.reverse.map w.classScope ++ [⟨moduleName, .module, w.moduleConfig moduleName⟩]

/-- The configurations on the way outward from a callable with one of its own. -/
def configsAround (w : World) (config : Config) (path : List Class) (moduleName : String) :
    List Config :=
  config :: (path.reverse.filterMap w.configOf ++ (w.moduleConfig moduleName).toList)

variable {owner : Class} {moduleName : String}

/-- Where the path of the owner is followed, the scopes are those of the classes on it. The last of
them is where the path has arrived, which need not be the owner: the name may be bound to another
class by now. The owner takes its place. -/
theorem scopeChain_of_leadsThrough
    (hmodule : w.moduleLabel (.type (.cls owner)) = .str moduleName)
    (hnames : components (w.qualnameText (.type (.cls owner))) = names) {home : Nat}
    (hhome : w.registered.lookup moduleName = some home) (hlocals : "<locals>" ∉ names)
    {outer : List Class} {found : Class}
    (h : w.LeadsThrough (.object home [.object]) names (outer ++ [found])) (target : Value) :
    w.scopeChain target (some owner) = .ok (w.scopesOf (outer ++ [owner]) moduleName) := by
  have hne : names ≠ [] := (components_eq_iff.mp hnames).1
  have hregistered : w.registeredModule? (.str moduleName) = some (.object home [.object]) := by
    rw [registeredModule?, hhome]
    rfl
  have henclosing : w.enclosing (some (.object home [.object])) names (some owner) =
      owner :: outer.reverse := by
    unfold enclosing
    dsimp only
    rw [if_neg (by simp [hne, hlocals]), classesAlong_eq_some_iff.mpr h]
    simp
  rw [scopeChain, Option.map_some, Option.getD_some, hmodule, hnames, hregistered]
  simp only [henclosing]
  rw [scopesOf, List.reverse_append, moduleConfig, hregistered]
  rfl

/-- Where the path of the owner is not followed, the owner is the only class. That is so where its
module is unknown, where it was made inside a function, and where the path breaks off. -/
theorem scopeChain_of_not_followed
    (hmodule : w.moduleLabel (.type (.cls owner)) = .str moduleName)
    (hnames : components (w.qualnameText (.type (.cls owner))) = names)
    (h : ∀ home, w.registered.lookup moduleName = some home →
      "<locals>" ∈ names ∨ w.BreaksOff (.object home [.object]) names) (target : Value) :
    w.scopeChain target (some owner) = .ok (w.scopesOf [owner] moduleName) := by
  have henclosing : w.enclosing (w.registeredModule? (.str moduleName)) names (some owner) =
      [owner] := by
    rw [registeredModule?]
    rcases hhome : w.registered.lookup moduleName with _ | home
    · rfl
    · unfold enclosing
      dsimp only [Option.map_some]
      rcases h home hhome with hlocals | hbreaks
      · rw [if_pos (by simp [hlocals])]
        rfl
      · rw [classesAlong_eq_none_iff.mpr hbreaks]
        exact ite_self _
  rw [scopeChain, Option.map_some, Option.getD_some, hmodule, hnames]
  simp only [henclosing]
  rfl

/-! ## Configurations elsewhere

Two worlds that differ in the configurations of classes off the path have the same scopes along it.
A configuration is a member under a name of its own, so a class that gets another one still has the
same labels, the same ancestors and the same members under all other names; on the path it is the
same class. Every operation that the scopes are computed with reads nothing else, and there is one
lemma for each of them, after those for what it calls. -/

/-- Two worlds are alike but for the configurations of classes that are not on a path. -/
structure AgreesOn (w : World) (path : List Class) (w' : World) : Prop where
  registered : w'.registered = w.registered
  objects : ∀ t, w'.object? t = w.object? t ∨ ∃ c members,
    w.object? t = some (.cls c) ∧ w'.object? t = some (.cls { c with members := members }) ∧
      (∀ name, name ≠ "__logged__" → members.get? name = c.members.get? name) ∧
      ∀ ancestors, .made t ancestors ∉ path

/-- A class that is not on the path can be configured anew. -/
theorem agreesOn_setMember {ref : Nat} (hpath : ∀ ancestors, .made ref ancestors ∉ path)
    (v : Value) : w.AgreesOn path (w.setMember ref "__logged__" v) := by
  rcases hc : w.class? ref with _ | c
  · rw [setMember, hc]
    exact ⟨rfl, fun t => .inl rfl⟩
  · rw [setMember, hc]
    refine ⟨rfl, fun t => ?_⟩
    by_cases ht : t = ref
    · subst ht
      have hobject : w.object? t = some (.cls c) := by
        rw [class?] at hc
        split at hc
        · rename_i d hd
          rw [hd, Option.some.inj hc]
        · cases hc
      exact .inr ⟨c, _, hobject, object?_put_self hobject _,
        fun name hname => Members.get?_set_ne hname v, hpath⟩
    · exact .inl (object?_put_ne ht _ w)

namespace AgreesOn

/-- A class is the same in both worlds, or it is off the path and only its configuration differs. -/
theorem class? (h : w.AgreesOn path w') (t : Nat) :
    w'.class? t = w.class? t ∨ ∃ c members, w.class? t = some c ∧
      w'.class? t = some { c with members := members } ∧
      (∀ name, name ≠ "__logged__" → members.get? name = c.members.get? name) ∧
      ∀ ancestors, .made t ancestors ∉ path := by
  rcases h.objects t with heq | ⟨c, members, hc, hc', hrest⟩
  · exact .inl (by rw [World.class?, World.class?, heq])
  · exact .inr ⟨c, members, by rw [World.class?, hc], by rw [World.class?, hc'], hrest⟩

/-- What is behind a value is the same in both worlds, unless it is a class. What the two classes
differ in does not matter to those who call this: they only ask what kind of object there is. -/
theorem behind? (h : w.AgreesOn path w') (v : Value) :
    w'.behind? v = w.behind? v ∨
      ∃ c members, w.behind? v = some (.cls c) ∧ w'.behind? v = some (.cls { c with members }) := by
  rw [behind?_eq_bind, behind?_eq_bind]
  rcases v.reference? with _ | t
  · exact .inl rfl
  · rw [Option.bind_some, Option.bind_some]
    rcases h.objects t with heq | ⟨c, members, hc, hc', -⟩
    · exact .inl heq
    · exact .inr ⟨c, members, hc, hc'⟩

/-- Labels are fields of a class of their own, not members of it. -/
theorem classLabel (h : w.AgreesOn path w') (c : Class) (label : Label) :
    w'.classLabel c label = w.classLabel c label := by
  cases c with
  | known k => rfl
  | made ref ancestors =>
    rw [World.classLabel, World.classLabel]
    rcases h.class? ref with heq | ⟨c, members, hc, hc', -⟩
    · rw [heq]
    · rw [hc, hc']

/-- The ancestors of a class do not depend on its members. -/
theorem lineOf (h : w.AgreesOn path w') (c : Class) : w'.lineOf c = w.lineOf c := by
  cases c with
  | known k => rfl
  | made ref ancestors =>
    rw [World.lineOf, World.lineOf]
    rcases h.class? ref with heq | ⟨c, members, hc, hc', -⟩
    · rw [heq]
    · rw [hc, hc']

/-- Under any other name than that of the configuration, a class has the same member, be it on the
path or not. This is what following a path of names needs. -/
theorem get?_ownMembers (h : w.AgreesOn path w') (c : Class) {name : String}
    (hname : name ≠ "__logged__") :
    (w'.ownMembers c).get? name = (w.ownMembers c).get? name := by
  cases c with
  | known k => cases k <;> rfl
  | made ref ancestors =>
    rw [ownMembers, ownMembers]
    rcases h.class? ref with heq | ⟨c, members, hc, hc', hmembers, -⟩
    · rw [heq]
    · rw [hc, hc']
      exact hmembers name hname

/-- A class on the path has all its members, the configuration included. This is what reading the
configurations along the path needs. -/
theorem ownMembers (h : w.AgreesOn path w') {c : Class} (hc : c ∈ path) :
    w'.ownMembers c = w.ownMembers c := by
  cases c with
  | known k => cases k <;> rfl
  | made ref ancestors =>
    rw [World.ownMembers, World.ownMembers]
    rcases h.class? ref with heq | ⟨_, _, _, _, _, hpath⟩
    · rw [heq]
    · exact absurd hc (hpath ancestors)

/-- What a class has or inherits under another name than that of the configuration. -/
theorem classGet? (h : w.AgreesOn path w') (c : Class) {name : String}
    (hname : name ≠ "__logged__") : w'.classGet? c name = w.classGet? c name := by
  rw [World.classGet?, World.classGet?, h.lineOf]
  exact congrArg (List.findSome? · _) (funext fun d => h.get?_ownMembers d hname)

/-- Modules are not classes, so they are the same in both worlds. -/
theorem moduleMembers (h : w.AgreesOn path w') (ref : Nat) :
    w'.moduleMembers ref = w.moduleMembers ref := by
  rw [World.moduleMembers, World.moduleMembers]
  rcases h.objects ref with heq | ⟨c, members, hc, hc', -⟩
  · rw [heq]
  · rw [hc, hc']

/-- What an object is an instance of is noted at the object, which is the same in both worlds. -/
theorem instanceClass? (h : w.AgreesOn path w') (v : Value) :
    w'.instanceClass? v = w.instanceClass? v := by
  unfold World.instanceClass?
  split
  · rfl
  · rcases h.behind? v with heq | ⟨c, members, hc, hc'⟩
    · rw [heq]
    · rw [hc, hc']

/-- An attribute is looked up in classes and modules, under a name that no configuration has. -/
theorem rawGet? (h : w.AgreesOn path w') (v : Value) {name : String}
    (hname : name ≠ "__logged__") : w'.rawGet? v name = w.rawGet? v name := by
  unfold World.rawGet?
  simp only [h.classGet? _ hname, h.instanceClass?, moduleGet?, h.moduleMembers]
  rcases h.behind? v with heq | ⟨c, members, hc, hc'⟩
  · rw [heq]
  · rw [hc, hc']
    cases v <;> rfl

theorem isStatic (h : w.AgreesOn path w') (v : Value) : w'.isStatic v = w.isStatic v := by
  rw [World.isStatic, World.isStatic]
  rcases h.behind? v with heq | ⟨c, members, hc, hc'⟩
  · rw [heq]
  · rw [hc, hc']

/-- What a value is wrapped around is noted at the wrapper, which is no class. -/
theorem unwrap (h : w.AgreesOn path w') (v : Value) : w'.unwrap v = w.unwrap v := by
  rw [World.unwrap, World.unwrap]
  rcases h.behind? v with heq | ⟨c, members, hc, hc'⟩
  · rw [heq]
  · rw [hc, hc']

/-- One step on a path leads to the same class in both worlds. -/
theorem classAt? (h : w.AgreesOn path w') (v : Value) {name : String}
    (hname : name ≠ "__logged__") : w'.classAt? v name = w.classAt? v name := by
  rw [World.classAt?, World.classAt?, h.rawGet? v hname]
  simp only [h.isStatic, h.unwrap]

/-- The configuration among some members is the object that one of them stands for. It is no class,
so it is the same in both worlds; the members are given here, and may be those of either. -/
theorem configAmong (h : w.AgreesOn path w') (members : Members) :
    w'.configAmong members = w.configAmong members := by
  rw [World.configAmong, World.configAmong]
  rcases members.get? "__logged__" with _ | v
  · rfl
  · dsimp only
    rcases h.behind? v with heq | ⟨c, _, hc, hc'⟩
    · rw [heq]
    · rw [hc, hc']

theorem membersOf (h : w.AgreesOn path w') (v : Value) : w'.membersOf v = w.membersOf v := by
  rw [World.membersOf, World.membersOf]
  rcases h.behind? v with heq | ⟨c, members, hc, hc'⟩
  · rw [heq]
  · rw [hc, hc']

/-- A path that leads through some classes does so in the other world, if none of its names is that
of the configuration. A class of that name is lost when what it is a member of is configured. -/
theorem leadsThrough (h : w.AgreesOn path w') (hnames : "__logged__" ∉ names)
    (hpath : w.LeadsThrough v names cs) : w'.LeadsThrough v names cs := by
  induction hpath with
  | arrived v => exact .arrived v
  | step hc _ ih =>
    obtain ⟨hname, hnames⟩ := not_or.mp (List.mem_cons.not.mp hnames)
    exact .step ((h.classAt? _ (Ne.symm hname)).trans hc) (ih hnames)

/-- A path that breaks off does so in the other world, since each step on it is the same. -/
theorem breaksOff (h : w.AgreesOn path w') (hnames : "__logged__" ∉ names)
    (hpath : w.BreaksOff v names) : w'.BreaksOff v names := by
  induction hpath with
  | here hc =>
    obtain ⟨hname, -⟩ := not_or.mp (List.mem_cons.not.mp hnames)
    exact .here ((h.classAt? _ (Ne.symm hname)).trans hc)
  | later hc _ ih =>
    obtain ⟨hname, hnames⟩ := not_or.mp (List.mem_cons.not.mp hnames)
    exact .later ((h.classAt? _ (Ne.symm hname)).trans hc) (ih hnames)

/-- **What classes elsewhere are configured to has no influence** on the scopes of a path: these are
made of the labels and the configurations of the classes on the path and of the module. -/
theorem scopesOf_eq (h : w.AgreesOn path w') (moduleName : String) :
    w'.scopesOf path moduleName = w.scopesOf path moduleName := by
  have hclasses : path.reverse.map w'.classScope = path.reverse.map w.classScope := by
    refine List.map_congr_left fun c hc => ?_
    simp only [classScope, dottedName, h.classLabel, h.configAmong,
      h.ownMembers (List.mem_reverse.mp hc)]
  have hmodule : w'.moduleConfig moduleName = w.moduleConfig moduleName := by
    simp only [moduleConfig, registeredModule?, h.registered, h.membersOf, h.configAmong]
  rw [scopesOf, scopesOf, hclasses, hmodule]

end AgreesOn

end World

/-! ## Levels and loggers

A plan takes its level and its logger from the configurations of the scopes. Which configuration
counts is different for the two: the level is the first one from inside that is not to be derived,
while the logger has the name of the outermost class, so that all methods of a class and of the
classes in it are logged under one name. -/

/-- The level in effect: the first of some levels that is not to be derived. -/
def Level.inEffect (levels : List Level) : Level :=
  (levels.find? (· ≠ .derived)).getD .debug

theorem Level.inEffect_ne_derived (levels : List Level) : inEffect levels ≠ .derived := by
  rcases hfind : levels.find? (· ≠ .derived) with _ | level
  · rw [inEffect, hfind]
    decide
  · rw [inEffect, hfind]
    simpa using List.find?_some hfind

/-- The level that is found going outward is the level in effect. At the end of the way it is the
default, which no configuration can change. -/
theorem Config.firstLevel_eq (configs : List Config) :
    firstLevel configs = Level.inEffect (configs.map Config.level) := by
  induction configs with
  | nil => rfl
  | cons config configs ih =>
    rw [firstLevel, ih, Level.inEffect, Level.inEffect, List.map_cons, List.find?_cons]
    by_cases h : config.level = .derived
    · simp [h]
    · simp [h]

namespace World

variable {w w' : World} {owner : Class} {moduleName : String} {names : List String}
  {path : List Class}

/-- A plan has the level and the logger that a callable with a configuration of its own gets from
the scopes of a path. -/
structure Inherits (w : World) (config : Config) (path : List Class) (moduleName : String)
    (plan : Plan) : Prop where
  level : plan.level =
    Level.inEffect ((w.configsAround config path moduleName).map Config.level)
  /-- the level is one -/
  derived : plan.level ≠ .derived
  /-- a logger that is configured is taken -/
  configured : ∀ name, config.logger = some name → name ≠ "" → plan.logger = name
  /-- else the logger is that of the outermost class -/
  outermost : config.logger = none ∨ config.logger = some "" →
    ∀ c, path.head? = some c → plan.logger = w.dottedName c

/-- Whatever has the scopes of a path is planned as they say. A plan takes nothing else from the
scopes than this. -/
theorem inherits_plan {m : Metadata} {plan : Plan}
    (hscopes : m.scopes = w.scopesOf path moduleName) (hplan : m.plan = .ok plan) :
    w.Inherits m.config path moduleName plan := by
  obtain ⟨rules, message, -, rfl⟩ := Metadata.plan_eq_ok hplan
  have hconfigs : m.scopes.filterMap Scope.config =
      path.reverse.filterMap w.configOf ++ (w.moduleConfig moduleName).toList := by
    rw [hscopes, scopesOf, List.filterMap_append, List.filterMap_map]
    cases w.moduleConfig moduleName <;> rfl
  have hlevel : m.level =
      Level.inEffect ((w.configsAround m.config path moduleName).map Config.level) := by
    rw [Metadata.level, Config.firstLevel_eq, hconfigs, configsAround]
  refine ⟨hlevel, ?_, fun name hname hne => ?_, fun hnone c hc => ?_⟩
  · change m.level ≠ .derived
    rw [hlevel]
    exact Level.inEffect_ne_derived _
  · change m.loggerName = name
    rw [Metadata.loggerName, hname]
    exact if_neg hne
  · have hderived : Metadata.loggerName.derived m = w.dottedName c := by
      obtain ⟨rest, rfl⟩ : ∃ rest, path = c :: rest := by
        cases path with
        | nil => cases hc
        | cons d rest => exact ⟨rest, by rw [Option.some.inj hc]⟩
      -- the scopes come innermost first, so the outermost class is the last one
      have hclasses : (m.scopes.filter fun s => s.kind = .cls) =
          (rest.reverse.map w.classScope) ++ [w.classScope c] := by
        rw [hscopes, scopesOf, List.filter_append]
        simp [classScope, List.filter_eq_self]
      rw [Metadata.loggerName.derived, hclasses, List.getLast?_concat]
      rfl
    change m.loggerName = w.dottedName c
    rw [Metadata.loggerName, ← hderived]
    rcases hnone with hnone | hnone
    · rw [hnone]
    · rw [hnone]
      exact if_pos rfl

/-! ## Methods

Describing a method takes the scopes from its owner, and a plan is made from the description. What
was proved of the scopes is carried through both steps here, in the world itself and in all that
agree with it along the path. -/

/-- What is described and planned for the methods of a class goes by the scopes that a path has in
the world `w`. -/
structure Heeds (w' : World) (owner : Class) (w : World) (path : List Class)
    (moduleName : String) : Prop where
  scopes : ∀ target, w'.scopeChain target (some owner) = .ok (w.scopesOf path moduleName)
  described : ∀ {func config j m j'}, w'.describe func config (some owner) j = (.ok m, j') →
    m.config = config ∧ m.scopes = w.scopesOf path moduleName
  planned : ∀ {func config j m j' plan}, w'.describe func config (some owner) j = (.ok m, j') →
    m.plan = .ok plan → w.Inherits config path moduleName plan

/-- What is described has the scopes around it. -/
theorem scopes_of_describe {func : Value} {config : Config} {owner : Option Class} {m : Metadata}
    {j j' : Journal} (h : w.describe func config owner j = (.ok m, j')) :
    w.scopeChain (w.unwrap func) owner = .ok m.scopes := by
  obtain ⟨-, signature, -, -, hmetadata⟩ := of_describe h
  exact (metadata_eq_ok hmetadata).1

/-- The scopes of an owner are all that is needed: every description of a method records them, and
every plan is made from what is described. -/
theorem heeds_of_scopeChain
    (h : ∀ target, w'.scopeChain target (some owner) = .ok (w.scopesOf path moduleName)) :
    w'.Heeds owner w path moduleName := by
  have hdescribed {func config j m j'}
      (hdescribe : w'.describe func config (some owner) j = (.ok m, j')) :
      m.config = config ∧ m.scopes = w.scopesOf path moduleName :=
    ⟨(describe_eq_ok hdescribe).1,
      Except.ok.inj ((scopes_of_describe hdescribe).symm.trans (h _))⟩
  refine ⟨h, hdescribed, fun hdescribe hplan => ?_⟩
  obtain ⟨rfl, hscopes⟩ := hdescribed hdescribe
  exact inherits_plan hscopes hplan

/-- A callable with numbered parameters has a plan if its message can be read. Where there is no
message one is generated, and that can always be read. -/
theorem exists_plan {m : Metadata} (hnumbered : Parameter.Numbered m.parameters)
    (hreadable : ∀ body ∈ (Template.ofText m.config.message.toList).bodies,
      Rule.IsReadable body) : ∃ plan, m.plan = .ok plan := by
  by_cases hmessage : m.config.message = ""
  · exact ⟨_, Metadata.plan_of_generated hmessage hnumbered⟩
  · obtain ⟨layout, rules, -, hplan, -⟩ := Metadata.exists_planOf_explicit hmessage hreadable
    exact ⟨_, hplan⟩

/-- The methods of a class, known under a path of names, go by the scopes of a path of classes. -/
structure ScopedBy (w : World) (owner : Class) (moduleName : String) (names : List String)
    (path : List Class) : Prop where
  here : w.Heeds owner w path moduleName
  /-- functions have plans, however the class holds them -/
  functions : ∀ func t line f config j, w.object? t = some (.function f) →
    w.unwrap func = .object t line → j.IsWritable w.naming →
    (∀ body ∈ (Template.ofText config.message.toList).bodies, Rule.IsReadable body) →
    ∃ m j' plan, w.describe func config (some owner) j = (.ok m, j') ∧ m.plan = .ok plan
  /-- what classes elsewhere are configured to has no influence -/
  elsewhere : "__logged__" ∉ names → ∀ w', w.AgreesOn path w' → w'.Heeds owner w path moduleName

/-- The name of the module of a class is one of its labels. -/
theorem AgreesOn.moduleLabel (h : w.AgreesOn path w') (c : Class) :
    w'.moduleLabel (.type (.cls c)) = w.moduleLabel (.type (.cls c)) := by
  have hlabel : w'.label? (.type (.cls c)) .module = w.label? (.type (.cls c)) .module :=
    h.classLabel c .module
  rw [World.moduleLabel, World.moduleLabel, hlabel]

theorem AgreesOn.qualnameText (h : w.AgreesOn path w') (c : Class) :
    w'.qualnameText (.type (.cls c)) = w.qualnameText (.type (.cls c)) := by
  have hlabel : w'.label? (.type (.cls c)) .qualname = w.label? (.type (.cls c)) .qualname :=
    h.classLabel c .qualname
  rw [World.qualnameText, World.qualnameText, hlabel]

/-- The scopes are those of a path as soon as they are so in every world that agrees on it. That
plans exist is not said of the other worlds: a configuration elsewhere can be one that another
method needs, and only the scopes of this one are at issue. -/
theorem scopedBy_of_scopeChain
    (hmodule : w.moduleLabel (.type (.cls owner)) = .str moduleName)
    (hhere : ∀ target, w.scopeChain target (some owner) = .ok (w.scopesOf path moduleName))
    (helsewhere : "__logged__" ∉ names → ∀ w', w.AgreesOn path w' →
      ∀ target, w'.scopeChain target (some owner) = .ok (w'.scopesOf path moduleName)) :
    w.ScopedBy owner moduleName names path where
  here := heeds_of_scopeChain hhere
  functions := by
    intro func t line f config j hf hfunc hj hreadable
    obtain ⟨m, j', hdescribe⟩ :=
      @describe_function w t line f hf func hfunc (some owner) moduleName hmodule j hj config
    obtain ⟨rfl, signature, -, hdescribes⟩ := describe_eq_ok hdescribe
    obtain ⟨plan, hplan⟩ := exists_plan hdescribes.numbered hreadable
    exact ⟨m, j', plan, hdescribe, hplan⟩
  elsewhere := by
    intro hnames w' h
    refine heeds_of_scopeChain fun target => ?_
    rw [helsewhere hnames w' h target, h.scopesOf_eq]

/-- **Methods inherit from the scopes around them.** If the qualified name of a class can be
followed through its module, these are the classes on the way, from the class outward, and the
module. If not, they are the class and the module. In both cases the level and the logger of every
method come from these scopes and from its own configuration alone. -/
theorem scopes_inherited
    (hmodule : w.moduleLabel (.type (.cls owner)) = .str moduleName)
    (hqualname : w.qualnameText (.type (.cls owner)) = ".".intercalate names) (hne : names ≠ [])
    (hdots : ∀ name ∈ names, '.' ∉ name.toList) :
    (∀ home outer found, w.registered.lookup moduleName = some home → "<locals>" ∉ names →
      w.LeadsThrough (.object home [.object]) names (outer ++ [found]) →
      w.ScopedBy owner moduleName names (outer ++ [owner])) ∧
    ((∀ home, w.registered.lookup moduleName = some home →
        "<locals>" ∈ names ∨ w.BreaksOff (.object home [.object]) names) →
      w.ScopedBy owner moduleName names [owner]) := by
  have hnames : components (w.qualnameText (.type (.cls owner))) = names :=
    components_eq_iff.mpr ⟨hne, hdots, hqualname⟩
  constructor
  · intro home outer found hhome hlocals hpath
    refine scopedBy_of_scopeChain hmodule
      (scopeChain_of_leadsThrough hmodule hnames hhome hlocals hpath) fun hlogged w' h => ?_
    exact scopeChain_of_leadsThrough ((h.moduleLabel owner).trans hmodule)
      ((congrArg _ (h.qualnameText owner)).trans hnames) (h.registered ▸ hhome) hlocals
      (h.leadsThrough hlogged hpath)
  · intro hstray
    refine scopedBy_of_scopeChain hmodule
      (scopeChain_of_not_followed hmodule hnames hstray) fun hlogged w' h => ?_
    refine scopeChain_of_not_followed ((h.moduleLabel owner).trans hmodule)
      ((congrArg _ (h.qualnameText owner)).trans hnames) fun home hhome => ?_
    exact (hstray home (h.registered ▸ hhome)).imp_right (h.breaksOff hlogged)

/-- A method without annotations. -/
def visit : Function where
  name := "visit"
  qualname := "Outer.Inner.visit"
  module := .str "m"
  signature := { params := [{ name := "self" }] }
  home := 0

/-- A module that is configured, with a class in a class. The class inside has an ancestor that is
configured as well. -/
def nested : World where
  objects := #[
    .module "m" [("__logged__", .object 5 [.object]), ("Outer", .type (.cls (.made 1 [.object])))],
    .cls { name := "Outer", qualname := "Outer", module := .str "m"
           line := [.made 1 [.object], .known .object]
           members := [("Inner", .type (.cls (.made 2 [.object])))] },
    .cls { name := "Inner", qualname := "Outer.Inner", module := .str "m"
           line := [.made 2 [.object], .made 3 [.object], .known .object]
           members := [("visit", .object 4 [.object])] },
    .cls { name := "Base", qualname := "Base", module := .str "m"
           line := [.made 3 [.object], .known .object]
           members := [("__logged__", .object 6 [.object])] },
    .function visit, .config { level := .info }, .config { level := .error }]
  registered := [("m", 0)]

/-- The path of the class inside leads through the class around it. -/
theorem leadsThrough_nested : nested.LeadsThrough (.object 0 [.object]) ["Outer", "Inner"]
    ([.made 1 [.object]] ++ [.made 2 [.object]]) :=
  .step rfl (.step rfl (.arrived _))

/-- The level comes from the module, and not from the ancestor, whatever that is configured to. -/
theorem scopes_inherited_nested :
    (∃ m j' plan,
      nested.describe (.object 4 [.object]) {} (some (.made 2 [.object])) {} = (.ok m, j') ∧
      m.plan = .ok plan ∧ plan.level = .info ∧ plan.logger = "m.Outer") ∧
    ∀ v, (nested.setMember 3 "__logged__" v).Heeds (.made 2 [.object]) nested
      [.made 1 [.object], .made 2 [.object]] "m" := by
  have hscoped : nested.ScopedBy (.made 2 [.object]) "m" ["Outer", "Inner"]
      [.made 1 [.object], .made 2 [.object]] :=
    (scopes_inherited rfl (by decide) (by decide) (by decide)).1 0 _ _ rfl (by decide)
      leadsThrough_nested
  have hwritable : ({} : Journal).IsWritable nested.naming := fun _ h => absurd h List.not_mem_nil
  obtain ⟨m, j', plan, hdescribe, hplan⟩ :=
    hscoped.functions (.object 4 [.object]) 4 [.object] visit {} {} rfl rfl hwritable
      fun _ h => absurd h List.not_mem_nil
  obtain ⟨hlevel, -, -, hlogger⟩ := hscoped.here.planned hdescribe hplan
  refine ⟨⟨m, j', plan, hdescribe, hplan, hlevel, hlogger (.inl rfl) _ rfl⟩, fun v => ?_⟩
  exact hscoped.elsewhere (by decide) _ (agreesOn_setMember (by simp) v)

end World

end CallLog
