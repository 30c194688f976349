import CallLog.Description

/-!
# What does not depend on signatures

`World.bare` is a world with the signatures of its functions left out. Most of what is asked of a
world can be asked of that one as well: how things are called and displayed, what names lead to,
which classes are around a callable. Worlds that are the same without signatures agree in all of
these.
-/

namespace CallLog

/-- An object without its signature, if it is a function. All other objects have none. -/
def Object.bare : Object → Object
  | .function f => .function { f with signature := {} }
  | object => object

/-- A world without signatures. -/
def World.bare (w : World) : World :=
  { w with objects := w.objects.map Object.bare }

namespace World

variable (w : World)

/-- Every object is still there, under its number. -/
theorem object?_bare (t : Nat) : w.bare.object? t = (w.object? t).map Object.bare := by
  rw [object?, bare, Array.getElem?_map]
  rfl

/-- What is behind a value is an object, or there is none; for functions it has lost its
signature. -/
theorem behind?_bare (v : Value) : w.bare.behind? v = (w.behind? v).map Object.bare := by
  unfold behind?
  split
  · exact w.object?_bare _
  · exact w.object?_bare _
  · rfl

/-- The depth of a world is a matter of how many objects there are. -/
theorem depth_bare : w.bare.depth = w.depth := by
  rw [depth, depth, bare, Array.size_map]

theorem class?_bare (t : Nat) : w.bare.class? t = w.class? t := by
  rw [class?, class?, object?_bare]
  rcases w.object? t with _ | object
  · rfl
  · cases object <;> rfl

/-! ## Names and members

Looking up a name asks for the members of classes and modules and for the ancestors of classes. None
of these objects is a function, so each question has the same answer; it is shown for one question
after the other, from those that ask for an object to those that ask the others. -/

theorem moduleMembers_bare (t : Nat) : w.bare.moduleMembers t = w.moduleMembers t := by
  rw [moduleMembers, moduleMembers, object?_bare]
  rcases w.object? t with _ | object
  · rfl
  · cases object <;> rfl

theorem moduleGet?_bare (t : Nat) (name : String) :
    w.bare.moduleGet? t name = w.moduleGet? t name := by
  rw [moduleGet?, moduleGet?, moduleMembers_bare]

/-- Classes that are built in have members of their own, whatever the world. -/
theorem ownMembers_bare (c : Class) : w.bare.ownMembers c = w.ownMembers c := by
  cases c with
  | known k => cases k <;> rfl
  | made ref ancestors => rw [ownMembers, ownMembers, class?_bare]

theorem lineOf_bare (c : Class) : w.bare.lineOf c = w.lineOf c := by
  cases c with
  | known k => rfl
  | made ref ancestors => rw [lineOf, lineOf, class?_bare]

/-- An attribute of a class is looked up along its line, and neither the line nor the members of the
classes in it hold signatures. -/
theorem classGet?_bare (c : Class) (name : String) :
    w.bare.classGet? c name = w.classGet? c name := by
  simp only [classGet?, lineOf_bare, ownMembers_bare]

theorem instanceClass?_bare (v : Value) : w.bare.instanceClass? v = w.instanceClass? v := by
  unfold instanceClass?
  split
  · rfl
  · rw [behind?_bare]
    rcases w.behind? v with _ | object
    · rfl
    · cases object <;> rfl

/-- Of the values behind which there is an object each kind has its own way to be asked for a name.
A function has none that asks for the signature. -/
theorem rawGet?_bare (v : Value) (name : String) : w.bare.rawGet? v name = w.rawGet? v name := by
  unfold rawGet?
  simp only [classGet?_bare, moduleGet?_bare, instanceClass?_bare, behind?_bare]
  rcases w.behind? v with _ | object
  · rfl
  · cases object <;> cases v <;> rfl

theorem isStatic_bare (v : Value) : w.bare.isStatic v = w.isStatic v := by
  rw [isStatic, isStatic, behind?_bare]
  rcases w.behind? v with _ | object
  · rfl
  · cases object <;> rfl

theorem unwrap_bare (v : Value) : w.bare.unwrap v = w.unwrap v := by
  rw [unwrap, unwrap, behind?_bare]
  rcases w.behind? v with _ | object
  · rfl
  · cases object <;> rfl

/-- What can be called is decided by the kind of object. -/
theorem isCallable_bare (v : Value) : w.bare.isCallable v = w.isCallable v := by
  unfold isCallable
  simp only [classGet?_bare, behind?_bare]
  split
  case h_10 =>
    rcases w.behind? v with _ | object
    · rfl
    · cases object <;> rfl
  all_goals rfl

/-! ## Labels and displays

A function is displayed by its labels and by what is around it. Displays go through objects that
hold others, to the depth of the world, which depends on the number of its objects alone. -/

theorem classLabel_bare (c : Class) (label : Label) :
    w.bare.classLabel c label = w.classLabel c label := by
  cases c with
  | known k => rfl
  | made ref ancestors => rw [classLabel, classLabel, class?_bare]

/-- Labels are taken through what is wrapped, step by step, so the induction is on the fuel. -/
theorem labelWithin_bare (fuel : Nat) (v : Value) (label : Label) :
    w.bare.labelWithin fuel v label = w.labelWithin fuel v label := by
  induction fuel generalizing v with
  | zero => rfl
  | succ fuel ih =>
    unfold labelWithin
    simp only [classLabel_bare, behind?_bare]
    rcases w.behind? v with _ | object
    · rfl
    · cases object with
      | method func receiver => simp only [Option.map_some, Object.bare, ih]
      | _ => rfl

theorem label?_bare (v : Value) (label : Label) : w.bare.label? v label = w.label? v label := by
  rw [label?, label?, depth_bare, labelWithin_bare]

theorem kindName_bare (t : Nat) : w.bare.kindName t = w.kindName t := by
  unfold kindName
  simp only [object?_bare, class?_bare]
  rcases w.object? t with _ | object
  · rfl
  · cases object with
    | «instance» c members => cases c <;> rfl
    | _ => rfl

/-- The naming of a world is a record of functions, and each of its fields is told by the kind or
the class of an object. -/
theorem namingBy_bare (display : Nat → String) :
    w.bare.namingBy display = w.namingBy display := by
  have hqualname (t : Nat) : w.bare.kindQualname t = w.kindQualname t := by
    unfold kindQualname
    simp only [object?_bare, class?_bare, kindName_bare]
    rcases w.object? t with _ | object
    · rfl
    · cases object with
      | «instance» c members => cases c <;> rfl
      | _ => rfl
  rw [namingBy, namingBy]
  congr 1
  · exact funext w.kindName_bare
  · exact funext hqualname
  · exact funext fun t => by rw [className, className, class?_bare]
  · exact funext fun t => by rw [classQualname, classQualname, class?_bare]
  · exact funext fun t => by rw [classPath, classPath, class?_bare]

/-- What displays an object displays those in it first, with less fuel. So all displays of one depth
are the same, and from them those of the next. -/
theorem display_bare (fuel : Nat) : w.bare.display fuel = w.display fuel := by
  induction fuel with
  | zero => rfl
  | succ fuel ih =>
    have hinner : w.bare.inner (w.display fuel) = w.inner (w.display fuel) := by
      funext v
      rw [inner, inner, namingBy_bare]
    have hmethod (func : Value) :
        display.methodName w.bare func = display.methodName w func := by
      rw [display.methodName, display.methodName, behind?_bare]
      rcases w.behind? func with _ | object
      · rfl
      · cases object <;> rfl
    funext t
    unfold display
    simp only [object?_bare, ih, hinner, hmethod, kindName_bare]
    rcases w.object? t with _ | object
    · rfl
    · cases object <;> rfl

theorem naming_bare : w.bare.naming = w.naming := by
  rw [naming, naming, display_bare, namingBy_bare, bare, Array.size_map]

theorem shown_bare (v : Value) : w.bare.shown v = w.shown v := by
  rw [shown, shown, naming_bare]

theorem classAt?_bare (v : Value) (name : String) :
    w.bare.classAt? v name = w.classAt? v name := by
  simp only [classAt?, rawGet?_bare, isStatic_bare, unwrap_bare]

/-- A path of names is followed step by step, and it ends where a step leads to no class. -/
theorem classesAlong_bare (v : Value) (names : List String) :
    w.bare.classesAlong v names = w.classesAlong v names := by
  induction names generalizing v with
  | nil => rfl
  | cons name names ih =>
    rw [classesAlong, classesAlong, classAt?_bare]
    rcases w.classAt? v name with _ | c
    · rfl
    · dsimp only
      rw [ih]

/-- A config is found behind the value of one member. If a function is behind it there is none, with
its signature or without. -/
theorem configAmong_bare (members : Members) :
    w.bare.configAmong members = w.configAmong members := by
  unfold configAmong
  rcases members.get? "__logged__" with _ | v
  · rfl
  · simp only [behind?_bare]
    rcases w.behind? v with _ | object
    · rfl
    · cases object <;> rfl

theorem classScope_bare (c : Class) : w.bare.classScope c = w.classScope c := by
  simp only [classScope, dottedName, classLabel_bare, ownMembers_bare, configAmong_bare]

theorem membersOf_bare (v : Value) : w.bare.membersOf v = w.membersOf v := by
  rw [membersOf, membersOf, behind?_bare]
  rcases w.behind? v with _ | object
  · rfl
  · cases object <;> rfl

theorem moduleLabel_bare (v : Value) : w.bare.moduleLabel v = w.moduleLabel v := by
  rw [moduleLabel, moduleLabel, label?_bare]

theorem qualnameText_bare (v : Value) : w.bare.qualnameText v = w.qualnameText v := by
  rw [qualnameText, qualnameText, label?_bare]

theorem registeredModule?_bare (name : Value) :
    w.bare.registeredModule? name = w.registeredModule? name := by
  cases name <;> rfl

theorem enclosing_bare (module : Option Value) (path : List String) (owner : Option Class) :
    w.bare.enclosing module path owner = w.enclosing module path owner := by
  simp only [enclosing, classesAlong_bare]

/-- **The scopes around a callable** do not depend on signatures. -/
theorem scopeChain_bare (target : Value) (owner : Option Class) :
    w.bare.scopeChain target owner = w.scopeChain target owner := by
  simp only [scopeChain, moduleLabel_bare, qualnameText_bare, registeredModule?_bare,
    enclosing_bare, configAmong_bare, membersOf_bare, funext w.classScope_bare]

end World

end CallLog
