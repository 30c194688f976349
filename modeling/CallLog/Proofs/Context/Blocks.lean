import CallLog.Proofs.Emission

/-!
# Blocks

Log contexts nest like the blocks of a program, but what they bind is kept in the journal, changed
when a block is entered and put back when it is left. `Nesting` is what can be done with blocks,
and `Nesting.Writes` tells what it writes with no journal, by the blocks that enclose each emission.
The main statement is `Nesting.run_writes`: a run writes just that, and leaves bound what was bound
before, whatever is raised inside.

A block may also be left name by name (`withinNames`), as if nothing were known of what is bound
under other names. That comes to the same for nested blocks, which is why the run lemma
(`Nesting.runWith_writes`) is about any way to leave a block that takes back what it binds.
-/

namespace CallLog

namespace Context

/-! ## What blocks bind

What is bound at some point of a program is kept in one list, which does not show how it came about.
`Binds` connects the list to the blocks that are open, from the inside outward. -/

/-- The value that some blocks bind under a key. Each block hides those outside of it, which come
after it. -/
def innermost (blocks : List Fields) (key : String) : Option Value :=
  blocks.findSome? fun values => values.reverse.lookup key

theorem innermost_cons (values : Fields) (blocks : List Fields) (key : String) :
    innermost (values :: blocks) key =
      (values.reverse.lookup key).or (innermost blocks key) := by
  rw [innermost, List.findSome?_cons]
  rcases values.reverse.lookup key with _ | v <;> rfl

/-- Fields are what some blocks bind, each name once. -/
structure Binds (fields : Fields) (blocks : List Fields) : Prop where
  nodup : (fields.map Prod.fst).Nodup
  lookup : ∀ key, fields.lookup key = innermost blocks key

theorem binds_singleton {fields : Fields} (h : (fields.map Prod.fst).Nodup) :
    Binds fields [fields] := by
  refine ⟨h, fun key => ?_⟩
  rw [innermost_cons, Document.lookup_reverse h]
  exact Option.or_none.symm

/-- A block that is entered hides what is bound. Of several values that it has for a name the last
one counts. -/
theorem Binds.overlay {fields : Fields} {blocks : List Fields} (h : Binds fields blocks)
    (values : Fields) : Binds (overlay fields values) (values :: blocks) := by
  refine ⟨nodup_keys_overlay h.nodup values, fun key => ?_⟩
  rw [lookup_overlay, innermost_cons, h.lookup]

/-! ## Leaving a block name by name

There are two ways to put back what was bound. The whole list can be kept aside and restored; or
only the names of the block are taken back, one by one. The second way would keep what was bound
inside under other names, so it needs that nothing is left of that. -/

/-- What is bound after a block: the names that it bound are taken back, and those among them that
had a value before get it again. -/
def left (before values after : Fields) : Fields :=
  overlay (after.filter fun field => !(values.map Prod.fst).contains field.1)
    (before.filter fun field => (values.map Prod.fst).contains field.1)

/-- A computation inside a log context that is left name by name. -/
def withinNames (values : Fields) (x : Logging Unit) : Logging Unit := fun j =>
  Action.always
    (do
      bind values
      x)
    (fun after => { after with bound := left j.bound values after.bound }) j

/-- **Leaving a block uncovers what it hid**, if all that was bound inside of it is taken back. -/
theorem Binds.left {before values after : Fields} {blocks : List Fields}
    (hbefore : Binds before blocks) (hafter : Binds after (values :: blocks)) :
    Binds (left before values after) blocks := by
  refine ⟨nodup_keys_overlay (Document.nodup_keys_filter _ hafter.nodup) _, fun key => ?_⟩
  rw [Context.left, lookup_overlay,
    Document.lookup_reverse (Document.nodup_keys_filter _ hbefore.nodup),
    Document.lookup_filter fun name => (values.map Prod.fst).contains name,
    Document.lookup_filter fun name => !(values.map Prod.fst).contains name]
  by_cases hkey : key ∈ values.map Prod.fst
  · have hcontains : (values.map Prod.fst).contains key = true := List.contains_iff_mem.mpr hkey
    rw [hcontains, if_pos rfl, hbefore.lookup]
    exact Option.or_none
  · have hcontains : (values.map Prod.fst).contains key = false := by simpa using hkey
    have hnone : values.reverse.lookup key = none := by
      rw [Document.lookup_eq_none_iff, List.map_reverse, List.mem_reverse]
      exact hkey
    rw [hcontains, hafter.lookup, innermost_cons, hnone]
    rfl

/-- A way to run a computation inside a log context. What is bound afterwards is what was bound
before, however the computation ends, if it takes back all that it binds. -/
def IsBlock (block : Fields → Logging Unit → Logging Unit) : Prop :=
  ∀ {values : Fields} {blocks : List Fields} {x : Logging Unit} {j k : Journal}
    {outcome : Except Raised Unit}, Binds j.bound blocks →
    x { j with bound := overlay j.bound values } = (outcome, k) → Binds k.bound (values :: blocks) →
    ∃ fields, Binds fields blocks ∧ block values x j = (outcome, { k with bound := fields })

theorem always_bind_run {values : Fields} {x : Logging Unit} {j k : Journal}
    {outcome : Except Raised Unit}
    (hx : x { j with bound := overlay j.bound values } = (outcome, k)) (last : Journal → Journal) :
    Action.always
      (do
        bind values
        x) last j = (outcome, last k) := by
  rw [Action.always, Action.bind_of_ok (show bind values j = (.ok (), _) from rfl), hx]

/-- A block that restores all that was bound takes back what it binds. -/
theorem isBlock_within : IsBlock within := by
  intro values blocks x j k outcome hj hx hk
  exact ⟨j.bound, hj, always_bind_run hx fun after => { after with bound := j.bound }⟩

/-- And so does one that is left name by name, if what is inside takes back all that it binds
itself. -/
theorem isBlock_withinNames : IsBlock withinNames := by
  intro values blocks x j k outcome hj hx hk
  exact ⟨left j.bound values k.bound, hj.left hk, always_bind_run hx _⟩

end Context

/-! ## Nested blocks

A program is a tree of blocks and emissions here, with what is raised and what is caught. `Writes`
has a rule for each way in which a node of the tree can go on or end, and none of them mentions a
journal. -/

/-- What a module does with blocks. -/
inductive Nesting where
  /-- does nothing -/
  | rest
  | emission (e : Emission)
  | raises (r : Raised)
  | followed (first second : Nesting)
  /-- goes on after some of what is raised inside -/
  | attempt (catches : Raised → Bool) (body : Nesting)
  /-- a log context that binds values -/
  | block (values : Context.Fields) (body : Nesting)

namespace Nesting

open Context (Fields Binds IsBlock innermost)

/-- Does what is inside, with a way to run log contexts. -/
def runWith (naming : Naming) (block : Fields → Logging Unit → Logging Unit) :
    Nesting → Logging Unit
  | .rest => pure ()
  | .emission e => e.run naming
  | .raises r => Action.raise r
  | .followed first second => do
    first.runWith naming block
    second.runWith naming block
  | .attempt catches body => do
    match ← Action.attempt (body.runWith naming block) with
    | .ok _ => pure ()
    | .error r => if catches r then pure () else Action.raise r
  | .block values body => block values (body.runWith naming block)

/-- Does what is inside. -/
def run (naming : Naming) (n : Nesting) : Logging Unit :=
  n.runWith naming Context.within

/-- What is written inside some blocks, the innermost first, and how it ends. -/
inductive Writes (naming : Naming) (threshold : Nat) :
    List Fields → Nesting → List Record → Except Raised Unit → Prop
  | rest {blocks} : Writes naming threshold blocks .rest [] (.ok ())
  | emission {blocks e rs outcome} (h : e.Ends naming threshold (innermost blocks) rs outcome) :
    Writes naming threshold blocks (.emission e) rs outcome
  | raises {blocks r} : Writes naming threshold blocks (.raises r) [] (.error r)
  | stopped {blocks first second rs r} (h : Writes naming threshold blocks first rs (.error r)) :
    Writes naming threshold blocks (.followed first second) rs (.error r)
  | followed {blocks first second rs ss outcome}
    (hfirst : Writes naming threshold blocks first rs (.ok ()))
    (hsecond : Writes naming threshold blocks second ss outcome) :
    Writes naming threshold blocks (.followed first second) (rs ++ ss) outcome
  | ended {blocks catches body rs} (h : Writes naming threshold blocks body rs (.ok ())) :
    Writes naming threshold blocks (.attempt catches body) rs (.ok ())
  | caught {blocks catches body rs r} (h : Writes naming threshold blocks body rs (.error r))
    (hr : catches r = true) : Writes naming threshold blocks (.attempt catches body) rs (.ok ())
  | passed {blocks catches body rs r} (h : Writes naming threshold blocks body rs (.error r))
    (hr : catches r = false) : Writes naming threshold blocks (.attempt catches body) rs (.error r)
  | block {blocks values body rs outcome}
    (h : Writes naming threshold (values :: blocks) body rs outcome) :
    Writes naming threshold blocks (.block values body) rs outcome

/-- **What nested blocks write**, in whichever way they are left. By induction on the tree: each
part starts with what the open blocks bind, and leaves the same, so the part after it starts with
that too. -/
theorem runWith_writes (naming : Naming) {block : Fields → Logging Unit → Logging Unit}
    (hblock : IsBlock block) (n : Nesting) {blocks : List Fields} {j : Journal}
    (hj : Binds j.bound blocks) :
    ∃ rs outcome fields, Binds fields blocks ∧
      n.runWith naming block j = (outcome, { j.logged rs with bound := fields }) ∧
      n.Writes naming j.threshold blocks rs outcome := by
  -- only a block changes what encloses its body, and that is taken back when it is left
  induction n generalizing blocks j with
  | rest => exact ⟨[], .ok (), j.bound, hj, by rw [Journal.logged_nil]; rfl, .rest⟩
  | raises r => exact ⟨[], .error r, j.bound, hj, by rw [Journal.logged_nil]; rfl, .raises⟩
  | emission e =>
    obtain ⟨rs, outcome, hrun, hends⟩ := e.run_ends naming hj.nodup hj.lookup
    exact ⟨rs, outcome, j.bound, hj, hrun, .emission hends⟩
  | followed first second ihfirst ihsecond =>
    obtain ⟨rs, outcome, fields, hfields, hrun, hwrites⟩ := ihfirst hj
    rcases outcome with r | ⟨⟩
    · exact ⟨rs, .error r, fields, hfields, Action.bind_of_error hrun _, .stopped hwrites⟩
    · obtain ⟨ss, outcome, fields', hfields', hrun', hwrites'⟩ :=
        ihsecond (j := { j.logged rs with bound := fields }) hfields
      refine ⟨rs ++ ss, outcome, fields', hfields', ?_, .followed hwrites hwrites'⟩
      rw [runWith, Action.bind_of_ok hrun, hrun']
      simp [Journal.logged]
  | attempt catches body ih =>
    obtain ⟨rs, outcome, fields, hfields, hrun, hwrites⟩ := ih hj
    have hattempt : Action.attempt (body.runWith naming block) j =
        (.ok outcome, { j.logged rs with bound := fields }) := by
      rw [Action.attempt, hrun]
    rcases outcome with r | ⟨⟩
    · rcases hr : catches r with _ | _
      · refine ⟨rs, .error r, fields, hfields, ?_, .passed hwrites hr⟩
        rw [runWith, Action.bind_of_ok hattempt]
        simp only [hr]
        rfl
      · refine ⟨rs, .ok (), fields, hfields, ?_, .caught hwrites hr⟩
        rw [runWith, Action.bind_of_ok hattempt]
        simp only [hr]
        rfl
    · refine ⟨rs, .ok (), fields, hfields, ?_, .ended hwrites⟩
      rw [runWith, Action.bind_of_ok hattempt]
      rfl
  | block values body ih =>
    obtain ⟨rs, outcome, fields, hfields, hrun, hwrites⟩ :=
      ih (j := { j with bound := Context.overlay j.bound values }) (hj.overlay values)
    obtain ⟨fields', hfields', hrun'⟩ := hblock hj hrun hfields
    exact ⟨rs, outcome, fields', hfields', hrun', .block hwrites⟩

/-- Whatever happens inside, the same is bound afterwards, and as the same list: a block that
restores all that was bound does not even change the order. -/
theorem run_maintains_bound (naming : Naming) (n : Nesting) {fields : Fields}
    (hfields : (fields.map Prod.fst).Nodup) :
    (n.run naming).Maintains fun j => j.bound = fields := by
  induction n with
  | rest => exact .pure ()
  | raises r => exact fun _ hj => hj
  | emission e =>
    rintro j rfl
    obtain ⟨rs, outcome, hrun, -⟩ := e.run_ends naming hfields fun _ => rfl
    have hrun' : (Nesting.emission e).run naming j = (outcome, j.logged rs) := hrun
    rw [hrun']
    rfl
  | followed first second ihfirst ihsecond => exact ihfirst.bind fun _ => ihsecond
  | attempt catches body ih =>
    refine Action.Maintains.bind (fun j hj => ih j hj) fun outcome => ?_
    rcases outcome with r | ⟨⟩
    · simp only
      split
      · exact .pure ()
      · exact fun _ hj => hj
    · exact .pure ()
  | block values body ih => exact fun j hj => hj

/-- **The records of nested blocks.** A run adds records to the journal and changes nothing else,
however it ends. It writes a record for each emission that passes the threshold and can be shown,
in order, with the values that the innermost enclosing blocks bind. What is bound at the start
encloses all. Where blocks are left name by name, the same is written, and every name has the value
again that it had. -/
theorem run_writes (naming : Naming) (n : Nesting) (j : Journal)
    (h : (j.bound.map Prod.fst).Nodup) :
    (∃ rs outcome, n.run naming j = (outcome, j.logged rs) ∧
      n.Writes naming j.threshold [j.bound] rs outcome) ∧
    ∃ rs outcome fields, (∀ key, fields.lookup key = j.bound.lookup key) ∧
      n.runWith naming Context.withinNames j = (outcome, { j.logged rs with bound := fields }) ∧
      n.Writes naming j.threshold [j.bound] rs outcome := by
  have hstart : Binds j.bound [j.bound] := Context.binds_singleton h
  constructor
  · obtain ⟨rs, outcome, fields, -, hrun, hwrites⟩ :=
      n.runWith_writes naming Context.isBlock_within hstart
    have hbound : (n.run naming j).2.bound = j.bound := n.run_maintains_bound naming h j rfl
    rw [run, hrun] at hbound
    obtain rfl : fields = j.bound := hbound
    exact ⟨rs, outcome, hrun, hwrites⟩
  · obtain ⟨rs, outcome, fields, hfields, hrun, hwrites⟩ :=
      n.runWith_writes naming Context.isBlock_withinNames hstart
    exact ⟨rs, outcome, fields, fun key => (hfields.lookup key).trans (hstart.lookup key).symm,
      hrun, hwrites⟩

/-- A block inside of another one hides what that binds, and raises. What it hid is back for the
emission that follows. -/
theorem run_writes_shadowing :
    let start : Journal := { bound := [("user", .str "ada")] }
    let n : Nesting := .followed
      (.attempt (fun _ => true)
        (.block [("user", .str "bob"), ("logger", .str "x")]
          (.followed (.emission ⟨"m", "info", "in", [], []⟩) (.raises (.fault .longInteger)))))
      (.emission ⟨"m", "info", "out", [], []⟩)
    (start.bound.map Prod.fst).Nodup ∧
      ∃ rs, n.run .empty start = (.ok (), start.logged rs) ∧
        n.Writes .empty start.threshold [start.bound] rs (.ok ()) ∧
        rs.map (fun r => (r.lookup "user", r.lookup "logger")) =
          [(some (.str "bob"), some (.str "m")), (some (.str "ada"), some (.str "m"))] := by
  intro start n
  have hstart : (start.bound.map Prod.fst).Nodup := List.pairwise_singleton _ "user"
  obtain ⟨⟨rs, outcome, hrun, hwrites⟩, -⟩ := n.run_writes .empty start hstart
  obtain rfl : outcome = .ok () := (congrArg Prod.fst hrun).symm
  refine ⟨hstart, rs, hrun, hwrites, ?_⟩
  have hrs : rs = (n.run .empty start).2.records := by
    rw [hrun]
    rfl
  rw [hrs]
  rfl

/-- **A record can have a field that nobody gave, or not be written.** The stack is shown where it
is asked for, though nothing has its key; and a field cannot have the name of an argument of what
writes the record. -/
theorem run_adds_stack :
    let asking : Emission := ⟨"m", "info", "in", [], [("stack_info", .bool true)]⟩
    let clashing : Emission := ⟨"m", "info", "in", [], [("method_name", .int 1)]⟩
    (asking.value? (fun _ => none) "stack" = none ∧
      ∃ r, (Nesting.emission asking).run .empty {} = (.ok (), ({} : Journal).logged [r]) ∧
        r.lookup "stack" = some (.str Logger.stackText)) ∧
      clashing.value? (fun _ => none) "method_name" = some (.int 1) ∧
      (Nesting.emission clashing).run .empty {} =
        (.error (.fault (.keywordClash "method_name")), {}) :=
  ⟨⟨rfl, _, rfl, rfl⟩, rfl, rfl⟩

end Nesting

end CallLog
