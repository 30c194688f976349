import CallLog.LogPoint
import CallLog.Metadata.Plan

/-!
# The error parameter of a plan

The rules that show the error parameter are taken out of a plan, and where they stood is kept as
positions. Inserting a value at these positions puts it back in their place: `insertAll_positionsOf`
says that values for the other rules become values for all of them.

`errorParameter_eq_some` says when a callable has an error parameter and which one it is.
-/

namespace CallLog

/-- The parameters are numbered in order. -/
def Parameter.Numbered (parameters : List Parameter) : Prop :=
  ∀ (i : Nat) (p : Parameter), parameters[i]? = some p → p.index = i

/-! ## Insertion at positions

Each insertion moves what stands behind it. Since the positions are given in order, and are counted
in the list that comes out in the end, what is inserted does not move what was inserted before. -/

namespace LogPoint

/-- A list with an item inserted at some positions, one after the other. -/
def insertAll {α : Type} (x : α) (positions : List Int) (xs : List α) : List α :=
  positions.foldl (fun ys i => insertAt ys i x) xs

theorem insertAt_length {α : Type} (ys zs : List α) (x : α) :
    insertAt (ys ++ zs) ys.length x = ys ++ x :: zs := by
  have hcut : cut (ys ++ zs).length ys.length = ys.length := by
    rw [cut, if_pos (Int.natCast_nonneg _), Int.toNat_natCast, List.length_append]
    omega
  simp only [insertAt, hcut, List.take_left', List.drop_left']

/-- The positions are counted over all rules, so that each insertion falls behind the ones before.
The induction keeps the values that are in place already apart. -/
theorem insertAll_zipIdx {α : Type} {p : Rule → Bool} {f : Rule → α} {x : α}
    {rules : List Rule} (h : ∀ rule ∈ rules, p rule = true → f rule = x) (done : List α) :
    insertAll x (((rules.zipIdx done.length).filter fun e => p e.1).map fun e => (e.2 : Int))
        (done ++ (rules.filter fun rule => !p rule).map f) =
      done ++ rules.map f := by
  induction rules generalizing done with
  | nil => rfl
  | cons rule rules ih =>
    obtain ⟨hrule, hrules⟩ := List.forall_mem_cons.mp h
    have hrest := ih hrules (done ++ [f rule])
    rw [List.length_append, List.length_singleton, List.append_assoc, List.append_assoc] at hrest
    rw [List.zipIdx_cons]
    rcases hp : p rule with _ | _
    · simp only [List.filter_cons, hp, Bool.not_false, if_true, Bool.false_eq_true, if_false,
        List.map_cons]
      exact hrest
    · simp only [List.filter_cons, hp, Bool.not_true, if_true, Bool.false_eq_true, if_false,
        List.map_cons]
      rw [insertAll, List.foldl_cons, insertAt_length, ← hrule hp]
      rw [← hrule hp] at hrest
      exact hrest

/-- **The values of the rules that were taken out are put back.** All of them show the same value,
so it is enough to have one. -/
theorem insertAll_positionsOf {α : Type} {index : Int} {f : Rule → α} {x : α}
    {rules : List Rule} (h : ∀ rule ∈ rules, rule.isLiveFor index = true → f rule = x) :
    insertAll x (Metadata.positionsOf index rules)
        ((rules.filter fun rule => !rule.isLiveFor index).map f) =
      rules.map f := by
  simpa [Metadata.positionsOf] using insertAll_zipIdx h []

end LogPoint

/-! ## Detection

Which parameter is the error parameter is decided by the annotations, and whether a plan has one
depends on the last parameter alone. What the plan keeps of it is where its slots were. -/

namespace Metadata

/-- The slots that show the error parameter, as the plan keeps them: a generated message has
none. -/
def keptPositions (metadata : Metadata) (i : Nat) (rules : List Rule) : List Int :=
  if metadata.config.message = "" then [] else positionsOf i rules

/-- The error parameter is the last one; it is not excluded and takes an exception. -/
theorem errorParameter_eq_some {metadata : Metadata} {rules : List Rule} {e : ErrorParameter}
    (h : metadata.errorParameter rules = some e) :
    ∃ i p, Parameter.errorIndex metadata.parameters = some i ∧
      metadata.parameters[i]? = some p ∧ p.dontLog = false ∧
      e = ⟨p.index, p.name, p.hint, metadata.keptPositions i rules⟩ := by
  unfold errorParameter at h
  split at h
  · cases h
  · rename_i i hi
    split at h
    · cases h
    · rename_i p hp
      split at h
      · cases h
      · rename_i hlog
        cases h
        exact ⟨i, p, hi, hp, by simpa using hlog, rfl⟩

/-- The plan for a callable, by the rules for all slots of its message. -/
def planOf (metadata : Metadata) (rules : List Rule) (message : String) : Plan where
  logger := metadata.loggerName
  level := metadata.level
  message := message
  parameters := metadata.withoutError rules
  errorParameter := metadata.errorParameter rules
  logResult := metadata.returns.returnsValue

theorem plan_of_resolve {metadata : Metadata} {rules : List Rule} {message : String}
    (h : Rule.resolve metadata.name metadata.parameters metadata.config.message
      ((Parameter.errorIndex metadata.parameters).map Int.ofNat) = .ok (rules, message)) :
    metadata.plan = .ok (metadata.planOf rules message) := by
  simp only [plan, h]
  rfl

theorem withoutError_of_none {metadata : Metadata} {rules : List Rule}
    (h : metadata.errorParameter rules = none) : metadata.withoutError rules = rules := by
  unfold withoutError
  rw [h]
  split
  · rename_i he
    cases he
  · rfl

theorem withoutError_of_some {metadata : Metadata} {rules : List Rule} {e : ErrorParameter}
    {i : Nat} (h : metadata.errorParameter rules = some e)
    (hi : Parameter.errorIndex metadata.parameters = some i) :
    metadata.withoutError rules = rules.filter fun rule => !rule.isLiveFor i := by
  unfold withoutError
  rw [h, hi]

end Metadata

end CallLog
