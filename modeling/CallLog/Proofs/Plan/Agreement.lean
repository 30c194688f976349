import CallLog.Proofs.Plan.Visible
import CallLog.Proofs.Rules.Limit
import CallLog.Proofs.TypeHint.Equality

/-!
# Plans that agree

A plan repeats the annotations of the parameters that it shows, and it looks into an annotation in
two places only: whether the last parameter takes an exception, and whether the result carries a
value. So metadata that agree in everything else have plans that agree, whatever their annotations
have in common. That is the parameter `S` here: `S name a b` relates the annotations of the two
parameters of that name.

`plan_agrees` is the general statement, and `plan_equal` the one about equal metadata.
-/

namespace CallLog

/-- Both computations return, with related results, or both fail in the same way. -/
inductive EndAlike {α β : Type} (R : α → β → Prop) : Except Fault α → Except Fault β → Prop where
  | ok {a : α} {b : β} (h : R a b) : EndAlike R (.ok a) (.ok b)
  | error (e : Fault) : EndAlike R (.error e) (.error e)

/-- Computations that are put together from such that end alike end alike. -/
theorem EndAlike.bind {α β γ δ : Type} {R : α → β → Prop} {Q : γ → δ → Prop}
    {x : Except Fault α} {y : Except Fault β} {f : α → Except Fault γ} {g : β → Except Fault δ}
    (h : EndAlike R x y) (hfg : ∀ a b, R a b → EndAlike Q (f a) (g b)) :
    EndAlike Q (x >>= f) (y >>= g) := by
  cases h with
  | ok h => exact hfg _ _ h
  | error e => exact .error e

theorem EndAlike.exists_ok_iff {α β : Type} {R : α → β → Prop} {x : Except Fault α}
    {y : Except Fault β} (h : EndAlike R x y) : (∃ a, x = .ok a) ↔ ∃ b, y = .ok b := by
  cases h <;> simp

/-! ## Lists that are related one by one

Parameters are related one by one, and rules after them. Whatever picks some of them by what they
have in common picks the same ones on both sides. -/

section

variable {α β : Type} {R : α → β → Prop} {as : List α} {bs : List β}

theorem rel_getElem? (h : List.Forall₂ R as bs) (i : Nat) : Option.Rel R as[i]? bs[i]? := by
  induction h generalizing i with
  | nil => exact .none
  | cons hab _ ih =>
    cases i with
    | zero => exact .some hab
    | succ i => exact ih i

theorem rel_getLast? (h : List.Forall₂ R as bs) : Option.Rel R as.getLast? bs.getLast? := by
  rw [List.getLast?_eq_getElem?, List.getLast?_eq_getElem?, h.length_eq]
  exact rel_getElem? h _

theorem forall₂_filter {f : α → Bool} {g : β → Bool} (h : List.Forall₂ R as bs)
    (hfg : ∀ a b, R a b → f a = g b) : List.Forall₂ R (as.filter f) (bs.filter g) := by
  induction h with
  | nil => exact .nil
  | cons hab _ ih =>
    rw [List.filter_cons, List.filter_cons, hfg _ _ hab]
    split
    · exact .cons hab ih
    · exact ih

end

/-! ## What agrees

Each kind of data has its own relation, with one field for everything that has to be the same. The
annotations are related by `S` where a parameter, a rule or an error parameter repeats them. -/

/-- Two parameters differ in their annotations only. -/
structure Parameter.Agrees (S : String → TypeHint → TypeHint → Prop) (p q : Parameter) :
    Prop where
  index : p.index = q.index
  name : p.name = q.name
  hint : S p.name p.hint q.hint
  dontLog : p.dontLog = q.dontLog

/-- Two rules show the same text, or the argument at the same index. -/
inductive Rule.Agrees (S : String → TypeHint → TypeHint → Prop) : Rule → Rule → Prop where
  | live (i : Int) {name : String} {a b : TypeHint} (h : S name a b) :
      Agrees S (.live i name a) (.live i name b)
  | static (text : String) : Agrees S (.static text) (.static text)

/-- Two error parameters differ in their annotations only. -/
structure ErrorParameter.Agrees (S : String → TypeHint → TypeHint → Prop)
    (e f : ErrorParameter) : Prop where
  index : e.index = f.index
  name : e.name = f.name
  hint : S e.name e.hint f.hint
  positions : e.positions = f.positions

/-- Two plans differ in the annotations that they repeat only. -/
structure Plan.Agrees (S : String → TypeHint → TypeHint → Prop) (p q : Plan) : Prop where
  logger : p.logger = q.logger
  level : p.level = q.level
  message : p.message = q.message
  parameters : List.Forall₂ (Rule.Agrees S) p.parameters q.parameters
  errorParameter : Option.Rel (ErrorParameter.Agrees S) p.errorParameter q.errorParameter
  logResult : p.logResult = q.logResult

/-- The metadata of two callables differ in annotations only, and these say the same where a plan
looks into them. -/
structure Metadata.Agrees (S : String → TypeHint → TypeHint → Prop) (m n : Metadata) : Prop where
  name : m.name = n.name
  parameters : List.Forall₂ (Parameter.Agrees S) m.parameters n.parameters
  scopes : m.scopes = n.scopes
  config : m.config = n.config
  errorIndex : Parameter.errorIndex m.parameters = Parameter.errorIndex n.parameters
  returnsValue : m.returns.returnsValue = n.returns.returnsValue

/-- The last one of a list decides whether there is an error parameter. What the annotations before
it say does not matter, only how many there are. -/
theorem Parameter.errorIndex_congr {ps qs : List Parameter} (hlen : ps.length = qs.length)
    (h : Option.Rel (fun p q : Parameter => p.hint.isExceptionType = q.hint.isExceptionType)
      ps.getLast? qs.getLast?) : errorIndex ps = errorIndex qs := by
  unfold errorIndex
  generalize ps.getLast? = p at h
  generalize qs.getLast? = q at h
  cases h with
  | none => rfl
  | some h => simp only [h, hlen]

section

variable {S : String → TypeHint → TypeHint → Prop} {p q : Parameter} {ps qs : List Parameter}
  {rs ss : List Rule} {m n : Metadata}

/-! ## Rules

A rule is made of the parameter at its index or of the body of its slot, and the bodies are the same
on both sides. Only the reading of a numeral can fail, and it fails on both sides or on none. -/

namespace Rule

theorem agrees_ofParameter (h : p.Agrees S q) : (ofParameter p).Agrees S (ofParameter q) := by
  rw [ofParameter, ofParameter, ← h.index, ← h.name]
  exact .live p.index h.hint

theorem Agrees.isLiveFor {r s : Rule} (h : r.Agrees S s) (i : Int) :
    r.isLiveFor i = s.isLiveFor i := by
  cases h <;> rfl

theorem agrees_forIndex (h : List.Forall₂ (Parameter.Agrees S) ps qs) (i : Int) :
    (forIndex ps i).Agrees S (forIndex qs i) := by
  unfold forIndex
  by_cases hneg : i < 0
  · rw [if_pos hneg, if_pos hneg]
    exact .static _
  · rw [if_neg hneg, if_neg hneg]
    have hat := rel_getElem? h i.toNat
    generalize ps[i.toNat]? = p at hat
    generalize qs[i.toNat]? = q at hat
    cases hat with
    | none => exact .static _
    | some hpq => exact agrees_ofParameter hpq

theorem agrees_explicitRules (h : List.Forall₂ (Parameter.Agrees S) ps qs)
    (bodies : List (List Char)) (next : Nat) :
    EndAlike (List.Forall₂ (Rule.Agrees S)) (explicitRules ps next bodies)
      (explicitRules qs next bodies) := by
  induction bodies generalizing next with
  | nil => exact .ok .nil
  | cons body bodies ih =>
    rw [explicitRules, explicitRules]
    rcases reference body with e | reference
    · exact .error e
    · -- the slot gets its rule, and the others get theirs after it
      cases reference with
      | next => exact (ih (next + 1)).bind fun _ _ hrest => .ok (.cons (agrees_forIndex h _) hrest)
      | index i => exact (ih next).bind fun _ _ hrest => .ok (.cons (agrees_forIndex h i) hrest)
      | invalid text => exact (ih next).bind fun _ _ hrest => .ok (.cons (.static _) hrest)

theorem agrees_autoRules (h : List.Forall₂ (Parameter.Agrees S) ps qs) :
    List.Forall₂ (Rule.Agrees S) (autoRules ps) (autoRules qs) := by
  have hkept := forall₂_filter (f := fun p => !p.dontLog) (g := fun q => !q.dontLog) h
    fun p q hpq => congrArg not hpq.dontLog
  refine List.forall₂_map_left_iff.mpr (List.forall₂_map_right_iff.mpr ?_)
  exact hkept.imp fun p q => agrees_ofParameter

theorem any_isLiveFor (h : List.Forall₂ (Rule.Agrees S) rs ss) (i : Int) :
    rs.any (isLiveFor i) = ss.any (isLiveFor i) := by
  induction h with
  | nil => rfl
  | cons hrs _ ih => rw [List.any_cons, List.any_cons, hrs.isLiveFor i, ih]

theorem agrees_resolve (h : List.Forall₂ (Parameter.Agrees S) ps qs) (name message : String)
    (errorIndex : Option Int) :
    EndAlike (fun x y => List.Forall₂ (Rule.Agrees S) x.1 y.1 ∧ x.2 = y.2)
      (resolve name ps message errorIndex) (resolve name qs message errorIndex) := by
  unfold resolve
  by_cases hmessage : message = ""
  · rw [if_pos hmessage, if_pos hmessage]
    have hrules := agrees_autoRules h
    refine .ok ⟨hrules, ?_⟩
    simp only [any_isLiveFor hrules, hrules.length_eq]
  · rw [if_neg hmessage, if_neg hmessage]
    exact (agrees_explicitRules h _ 0).bind fun _ _ hrules => .ok ⟨hrules, rfl⟩

end Rule

/-! ## Plans

A plan looks at its rules only by what index they are live for. So the positions of the error
parameter, and the rules that are left without it, agree as soon as the rules do. -/

namespace Metadata

theorem positionsOf_congr (h : List.Forall₂ (Rule.Agrees S) rs ss) (i : Int) :
    positionsOf i rs = positionsOf i ss := by
  unfold positionsOf
  generalize 0 = start
  induction h generalizing start with
  | nil => rfl
  | @cons r s rs ss hrs _ ih =>
    simp only [List.zipIdx_cons, List.filter_cons, hrs.isLiveFor i]
    split
    · rw [List.map_cons, List.map_cons, ih]
    · exact ih (start + 1)

theorem agrees_errorParameter (h : m.Agrees S n) (hrules : List.Forall₂ (Rule.Agrees S) rs ss) :
    Option.Rel (ErrorParameter.Agrees S) (m.errorParameter rs) (n.errorParameter ss) := by
  unfold errorParameter
  rw [← h.errorIndex, ← h.config]
  rcases Parameter.errorIndex m.parameters with _ | i
  · exact .none
  · have hat := rel_getElem? h.parameters i
    dsimp only
    generalize m.parameters[i]? = p at hat
    generalize n.parameters[i]? = q at hat
    cases hat with
    | none => exact .none
    | some hpq =>
      dsimp only
      rw [← hpq.dontLog, positionsOf_congr hrules]
      split
      · exact .none
      · exact .some ⟨hpq.index, hpq.name, hpq.hint, rfl⟩

theorem agrees_withoutError (h : m.Agrees S n) (hrules : List.Forall₂ (Rule.Agrees S) rs ss) :
    List.Forall₂ (Rule.Agrees S) (m.withoutError rs) (n.withoutError ss) := by
  unfold withoutError
  rw [← h.errorIndex]
  have herror := agrees_errorParameter h hrules
  generalize m.errorParameter rs = e at herror
  generalize n.errorParameter ss = f at herror
  rcases Parameter.errorIndex m.parameters with _ | i
  · exact hrules
  · cases herror with
    | none => exact hrules
    | some _ => exact forall₂_filter hrules fun r s hrs => congrArg not (hrs.isLiveFor i)

theorem loggerName_congr (hname : m.name = n.name) (hscopes : m.scopes = n.scopes)
    (hconfig : m.config = n.config) : m.loggerName = n.loggerName := by
  unfold loggerName loggerName.derived
  rw [hname, hscopes, hconfig]

/-- **Metadata that agree have plans that agree**, or cannot be planned for the same reason. The
name is the same on both sides, so that the message and the name of the logger are equal, not only
related. -/
theorem plan_agrees (h : m.Agrees S n) : EndAlike (Plan.Agrees S) m.plan n.plan := by
  unfold plan
  rw [← h.errorIndex, ← h.name, ← h.config]
  refine (Rule.agrees_resolve h.parameters _ _ _).bind ?_
  rintro ⟨rs, message⟩ ⟨ss, message'⟩ ⟨hrules, hmessage⟩
  obtain rfl : message = message' := hmessage
  refine .ok ⟨loggerName_congr h.name h.scopes h.config, ?_, rfl, agrees_withoutError h hrules,
    agrees_errorParameter h hrules, h.returnsValue⟩
  simp only [level, h.config, h.scopes]

end Metadata

end

/-! ## Equal metadata

Equality is decided by recursion on the two sides. It is the case of agreement in which the
annotations are equal, and what is left to show is that equal annotations say the same where a plan
looks into them. -/

/-- Whether two parameters are equal, annotations by their meaning. -/
def Parameter.equal (p q : Parameter) : Bool :=
  p.index = q.index && p.name = q.name && p.hint.equal q.hint && p.dontLog = q.dontLog

/-- Whether two lists of parameters are equal one by one. -/
def Parameter.equalAll : List Parameter → List Parameter → Bool
  | [], [] => true
  | p :: ps, q :: qs => p.equal q && equalAll ps qs
  | _, _ => false

/-- Whether the metadata of two callables are equal, annotations by their meaning. -/
def Metadata.equal (m n : Metadata) : Bool :=
  m.name = n.name && Parameter.equalAll m.parameters n.parameters && m.scopes = n.scopes &&
    m.config = n.config && m.returns.equal n.returns

/-- Annotations agree that are equal. -/
def TypeHint.Equals (_name : String) (a b : TypeHint) : Prop :=
  a.equal b = true

theorem Parameter.equal_iff {p q : Parameter} : p.equal q = true ↔ p.Agrees TypeHint.Equals q := by
  simp only [Parameter.equal, Bool.and_eq_true, decide_eq_true_iff]
  constructor
  · rintro ⟨⟨⟨hindex, hname⟩, hhint⟩, hlog⟩
    exact ⟨hindex, hname, hhint, hlog⟩
  · rintro ⟨hindex, hname, hhint, hlog⟩
    exact ⟨⟨⟨hindex, hname⟩, hhint⟩, hlog⟩

theorem Parameter.equalAll_iff {ps qs : List Parameter} :
    equalAll ps qs = true ↔ List.Forall₂ (Parameter.Agrees TypeHint.Equals) ps qs := by
  induction ps generalizing qs with
  | nil => cases qs <;> simp [equalAll]
  | cons p ps ih => cases qs <;> simp [equalAll, ih, Parameter.equal_iff]

theorem Rule.equal_of_agrees {r s : Rule} (h : r.Agrees TypeHint.Equals s) : r.equal s = true := by
  cases h with
  | live i h => simpa [Rule.equal, TypeHint.Equals] using h
  | static text => simp [Rule.equal]

theorem Rule.equalAll_of_agrees {rs ss : List Rule}
    (h : List.Forall₂ (Rule.Agrees TypeHint.Equals) rs ss) : equalAll rs ss = true := by
  induction h with
  | nil => rfl
  | cons hrs _ ih => rw [equalAll, Rule.equal_of_agrees hrs, ih, Bool.and_self]

theorem ErrorParameter.equal_of_agrees {e f : ErrorParameter} (h : e.Agrees TypeHint.Equals f) :
    e.equal f = true := by
  have hhint : e.hint.equal f.hint = true := h.hint
  simp [ErrorParameter.equal, h.index, h.name, hhint, h.positions]

theorem Plan.equal_of_agrees {p q : Plan} (h : p.Agrees TypeHint.Equals q) : p.equal q = true := by
  have hrules := Rule.equalAll_of_agrees h.parameters
  have herror := h.errorParameter
  simp only [Plan.equal, h.logger, h.level, h.message, h.logResult, hrules, decide_true,
    Bool.true_and, Bool.and_true]
  generalize p.errorParameter = e at herror
  generalize q.errorParameter = f at herror
  cases herror with
  | none => rfl
  | some hef => exact ErrorParameter.equal_of_agrees hef

namespace Metadata

/-- Equal annotations say the same where a plan looks into them: the one of the last parameter, and
the one of the result. -/
theorem Agrees.of_equal {m n : Metadata} (h : m.equal n = true) : m.Agrees TypeHint.Equals n := by
  simp only [Metadata.equal, Bool.and_eq_true, decide_eq_true_iff] at h
  obtain ⟨⟨⟨⟨hname, hparameters⟩, hscopes⟩, hconfig⟩, hreturns⟩ := h
  have hall := Parameter.equalAll_iff.mp hparameters
  refine ⟨hname, hall, hscopes, hconfig, ?_, TypeHint.returnsValue_congr hreturns⟩
  refine Parameter.errorIndex_congr hall.length_eq ?_
  have hlast := rel_getLast? hall
  generalize m.parameters.getLast? = p at hlast ⊢
  generalize n.parameters.getLast? = q at hlast ⊢
  cases hlast with
  | none => exact .none
  | some hpq => exact .some (TypeHint.isExceptionType_congr hpq.hint)

/-- **Equal metadata have equal plans.** There are plans wherever the numerals in the slots of the
message can be read; where they cannot, both fail alike. -/
theorem plan_equal {m n : Metadata} (h : m.equal n = true) :
    (Template.IsReadable m.config.message →
      ∃ p q, m.plan = .ok p ∧ n.plan = .ok q ∧ p.equal q = true) ∧
    (∀ k, Template.StopsAt k m.config.message →
      m.plan = .error (.longNumeral k) ∧ n.plan = .error (.longNumeral k)) := by
  have hagrees := Agrees.of_equal h
  constructor
  · intro hreadable
    obtain ⟨p, hp⟩ := exists_plan_of_isReadable hreadable
    obtain ⟨q, hq⟩ := exists_plan_of_isReadable (hagrees.config ▸ hreadable)
    have hends := plan_agrees hagrees
    rw [hp, hq] at hends
    cases hends with
    | ok hpq => exact ⟨p, q, hp, hq, Plan.equal_of_agrees hpq⟩
  · intro k hk
    exact ⟨plan_of_stopsAt hk, plan_of_stopsAt (hagrees.config ▸ hk)⟩

/-- A callable whose last parameter takes one of two exceptions or nothing. -/
def retry (hint returns : TypeHint) : Metadata where
  name := "retry"
  parameters := [⟨0, "times", .any, false⟩, ⟨1, "error", hint, false⟩]
  config := { message := "again \x7b\x7d after \x7b\x7d" }
  returns := returns

/-- Its exceptions may be listed in any order and spelling. -/
theorem plan_equal_retry :
    ∃ p q,
      (retry (.union [.ofKnown .osError, .ofKnown .keyError, .noneType])
        (.builtinList (.union [.ofKnown .int, .noneType]))).plan = .ok p ∧
      (retry (.alternatives [.noneType, .ofKnown .keyError, .ofKnown .osError])
        (.builtinList (.alternatives [.noneType, .ofKnown .int]))).plan = .ok q ∧
      p.equal q = true := by
  refine (plan_equal (by cbv)).1 fun body hbody => Rule.isReadable_of_length ?_
  revert body
  decide

end Metadata

end CallLog
