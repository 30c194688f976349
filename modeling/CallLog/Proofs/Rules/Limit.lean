import CallLog.Proofs.Plan.Visible

/-!
# Messages that cannot be read

Only a numeral can make a message unreadable: one with more digits than a numeral may have. The
first such numeral among the slots is where making the rules stops. `Rule.StopsAt` says which one
that is; `resolve_of_stopsAt` and `plan_of_stopsAt` say that it decides what making the plan of a
callable fails with, whatever the callable is. In all other messages there is a rule for every slot
(`exists_resolve`), and so there is a plan (`exists_plan_of_isReadable`).
-/

namespace CallLog

namespace Rule

/-- The first numeral with too many digits among the bodies of some slots has `n` of them. -/
inductive StopsAt (n : Nat) : List (List Char) → Prop where
  | here {body : List Char} {sign : Int} {ds : List Char} (rest : List (List Char))
      (hnumeral : Text.IsNumeral body sign ds) (hlength : ds.length = n)
      (hlong : Text.digitLimit < n) : StopsAt n (body :: rest)
  | later {body : List Char} {rest : List (List Char)} (hbody : IsReadable body)
      (hrest : StopsAt n rest) : StopsAt n (body :: rest)

/-- Bodies that are not all read hold a numeral with too many digits. Going from the left, the first
one that is not read is such a numeral, and all before it are read. -/
theorem forall_isReadable_or_stopsAt (bodies : List (List Char)) :
    (∀ body ∈ bodies, IsReadable body) ∨ ∃ n, StopsAt n bodies := by
  induction bodies with
  | nil => exact .inl (by simp)
  | cons body bodies ih =>
    by_cases hbody : IsReadable body
    · rcases ih with hbodies | ⟨n, hn⟩
      · exact .inl (List.forall_mem_cons.mpr ⟨hbody, hbodies⟩)
      · exact .inr ⟨n, .later hbody hn⟩
    · simp only [IsReadable, not_forall, Nat.not_le] at hbody
      obtain ⟨sign, ds, hnumeral, hlong⟩ := hbody
      exact .inr ⟨ds.length, .here bodies hnumeral rfl hlong⟩

/-- A numeral with too many digits is not read. -/
theorem reference_of_isNumeral {body : List Char} {sign : Int} {ds : List Char}
    (hnumeral : Text.IsNumeral body sign ds) (hlong : Text.digitLimit < ds.length) :
    reference body = .error (.longNumeral ds.length) := by
  rcases body with _ | ⟨c, cs⟩
  · cases hnumeral with
    | bare hne hds => exact absurd rfl hne
  · simp only [reference, Text.numeral?_eq_some_iff.mpr hnumeral, if_pos hlong]

/-- **Making the rules stops** at the first numeral with too many digits, whatever the parameters
are. The rules before it are made and lost. -/
theorem explicitRules_of_stopsAt {n : Nat} {bodies : List (List Char)} (h : StopsAt n bodies)
    (parameters : List Parameter) (before : List (List Char)) :
    explicitRules parameters (before.count []) bodies = .error (.longNumeral n) := by
  induction h generalizing before with
  | here rest hnumeral hlength hlong =>
    subst hlength
    rw [explicitRules, reference_of_isNumeral hnumeral hlong]
    rfl
  | later hbody hrest ih =>
    obtain ⟨rule, -, hcons⟩ := explicitRules_cons parameters before hbody
    rw [hcons, ih]
    rfl

end Rule

namespace Template

/-- All slots of a message can be read. -/
def IsReadable (message : String) : Prop :=
  ∀ body ∈ (ofText message.toList).bodies, Rule.IsReadable body

/-- The first numeral with too many digits in the slots of a message has `n` of them. -/
def StopsAt (n : Nat) (message : String) : Prop :=
  Rule.StopsAt n (ofText message.toList).bodies

theorem isReadable_or_stopsAt (message : String) :
    IsReadable message ∨ ∃ n, StopsAt n message :=
  Rule.forall_isReadable_or_stopsAt _

/-- A message without slots can be read. -/
theorem StopsAt.ne_empty {n : Nat} {message : String} (h : StopsAt n message) : message ≠ "" := by
  rintro rfl
  cases h

end Template

namespace Rule

variable {message : String}

/-- **There is a rule for every slot** of a message that can be read. An empty message is not looked
into: its rules are those of the parameters. -/
theorem exists_resolve (h : Template.IsReadable message) (name : String)
    (parameters : List Parameter) (errorIndex : Option Int) :
    ∃ rules template, resolve name parameters message errorIndex = .ok (rules, template) := by
  by_cases hmessage : message = ""
  · rw [resolve, if_pos hmessage]
    exact ⟨_, _, rfl⟩
  · obtain ⟨rules, hrules, -⟩ := exists_explicitRules parameters [] _ h
    rw [List.count_nil] at hrules
    refine ⟨rules, String.ofList (Template.ofText message.toList).strip.toText, ?_⟩
    simp only [resolve, if_neg hmessage, hrules]
    rfl

theorem resolve_of_stopsAt {n : Nat} (h : Template.StopsAt n message) (name : String)
    (parameters : List Parameter) (errorIndex : Option Int) :
    resolve name parameters message errorIndex = .error (.longNumeral n) := by
  have hrules := explicitRules_of_stopsAt h parameters []
  rw [List.count_nil] at hrules
  simp only [resolve, if_neg h.ne_empty, hrules]
  rfl

end Rule

namespace Metadata

variable {m : Metadata}

/-- **There is a plan** for a message that can be read. -/
theorem exists_plan_of_isReadable (h : Template.IsReadable m.config.message) :
    ∃ plan, m.plan = .ok plan := by
  obtain ⟨rules, template, hresolve⟩ := Rule.exists_resolve h m.name m.parameters
    ((Parameter.errorIndex m.parameters).map Int.ofNat)
  exact ⟨_, plan_of_resolve hresolve⟩

theorem plan_of_stopsAt {n : Nat} (h : Template.StopsAt n m.config.message) :
    m.plan = .error (.longNumeral n) := by
  have hresolve := Rule.resolve_of_stopsAt h m.name m.parameters
    ((Parameter.errorIndex m.parameters).map Int.ofNat)
  simp only [plan, hresolve]
  rfl

end Metadata

end CallLog
