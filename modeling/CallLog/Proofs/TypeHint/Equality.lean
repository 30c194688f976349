import CallLog.Proofs.TypeHint
import Mathlib.Data.List.Forall2

/-!
# Equal annotations

Annotations are compared part by part, and unions as sets, whatever their spelling. `Matches` says
so by the kinds of annotations, and `equal_iff` that it is what `TypeHint.equal` decides. What a
plan asks of an annotation has the same answer for equal ones: whether it is the class of `None`,
whether it describes exceptions, and whether a result declared so carries a value.
-/

namespace CallLog

namespace TypeHint

/-! ## Parts

Annotations are nested in lists, so induction on them is not the one that comes with the type. The
parts of an annotation are all that stands directly in it, whichever its kind, and `ofParts` is the
induction on these. -/

/-- The annotations that an annotation is made of. -/
def parts : TypeHint → List TypeHint
  | union as | alternatives as | generic _ as => as
  | listOf a | typeOf a | annotated a _ => [a]
  | _ => []

theorem sizeOf_lt_of_mem_parts {a b : TypeHint} (h : a ∈ b.parts) : sizeOf a < sizeOf b := by
  cases b with
  | union as | alternatives as | generic k as =>
    have hlt : sizeOf a < sizeOf as := List.sizeOf_lt_of_mem h
    simp only [union.sizeOf_spec, alternatives.sizeOf_spec, generic.sizeOf_spec]
    omega
  | listOf b | typeOf b | annotated b marks =>
    obtain rfl := List.mem_singleton.mp h
    simp only [listOf.sizeOf_spec, typeOf.sizeOf_spec, annotated.sizeOf_spec]
    omega
  | _ => cases h

/-- What holds of an annotation if it holds of all its parts holds of every annotation. -/
theorem ofParts {P : TypeHint → Prop} (h : ∀ a, (∀ b ∈ a.parts, P b) → P a) (a : TypeHint) : P a :=
  h a fun b _ => ofParts h b
termination_by sizeOf a
decreasing_by exact sizeOf_lt_of_mem_parts ‹_›

theorem parts_of_members? {a : TypeHint} {as : List TypeHint} (h : a.members? = some as) :
    a.parts = as := by
  cases a <;> cases h <;> rfl

/-! ## Equality

Equality is decided by recursion on the first annotation, with one function for lists in order and
others for lists as sets. Here it is turned into one relation with a case for each way of being
equal, and the rest is proved by cases of that. -/

theorem allIn_iff {as bs : List TypeHint} :
    allIn as bs = true ↔ ∀ a ∈ as, ∃ b ∈ bs, a.equal b = true := by
  induction as with
  | nil => simp [allIn]
  | cons a as ih => simp [allIn, ih]

theorem isIn_iff {as : List TypeHint} {b : TypeHint} :
    isIn as b = true ↔ ∃ a ∈ as, a.equal b = true := by
  induction as with
  | nil => simp [isIn]
  | cons a as ih => simp [isIn, ih]

theorem sameItems_iff {as bs : List TypeHint} :
    sameItems as bs = true ↔ List.Forall₂ (fun a b => a.equal b = true) as bs := by
  induction as generalizing bs with
  | nil => cases bs <;> simp [sameItems]
  | cons a as ih => cases bs <;> simp [sameItems, ih]

theorem equal_of_members? {a b : TypeHint} {as bs : List TypeHint} (ha : a.members? = some as)
    (hb : b.members? = some bs) : a.equal b = (allIn as bs && bs.all fun n => isIn as n) := by
  cases a <;> cases ha <;> cases b <;> cases hb <;> rw [equal]

/-- How two annotations are equal: they are one and the same, they are made in the same way of equal
parts, or they are unions with the same members. -/
inductive Matches : TypeHint → TypeHint → Prop where
  | same (a : TypeHint) (h : a.parts = []) : Matches a a
  | listOf {a b : TypeHint} (h : a.equal b = true) : Matches (listOf a) (listOf b)
  | typeOf {a b : TypeHint} (h : a.equal b = true) : Matches (typeOf a) (typeOf b)
  | annotated {a b : TypeHint} (marks : List Mark) (h : a.equal b = true) :
      Matches (annotated a marks) (annotated b marks)
  | generic {as bs : List TypeHint} (origin : Origin)
      (h : List.Forall₂ (fun a b => a.equal b = true) as bs) :
      Matches (generic origin as) (generic origin bs)
  /-- the spelling of a union does not count -/
  | sets {a b : TypeHint} {as bs : List TypeHint} (ha : a.members? = some as)
      (hb : b.members? = some bs) (hab : ∀ m ∈ as, ∃ n ∈ bs, m.equal n = true)
      (hba : ∀ n ∈ bs, ∃ m ∈ as, m.equal n = true) : Matches a b

theorem Matches.of_members? {a b : TypeHint} {as bs : List TypeHint} (ha : a.members? = some as)
    (hb : b.members? = some bs) (h : a.equal b = true) : Matches a b := by
  rw [equal_of_members? ha hb, Bool.and_eq_true, allIn_iff, List.all_eq_true] at h
  simp only [isIn_iff] at h
  exact .sets ha hb h.1 h.2

/-- The two annotations are of the same kind, apart from unions, of which there are two kinds. In
all other pairs nothing is equal. -/
theorem Matches.of_equal {a b : TypeHint} (h : a.equal b = true) : Matches a b := by
  cases a with
  | union as | alternatives as =>
    cases b with
    | union bs | alternatives bs => exact .of_members? rfl rfl h
    | _ => simp [equal] at h
  | listOf a =>
    cases b with
    | listOf b => exact .listOf (by rwa [equal] at h)
    | _ => simp [equal] at h
  | typeOf a =>
    cases b with
    | typeOf b => exact .typeOf (by rwa [equal] at h)
    | _ => simp [equal] at h
  | annotated a marks =>
    cases b with
    | annotated b marks' =>
      rw [equal, Bool.and_eq_true, decide_eq_true_iff] at h
      obtain ⟨h, rfl⟩ := h
      exact .annotated marks h
    | _ => simp [equal] at h
  | generic k as =>
    cases b with
    | generic l bs =>
      rw [equal, Bool.and_eq_true, decide_eq_true_iff, sameItems_iff] at h
      obtain ⟨rfl, h⟩ := h
      exact .generic k h
    | _ => simp [equal] at h
  | _ =>
    -- what has no parts equals itself only
    cases b <;> simp [equal] at h
    grind [Matches, parts]

/-- **Which annotations are equal.** -/
theorem equal_iff {a b : TypeHint} : a.equal b = true ↔ Matches a b := by
  refine ⟨.of_equal, fun h => ?_⟩
  cases h with
  | same _ h =>
    cases a with
    | union as | alternatives as | generic k as =>
      obtain rfl : as = [] := h
      simp [equal, allIn, sameItems]
    | listOf | typeOf | annotated => cases h
    | _ => simp [equal]
  | listOf h | typeOf h => rwa [equal]
  | annotated marks h => simp [equal, h]
  | generic k h => simp [equal, sameItems_iff.mpr h]
  | sets ha hb hab hba =>
    rw [equal_of_members? ha hb, Bool.and_eq_true, allIn_iff, List.all_eq_true]
    simp only [isIn_iff]
    exact ⟨hab, hba⟩

theorem equal_refl (a : TypeHint) : a.equal a = true := by
  induction a using ofParts with
  | h a ih =>
    rw [equal_iff]
    cases a with
    | union ms | alternatives ms =>
      exact .sets rfl rfl (fun m hm => ⟨m, hm, ih m hm⟩) fun m hm => ⟨m, hm, ih m hm⟩
    | generic k as => exact .generic k (List.forall₂_same.mpr ih)
    | listOf b => exact .listOf (ih b List.mem_cons_self)
    | typeOf b => exact .typeOf (ih b List.mem_cons_self)
    | annotated b marks => exact .annotated marks (ih b List.mem_cons_self)
    | _ => exact .same _ rfl

/-- By induction on the first annotation. Only for unions it matters that both directions are asked
for. -/
theorem equal_symm {a b : TypeHint} (h : a.equal b = true) : b.equal a = true := by
  induction a using ofParts generalizing b with
  | h a ih =>
    rw [equal_iff] at h ⊢
    cases h with
    | same _ h => exact .same _ h
    | listOf h => exact .listOf (ih _ List.mem_cons_self h)
    | typeOf h => exact .typeOf (ih _ List.mem_cons_self h)
    | annotated marks h => exact .annotated marks (ih _ List.mem_cons_self h)
    | @generic as bs k h =>
      have hback : List.Forall₂ (fun a b => b.equal a = true) as bs := by
        refine ((List.forall₂_and_left _ _).mpr ⟨fun a ha => ha, h⟩).imp fun a b hab => ?_
        exact ih a hab.1 hab.2
      exact .generic k hback.flip
    | sets ha hb hab hba =>
      rw [parts_of_members? ha] at ih
      refine .sets hb ha (fun n hn => ?_) fun m hm => ?_
      · obtain ⟨m, hm, hmn⟩ := hba n hn
        exact ⟨m, hm, ih m hm hmn⟩
      · obtain ⟨n, hn, hmn⟩ := hab m hm
        exact ⟨n, hn, ih m hm hmn⟩

/-- What equals a union is a union with the same members. -/
theorem members_of_equal {a b : TypeHint} {as : List TypeHint} (ha : a.members? = some as)
    (h : a.equal b = true) :
    ∃ bs, b.members? = some bs ∧ (∀ m ∈ as, ∃ n ∈ bs, m.equal n = true) ∧
      ∀ n ∈ bs, ∃ m ∈ as, m.equal n = true := by
  cases equal_iff.mp h with
  | same =>
    exact ⟨as, ha, fun m hm => ⟨m, hm, equal_refl m⟩, fun m hm => ⟨m, hm, equal_refl m⟩⟩
  | sets ha' hb hab hba =>
    obtain rfl := Option.some.inj (ha.symm.trans ha')
    exact ⟨_, hb, hab, hba⟩
  | _ => cases ha

theorem forall₂_trans {as bs cs : List TypeHint}
    (h : ∀ a ∈ as, ∀ {b c : TypeHint}, a.equal b = true → b.equal c = true → a.equal c = true)
    (hab : List.Forall₂ (fun a b => a.equal b = true) as bs)
    (hbc : List.Forall₂ (fun b c => b.equal c = true) bs cs) :
    List.Forall₂ (fun a c => a.equal c = true) as cs := by
  induction hab generalizing cs with
  | nil =>
    cases hbc
    exact .nil
  | cons hab _ ih =>
    obtain ⟨ha, has⟩ := List.forall_mem_cons.mp h
    cases hbc with
    | cons hbc hrest => exact .cons (ha hab hbc) (ih has hrest)

/-- By induction on the first annotation. The second comparison is of the same kind as the first,
where the one in the middle is a union whichever its spelling. -/
theorem equal_trans {a b c : TypeHint} (hab : a.equal b = true) (hbc : b.equal c = true) :
    a.equal c = true := by
  induction a using ofParts generalizing b c with
  | h a ih =>
    cases equal_iff.mp hab with
    | same => exact hbc
    | listOf hab' =>
      cases equal_iff.mp hbc with
      | same => exact hab
      | listOf hbc' => exact equal_iff.mpr (.listOf (ih _ List.mem_cons_self hab' hbc'))
      | sets hb => cases hb
    | typeOf hab' =>
      cases equal_iff.mp hbc with
      | same => exact hab
      | typeOf hbc' => exact equal_iff.mpr (.typeOf (ih _ List.mem_cons_self hab' hbc'))
      | sets hb => cases hb
    | annotated marks hab' =>
      cases equal_iff.mp hbc with
      | same => exact hab
      | annotated _ hbc' =>
        exact equal_iff.mpr (.annotated marks (ih _ List.mem_cons_self hab' hbc'))
      | sets hb => cases hb
    | @generic as bs k hab' =>
      cases equal_iff.mp hbc with
      | same => exact hab
      | @generic _ cs _ hbc' => exact equal_iff.mpr (.generic k (forall₂_trans ih hab' hbc'))
      | sets hb => cases hb
    | @sets _ _ as bs ha hb hab' hba' =>
      obtain ⟨cs, hc, hbc', hcb'⟩ := members_of_equal hb hbc
      rw [parts_of_members? ha] at ih
      refine equal_iff.mpr (.sets ha hc (fun m hm => ?_) fun n hn => ?_)
      · obtain ⟨k, hk, hmk⟩ := hab' m hm
        obtain ⟨n, hn, hkn⟩ := hbc' k hk
        exact ⟨n, hn, ih m hm hmk hkn⟩
      · obtain ⟨k, hk, hkn⟩ := hcb' n hn
        obtain ⟨m, hm, hmk⟩ := hba' k hk
        exact ⟨m, hm, ih m hm hmk hkn⟩

/-! ## What equal annotations say

What a plan asks of an annotation looks at the members of a union as a set, and at nothing else that
equal annotations may differ in. -/

variable {a b : TypeHint}

theorem isNoneType_congr (h : a.equal b = true) : a.isNoneType = b.isNoneType := by
  cases equal_iff.mp h with
  | sets ha hb => cases a <;> cases ha <;> cases b <;> cases hb <;> rfl
  | _ => rfl

/-- **Equal results carry a value** or none. -/
theorem returnsValue_congr (h : a.equal b = true) : a.returnsValue = b.returnsValue := by
  cases equal_iff.mp h with
  | sets ha hb => cases a <;> cases ha <;> cases b <;> cases hb <;> rfl
  | _ => rfl

/-- By induction on what the first annotation describes: each member of the other union is equal to
one of the first. -/
theorem OfExceptions.of_equal (ha : a.OfExceptions) (h : a.equal b = true) : b.OfExceptions := by
  induction ha generalizing b with
  | cls hc =>
    cases equal_iff.mp h with
    | same => exact .cls hc
    | sets ha => cases ha
  | members hms hany _ ih =>
    obtain ⟨ns, hns, hab, hba⟩ := members_of_equal hms h
    refine .members hns ?_ fun n hn hnone => ?_
    · obtain ⟨m, hm, hnone⟩ := hany
      obtain ⟨n, hn, hmn⟩ := hab m hm
      exact ⟨n, hn, (isNoneType_congr hmn).symm.trans hnone⟩
    · obtain ⟨m, hm, hmn⟩ := hba n hn
      exact ih m hm ((isNoneType_congr hmn).trans hnone) hmn

/-- **Equal annotations describe exceptions** or do not, whatever the order of their members and
however they are spelled. -/
theorem isExceptionType_congr (h : a.equal b = true) : a.isExceptionType = b.isExceptionType := by
  rw [Bool.eq_iff_iff, isExceptionType_iff, isExceptionType_iff]
  exact ⟨fun ha => ha.of_equal h, fun hb => hb.of_equal (equal_symm h)⟩

end TypeHint

end CallLog
