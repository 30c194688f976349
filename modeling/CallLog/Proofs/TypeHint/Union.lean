import CallLog.Proofs.LogPoint.Generated
import CallLog.Proofs.TypeHint.Equality

/-!
# Unions as they are spelled

A union may be spelled with a subscript, as an optional annotation or with bars, and its parts may
be unions in turn. `Spelling` is such a term, `Spelling.build` the annotation that it makes, and
`Spelling.members` the list of all that it joins, in order and with repetitions.

The annotation that is made has its members flattened, and only one of each kind; it may be one of
the two forms of unions, or its one member. `Represents` is what is kept through all of this: the
flattened members are the spelled ones, as sets. So what an annotation says as a union can be told
from its spelling; `Parameter.errorIndex_spelled` does so for the error parameter.
-/

namespace CallLog

namespace TypeHint

/-! ## Sets of members

Members are compared by equality of annotations, which is not that of terms, so sets of them are
lists up to `SameMembers`. -/

/-- Two lists hold equal annotations, in any order and number. -/
def SameMembers (as bs : List TypeHint) : Prop :=
  (∀ m ∈ as, ∃ n ∈ bs, m.equal n = true) ∧ ∀ n ∈ bs, ∃ m ∈ as, m.equal n = true

namespace SameMembers

variable {as bs cs ds : List TypeHint}

theorem refl (as : List TypeHint) : SameMembers as as :=
  ⟨fun m hm => ⟨m, hm, equal_refl m⟩, fun m hm => ⟨m, hm, equal_refl m⟩⟩

theorem trans (h : SameMembers as bs) (h' : SameMembers bs cs) : SameMembers as cs := by
  refine ⟨fun m hm => ?_, fun n hn => ?_⟩
  · obtain ⟨k, hk, hmk⟩ := h.1 m hm
    obtain ⟨n, hn, hkn⟩ := h'.1 k hk
    exact ⟨n, hn, equal_trans hmk hkn⟩
  · obtain ⟨k, hk, hkn⟩ := h'.2 n hn
    obtain ⟨m, hm, hmk⟩ := h.2 k hk
    exact ⟨m, hm, equal_trans hmk hkn⟩

theorem append (h : SameMembers as bs) (h' : SameMembers cs ds) :
    SameMembers (as ++ cs) (bs ++ ds) := by
  refine ⟨fun m hm => ?_, fun n hn => ?_⟩
  · rcases List.mem_append.mp hm with hm | hm
    · obtain ⟨n, hn, hmn⟩ := h.1 m hm
      exact ⟨n, List.mem_append_left _ hn, hmn⟩
    · obtain ⟨n, hn, hmn⟩ := h'.1 m hm
      exact ⟨n, List.mem_append_right _ hn, hmn⟩
  · rcases List.mem_append.mp hn with hn | hn
    · obtain ⟨m, hm, hmn⟩ := h.2 n hn
      exact ⟨m, List.mem_append_left _ hm, hmn⟩
    · obtain ⟨m, hm, hmn⟩ := h'.2 n hn
      exact ⟨m, List.mem_append_right _ hm, hmn⟩

end SameMembers

theorem mem_of_mem_distinct {a : TypeHint} {as : List TypeHint} (h : a ∈ distinct as) : a ∈ as := by
  induction as with
  | nil => cases h
  | cons b as ih =>
    rcases List.mem_cons.mp h with rfl | h
    · exact List.mem_cons_self
    · exact List.mem_cons_of_mem b (ih (List.mem_filter.mp h).1)

/-- What is left out of a list equals something that is kept. -/
theorem exists_mem_distinct {a : TypeHint} {as : List TypeHint} (h : a ∈ as) :
    ∃ b ∈ distinct as, b.equal a = true := by
  induction as with
  | nil => cases h
  | cons c as ih =>
    rw [distinct]
    rcases List.mem_cons.mp h with rfl | h
    · exact ⟨a, List.mem_cons_self, equal_refl a⟩
    · obtain ⟨b, hb, hba⟩ := ih h
      by_cases hcb : c.equal b = true
      · exact ⟨c, List.mem_cons_self, equal_trans hcb hba⟩
      · exact ⟨b, List.mem_cons_of_mem c (List.mem_filter.mpr ⟨hb, by simpa using hcb⟩), hba⟩

/-- To leave out what equals something before it changes the order and the number, not the set. -/
theorem sameMembers_distinct (as : List TypeHint) : SameMembers (distinct as) as :=
  ⟨fun m hm => ⟨m, mem_of_mem_distinct hm, equal_refl m⟩, fun _ hn => exists_mem_distinct hn⟩

/-! ## Flattened members

A union in a union is dissolved when the one around it is made, so the members of a union are no
unions. That is what has to be known of the parts to know it of the whole. -/

/-- The members of a union, or the one member that any other annotation is. -/
def flattened (a : TypeHint) : List TypeHint :=
  a.members?.getD [a.asMember]

/-- An annotation can be a member of a flattened union. -/
structure IsMember (a : TypeHint) : Prop where
  noUnion : a.members? = Option.none
  fixed : a.asMember = a

variable {a b c : TypeHint} {as bs ms ns : List TypeHint}

theorem flattened_of_members? (h : a.members? = some ms) : a.flattened = ms := by
  rw [flattened, h, Option.getD_some]

theorem IsMember.flattened_eq (h : a.IsMember) : a.flattened = [a] := by
  rw [flattened, h.noUnion, Option.getD_none, h.fixed]

theorem isMember_asMember (h : a.members? = Option.none) : a.asMember.IsMember := by
  cases a with
  | union | alternatives => cases h
  | _ => exact ⟨rfl, rfl⟩

theorem unionMembers_of_nested (h : a.nested = .ok b) : b.unionMembers = a.flattened := by
  obtain rfl := asMember_of_nested h
  cases a <;> rfl

theorem flatMap_unionMembers (h : as.mapM nested = .ok bs) :
    bs.flatMap unionMembers = as.flatMap flattened := by
  induction as generalizing bs with
  | nil =>
    cases h
    rfl
  | cons a as ih =>
    rw [List.mapM_cons] at h
    obtain ⟨b, hb, h⟩ := Action.except_bind_eq_ok h
    obtain ⟨bs, hbs, h⟩ := Action.except_bind_eq_ok h
    cases h
    rw [List.flatMap_cons, List.flatMap_cons, unionMembers_of_nested hb, ih hbs]

/-- A union of flattened members has each of them once, and so has the one member of a union of
one. -/
theorem flattened_collapse {spelling : List TypeHint → TypeHint}
    (hspelling : ∀ ms, (spelling ms).members? = some ms) (hms : ∀ m ∈ ms, m.IsMember) :
    (collapse spelling ms).flattened = distinct ms := by
  unfold collapse
  split
  · rename_i m hm
    have hmem : m ∈ distinct ms := hm ▸ List.mem_cons_self
    rw [hm, (hms m (mem_of_mem_distinct hmem)).flattened_eq]
  · exact flattened_of_members? (hspelling _)

/-- A subscript joins the members of all its arguments, and keeps each of them once. -/
theorem flattened_unionOf (h : unionOf as = .ok c) (has : ∀ m ∈ as.flatMap flattened, m.IsMember) :
    c.flattened = distinct (as.flatMap flattened) := by
  cases as with
  | nil => cases h
  | cons a as =>
    obtain ⟨bs, hbs, h⟩ := Action.except_bind_eq_ok h
    cases h
    rw [← flatMap_unionMembers hbs] at has ⊢
    exact flattened_collapse (fun _ => rfl) has

theorem barMembers_eq (h : a.isPlain = true) : a.barMembers = a.flattened := by
  cases a with
  | cls | none | generic | alternatives | form | kind => rfl
  | _ => cases h

/-- A bar does the same for two sides, whichever of the two forms of unions it makes. Where it makes
neither it fails, and nothing is said. -/
theorem flattened_bar (h : bar a b = .ok c) (hab : ∀ m ∈ [a, b].flatMap flattened, m.IsMember) :
    c.flattened = distinct ([a, b].flatMap flattened) := by
  unfold bar at h
  split at h
  · cases h
  · split at h
    · rename_i hplain
      rw [Bool.and_eq_true] at hplain
      cases h
      have hflat : [a, b].flatMap flattened = a.flattened ++ b.flattened := by simp
      rw [hflat] at hab ⊢
      rw [barMembers_eq hplain.1, barMembers_eq hplain.2]
      exact flattened_collapse (fun _ => rfl) hab
    · split at h
      · exact flattened_unionOf h hab
      · cases h

/-! ## What some annotations join

`Represents` is the invariant of building. It is about lists of annotations, since a subscript takes
a list; a built annotation is a list of one. -/

/-- Some annotations, joined, have the members in a list: their flattened members are no unions, and
they are the ones in the list. -/
structure Represents (as ms : List TypeHint) : Prop where
  flat : ∀ m ∈ as.flatMap flattened, m.IsMember
  same : SameMembers (as.flatMap flattened) ms

namespace Represents

theorem nil : Represents [] [] :=
  ⟨by simp, .refl []⟩

theorem append (h : Represents as ms) (h' : Represents bs ns) :
    Represents (as ++ bs) (ms ++ ns) := by
  refine ⟨?_, ?_⟩ <;> rw [List.flatMap_append]
  · exact List.forall_mem_append.mpr ⟨h.flat, h'.flat⟩
  · exact h.same.append h'.same

theorem single (h : a.members? = Option.none) : Represents [a] [a.asMember] := by
  have hflat : [a].flatMap flattened = [a.asMember] := by simp [flattened, h]
  refine ⟨?_, ?_⟩ <;> rw [hflat]
  · simpa using isMember_asMember h
  · exact .refl _

/-- What has the members of some annotations, each of them once, joins the same. -/
theorem of_flattened (h : Represents as ms) (hc : c.flattened = distinct (as.flatMap flattened)) :
    Represents [c] ms := by
  have hflat : [c].flatMap flattened = distinct (as.flatMap flattened) := by simpa using hc
  refine ⟨?_, ?_⟩ <;> rw [hflat]
  · exact fun m hm => h.flat m (mem_of_mem_distinct hm)
  · exact (sameMembers_distinct _).trans h.same

theorem unionOf (h : Represents as ms) (hc : unionOf as = .ok c) : Represents [c] ms :=
  h.of_flattened (flattened_unionOf hc h.flat)

theorem bar (h : Represents [a, b] ms) (hc : bar a b = .ok c) : Represents [c] ms :=
  h.of_flattened (flattened_bar hc h.flat)

end Represents

/-! ## Spelled unions

The spelling is a tree, and the annotation that it makes is built from the leaves up. The members
are read off the tree without building anything. -/

/-- How a union is spelled. -/
inductive Spelling where
  /-- an annotation that is no union -/
  | single (a : TypeHint) (h : a.members? = Option.none)
  | union (parts : List Spelling)
  | optional (part : Spelling)
  | bar (left right : Spelling)

namespace Spelling

mutual

/-- The annotation that a spelling makes, if it makes one. -/
def build : Spelling → Except Fault TypeHint
  | single a _ => .ok a
  | union parts => do unionOf (← buildAll parts)
  | optional part => do optionalOf (← part.build)
  | bar left right => do TypeHint.bar (← left.build) (← right.build)

/-- The annotations that some spellings make. -/
def buildAll : List Spelling → Except Fault (List TypeHint)
  | [] => .ok []
  | part :: parts => do
    let a ← part.build
    return a :: (← buildAll parts)

end

mutual

/-- All that a spelling joins, in order. -/
def members : Spelling → List TypeHint
  | single a _ => [a.asMember]
  | union parts => membersAll parts
  | optional part => part.members ++ [noneType]
  | bar left right => left.members ++ right.members

/-- All that some spellings join. -/
def membersAll : List Spelling → List TypeHint
  | [] => []
  | part :: parts => part.members ++ membersAll parts

end

mutual

/-- **An annotation has the members of its spelling**, by induction on the spelling. The two
statements, for one spelling and for a list of them, go hand in hand. -/
theorem represents_build :
    ∀ (s : Spelling) {a : TypeHint}, s.build = .ok a → Represents [a] s.members
  | single a h, _, hbuild => by
    cases hbuild
    exact .single h
  | union parts, a, hbuild => by
    obtain ⟨as, has, hunion⟩ := Action.except_bind_eq_ok hbuild
    exact (represents_buildAll parts has).unionOf hunion
  | optional part, a, hbuild => by
    obtain ⟨b, hb, hunion⟩ := Action.except_bind_eq_ok hbuild
    exact ((represents_build part hb).append (.single rfl)).unionOf hunion
  | bar left right, a, hbuild => by
    obtain ⟨b, hb, hbuild⟩ := Action.except_bind_eq_ok hbuild
    obtain ⟨c, hc, hbar⟩ := Action.except_bind_eq_ok hbuild
    exact ((represents_build left hb).append (represents_build right hc)).bar hbar

theorem represents_buildAll :
    ∀ (parts : List Spelling) {as : List TypeHint}, buildAll parts = .ok as →
      Represents as (membersAll parts)
  | [], _, hbuild => by
    cases hbuild
    exact .nil
  | part :: parts, _, hbuild => by
    obtain ⟨a, ha, hbuild⟩ := Action.except_bind_eq_ok hbuild
    obtain ⟨as, has, hbuild⟩ := Action.except_bind_eq_ok hbuild
    cases hbuild
    exact (represents_build part ha).append (represents_buildAll parts has)

end

end Spelling

/-! ## Spelled unions of exceptions

Whether an annotation describes exceptions is told by its flattened members as a set, so it is told
by the spelled ones. An annotation that is no union is its own only member. -/

theorem isExceptionType_noneType : noneType.isExceptionType = false := by
  rw [noneType, isExceptionType]
  rfl

theorem eq_noneType (h : a.isNoneType = true) : a = noneType := by
  unfold isNoneType at h
  split at h
  · rfl
  · cases h

theorem isExceptionType_asMember (a : TypeHint) :
    a.asMember.isExceptionType = a.isExceptionType := by
  cases a with
  | none =>
    rw [asMember, isExceptionType_noneType]
    simp [isExceptionType]
  | text => simp [asMember, isExceptionType]
  | _ => rfl

/-- A union of one annotation describes exceptions if that does. -/
theorem isExceptionType_union_singleton (a : TypeHint) :
    (union [a]).isExceptionType = a.isExceptionType := by
  rw [isExceptionType]
  rcases hnone : a.isNoneType with _ | _
  · simp [areExceptionTypes, hnone]
  · obtain rfl := eq_noneType hnone
    rw [isExceptionType_noneType]
    rfl

/-- An annotation describes exceptions if the union of its members does. -/
theorem isExceptionType_eq_flattened (a : TypeHint) :
    a.isExceptionType = (union a.flattened).isExceptionType := by
  rcases hms : a.members? with _ | ms
  · rw [flattened, hms, Option.getD_none, isExceptionType_union_singleton, isExceptionType_asMember]
  · rw [flattened_of_members? hms, isExceptionType_of_members? hms,
      isExceptionType_of_members? (a := union ms) rfl]

/-- An annotation that is no union describes exceptions if it is a class of them. -/
theorem isExceptionType_iff_cls (h : a.members? = Option.none) :
    a.isExceptionType = true ↔ ∃ c : Class, a = .cls c ∧ c.derivesFrom .baseException = true := by
  cases a with
  | cls c => simp [isExceptionType, Class.isRaisable]
  | union | alternatives => cases h
  | _ => simp [isExceptionType]

theorem members?_of_equal (h : a.equal b = true) (ha : a.members? = Option.none) :
    b.members? = Option.none := by
  rcases hb : b.members? with _ | bs
  · rfl
  · obtain ⟨as, has, -⟩ := members_of_equal hb (equal_symm h)
    cases ha.symm.trans has

/-- Of the members of a spelled union one is not the class of `None`, and every such member is a
class of exceptions. -/
def Spelling.OfExceptions (s : Spelling) : Prop :=
  (∃ m ∈ s.members, m.isNoneType = false) ∧
    ∀ m ∈ s.members, m.isNoneType = false →
      ∃ c : Class, m = .cls c ∧ c.derivesFrom .baseException = true

/-- **A spelled union describes exceptions** if its members do. Neither the order of the members nor
how often one of them is spelled matters, nor how the union is put together. -/
theorem isExceptionType_build {s : Spelling} (h : s.build = .ok a) :
    a.isExceptionType = true ↔ s.OfExceptions := by
  obtain ⟨hflat, hsame⟩ := s.represents_build h
  have hsingle : [a].flatMap flattened = a.flattened := by simp
  rw [hsingle] at hflat hsame
  have hequal : (union a.flattened).equal (union s.members) = true :=
    equal_iff.mpr (.sets rfl rfl hsame.1 hsame.2)
  -- the members are no unions either, as they equal flattened ones
  have hmembers : ∀ m ∈ s.members, m.members? = Option.none := by
    intro m hm
    obtain ⟨k, hk, hkm⟩ := hsame.2 m hm
    exact members?_of_equal hkm (hflat k hk).noUnion
  rw [isExceptionType_eq_flattened, isExceptionType_congr hequal,
    isExceptionType_of_members? (a := union s.members) rfl, Bool.and_eq_true, areExceptionTypes_iff]
  refine and_congr (by simp) (forall₂_congr fun m hm => ?_)
  rw [isExceptionType_iff_cls (hmembers m hm)]

end TypeHint

/-- **Which error parameter is found.** If the annotation of the last parameter is spelled as a
union or alone, its spelled members alone decide. -/
theorem Parameter.errorIndex_spelled {s : TypeHint.Spelling} {a : TypeHint} (h : s.build = .ok a) :
    errorIndex [] = none ∧
    ∀ (before : List Parameter) (last : Parameter), last.hint = a →
      (s.OfExceptions → errorIndex (before ++ [last]) = some before.length) ∧
      (¬ s.OfExceptions → errorIndex (before ++ [last]) = none) := by
  refine ⟨rfl, fun before last hlast => ?_⟩
  have hiff := TypeHint.isExceptionType_build h
  rw [← hiff, errorIndex_concat, hlast]
  exact ⟨fun hex => if_pos hex, fun hex => if_neg hex⟩

/-- Two exceptions, one of them twice, and `None`: an optional union with a union of bars in it. -/
def TypeHint.Spelling.failures : TypeHint.Spelling :=
  .optional (.union [.single (.ofKnown .keyError) rfl,
    .bar (.single .none rfl) (.bar (.single (.ofKnown .osError) rfl)
      (.single (.ofKnown .keyError) rfl))])

theorem Parameter.errorIndex_spelled_failures :
    TypeHint.Spelling.failures.build =
        .ok (.union [.ofKnown .keyError, .noneType, .ofKnown .osError]) ∧
      ∀ before : List Parameter,
        errorIndex (before ++ [⟨0, "error",
          .union [.ofKnown .keyError, .noneType, .ofKnown .osError], false⟩]) =
            some before.length := by
  have hbuild : TypeHint.Spelling.failures.build =
      .ok (.union [.ofKnown .keyError, .noneType, .ofKnown .osError]) := by
    cbv
  have hmembers : TypeHint.Spelling.failures.members =
      [.ofKnown .keyError, .noneType, .ofKnown .osError, .ofKnown .keyError, .noneType] := by
    rfl
  refine ⟨hbuild, fun before => ((errorIndex_spelled hbuild).2 before _ rfl).1 ?_⟩
  rw [TypeHint.Spelling.OfExceptions, hmembers]
  refine ⟨⟨.ofKnown .keyError, List.mem_cons_self, rfl⟩, fun m hm hnone => ?_⟩
  simp only [List.mem_cons, List.not_mem_nil, or_false] at hm
  rcases hm with rfl | rfl | rfl | rfl | rfl
  · exact ⟨.known .keyError, rfl, rfl⟩
  · cases hnone
  · exact ⟨.known .osError, rfl, rfl⟩
  · exact ⟨.known .keyError, rfl, rfl⟩
  · cases hnone

end CallLog
