import CallLog.TypeHint

/-!
# Annotations of exceptions

`TypeHint.isExceptionType` decides whether an annotation describes exceptions. What it decides is
said here without deciding: `OfExceptions` holds of the classes of exceptions, and of the unions
whose members are such annotations, the class of `None` apart.
-/

namespace CallLog

namespace TypeHint

/-- An annotation describes exceptions. A union does if it has a member besides the class of `None`,
and all such members do. -/
inductive OfExceptions : TypeHint → Prop where
  | cls {c : Class} (hc : c.isRaisable = true) : OfExceptions (.cls c)
  | members {a : TypeHint} {ms : List TypeHint} (hms : a.members? = some ms)
      (hany : ∃ m ∈ ms, m.isNoneType = false)
      (hall : ∀ m ∈ ms, m.isNoneType = false → OfExceptions m) : OfExceptions a

/-- How a union is decided: by its members, of which `None` is passed over. -/
theorem isExceptionType_of_members? {a : TypeHint} {ms : List TypeHint}
    (hms : a.members? = some ms) :
    a.isExceptionType = (ms.any (fun m => !m.isNoneType) && areExceptionTypes ms) := by
  cases a with
  | union | alternatives =>
    obtain rfl := Option.some.inj hms
    rw [isExceptionType]
  | _ => cases hms

theorem areExceptionTypes_iff {ms : List TypeHint} :
    areExceptionTypes ms = true ↔ ∀ m ∈ ms, m.isNoneType = false → m.isExceptionType = true := by
  induction ms with
  | nil => simp [areExceptionTypes]
  | cons m ms ih =>
    rw [areExceptionTypes, Bool.and_eq_true, ih, List.forall_mem_cons]
    cases m.isNoneType <;> simp

mutual

theorem OfExceptions.of_isExceptionType :
    ∀ a : TypeHint, a.isExceptionType = true → a.OfExceptions
  | .cls _, h => .cls h
  | .union ms, h => by
    rw [isExceptionType_of_members? rfl, Bool.and_eq_true] at h
    exact .members rfl (by simpa using h.1) (of_areExceptionTypes ms h.2)
  | .alternatives ms, h => by
    rw [isExceptionType_of_members? rfl, Bool.and_eq_true] at h
    exact .members rfl (by simpa using h.1) (of_areExceptionTypes ms h.2)

theorem OfExceptions.of_areExceptionTypes :
    ∀ ms : List TypeHint, areExceptionTypes ms = true →
      ∀ m ∈ ms, m.isNoneType = false → m.OfExceptions
  | [], _ => nofun
  | a :: as, h => by
    rw [areExceptionTypes, Bool.and_eq_true, Bool.or_eq_true] at h
    refine List.forall_mem_cons.mpr ⟨fun hnone => ?_, of_areExceptionTypes as h.2⟩
    rcases h.1 with hnone' | ha
    · cases hnone.symm.trans hnone'
    · exact of_isExceptionType a ha

end

/-- **Which annotations describe exceptions.** Deciding goes through the members of unions in each
other, and so does the proof, in both directions. -/
theorem isExceptionType_iff {a : TypeHint} : a.isExceptionType = true ↔ a.OfExceptions := by
  refine ⟨OfExceptions.of_isExceptionType a, fun h => ?_⟩
  induction h with
  | cls hc => exact hc
  | members hms hany _ ih =>
    rw [isExceptionType_of_members? hms, Bool.and_eq_true]
    exact ⟨by simpa using hany, areExceptionTypes_iff.mpr ih⟩

/-! ## Parts of other annotations

An annotation can be written in ways that make no difference inside of another one. So what is
inside is compared in one form. -/

/-- What an annotation is as a part of another one: `None` is its class, and a text a reference. -/
def asMember : TypeHint → TypeHint
  | none => noneType
  | text s => reference s
  | a => a

theorem asMember_of_nested {a b : TypeHint} (h : a.nested = .ok b) : b = a.asMember := by
  cases a with
  | text s =>
    rw [nested] at h
    split at h <;> cases h
    rfl
  | form f => cases f <;> cases h <;> rfl
  | _ =>
    cases h
    rfl

end TypeHint

end CallLog
