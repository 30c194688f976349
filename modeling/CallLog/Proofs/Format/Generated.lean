import CallLog.Proofs.Format.Message
import CallLog.Proofs.Text.LetterCase
import CallLog.Rules

/-!
# Generated messages

A generated message is the words of a name, and slots after them. Its slots are found again by
looking for them, so that what looks like a slot in the name counts too: the words have as many
slots as the name (`slotCount_spacedName`), since no capital letter becomes a brace.
-/

namespace CallLog

namespace Text

/-- No capital letter becomes an opening brace. -/
theorem not_mem_lower {c : Char} (h : isCapital c = true) : '\x7b' ∉ lower c := by
  have hc : c.toNat ≠ 123 := by
    intro hc
    rw [isCapital, hc] at h
    revert h
    decide
  have hshifted : shifted c.toNat lowerTable ≠ 123 :=
    shifted_ne (by decide) hc (by decide +kernel)
  rw [lower]
  split
  · decide
  · rw [List.mem_singleton]
    intro heq
    exact hshifted (toNat_of_ofNat_eq (by decide) heq.symm)

end Text

namespace Format

/-- The words of a name have the slots of the name. A space comes before a capital letter, and the
letter becomes small; neither makes nor breaks a slot, since both braces are kept and stay side by
side. -/
theorem slotCount_spacedName (name : List Char) :
    slotCount (Template.spacedName name) = slotCount name := by
  have hplain {c : Char} (hc : Text.isCapital c = false) (cs : List Char) :
      Template.spacedName (c :: cs) = c :: Template.spacedName cs := by
    simp [Template.spacedName, Template.spacedChar, hc]
  fun_induction slotCount name with
  | case1 => rfl
  | case2 cs ih => rw [hplain (by decide), hplain (by decide), slotCount, ih]
  | case3 c cs hslot ih =>
    rcases hc : Text.isCapital c with _ | _
    · rw [hplain hc, slotCount_cons, ih]
      rintro rest rfl hrest
      -- the character after the brace closes it only if it did so in the name
      rcases cs with _ | ⟨d, cs⟩
      · cases hrest
      · rcases hd : Text.isCapital d with _ | _
        · rw [hplain hd] at hrest
          obtain ⟨rfl, -⟩ := List.cons.inj hrest
          exact hslot cs rfl rfl
        · simp [Template.spacedName, Template.spacedChar, hd] at hrest
    · have hwords : Template.spacedName (c :: cs) =
          (' ' :: Text.lower c) ++ Template.spacedName cs := by
        simp [Template.spacedName, Template.spacedChar, hc]
      rw [hwords, slotCount_append_of_not_mem _ _, ih]
      simpa using Text.not_mem_lower hc

theorem slotCount_slots (n : Nat) : slotCount (Rule.slots n) = n := by
  induction n with
  | zero => rfl
  | succ n ih => rw [Rule.slots, slotCount_cons (by simp), slotCount, ih]

theorem substitute_slots {n : Nat} {ts : List (List Char)} (h : ts.length = n) :
    substitute (Rule.slots n) ts = ts.flatMap (' ' :: ·) := by
  induction ts generalizing n with
  | nil =>
    subst h
    rfl
  | cons t ts ih =>
    subst h
    rw [List.length_cons, Rule.slots, substitute_cons (by simp), substitute, ih rfl]
    rfl

/-- The slots of a generated message: those of the name, and one for each listed parameter. The
slots after the name begin with a space, so none arises between the two. -/
theorem slotCount_generated (name : List Char) (n : Nat) :
    slotCount (Template.spacedName name ++ Rule.slots n) = slotCount name + n := by
  rw [slotCount_append _ (by cases n <;> simp [Rule.slots]), slotCount_spacedName,
    slotCount_slots]

/-- Filling a generated message puts the texts after the words of the name. If the name has slots,
the first texts go there instead. -/
theorem substitute_generated {name : List Char} (hname : slotCount name = 0) {n : Nat}
    {ts : List (List Char)} (h : ts.length = n) :
    substitute (Template.spacedName name ++ Rule.slots n) ts =
      Template.spacedName name ++ ts.flatMap (' ' :: ·) := by
  rw [substitute_append (by cases n <;> simp [Rule.slots]) (by rw [slotCount_spacedName, hname]),
    substitute_slots h]

end Format

end CallLog
