import CallLog.Text.Blank
import CallLog.Text.LetterCase

/-!
# What letters become in the other case

A form in the other case is the character itself, or a span of the table leads to it. So what has a
given form is found by going through the table once: of all characters outside ASCII only the Kelvin
sign has an ASCII character as its lower-case form (`ascii_of_lower`). White space has no case.
-/

namespace CallLog

namespace Text

/-- Where a form comes from: it is the number itself, or a span of the table has been shifted to it.
So it can be asked of every span whether it leads there. -/
theorem eq_or_contains_of_shifted {n m : Nat} (hm : 0 < m) {table : List Shift}
    (h : shifted n table = m) :
    n = m ∨ ∃ s ∈ table, s.span.contains n = true ∧ (m - s.offset).toNat = n := by
  induction table with
  | nil => exact .inl h
  | cons s rest ih =>
    rw [shifted] at h
    by_cases hfirst : n < s.span.first
    · rw [if_pos hfirst] at h
      exact .inl h
    · rw [if_neg hfirst] at h
      by_cases hcontains : s.span.contains n = true
      · rw [if_pos hcontains] at h
        exact .inr ⟨s, by simp, hcontains, by omega⟩
      · rw [if_neg hcontains] at h
        rcases ih h with heq | ⟨t, ht, hfound⟩
        · exact .inl heq
        · exact .inr ⟨t, List.mem_cons_of_mem s ht, hfound⟩

/-- A number that no span leads to is the form of itself only. The condition is decided by going
through the table once. -/
theorem shifted_ne {n m : Nat} (hm : 0 < m) (hn : n ≠ m) {table : List Shift}
    (h : (table.all fun s => !s.span.contains (m - s.offset).toNat) = true) :
    shifted n table ≠ m := by
  intro heq
  rcases eq_or_contains_of_shifted hm heq with heq | ⟨s, hs, hcontains, hform⟩
  · exact hn heq
  · have hno := List.all_eq_true.mp h s hs
    rw [hform, hcontains] at hno
    cases hno

theorem toNat_of_ofNat_eq {n : Nat} {c : Char} (hc : c.toNat ≠ 0) (h : Char.ofNat n = c) :
    n = c.toNat := by
  rw [← h] at hc ⊢
  by_cases hvalid : n.isValidChar
  · have hchar : Char.ofNat n = Char.ofNatAux n hvalid := dif_pos hvalid
    rw [hchar]
    rfl
  · have hchar : Char.ofNat n = '\x00' := dif_neg hvalid
    rw [hchar] at hc
    exact absurd rfl hc

/-! ## ASCII

For ASCII the tables agree with the functions of the core library, which can be checked character by
character. All other characters are left as they are by the core library; where the tables lead from
them to ASCII is looked at one span at a time. -/

/-- What holds of the 128 characters of ASCII one by one holds of each of them. -/
theorem of_ascii {P : Char → Prop} (h : ∀ n : Fin 128, P (Char.ofNat n)) {c : Char}
    (hc : c.toNat < 128) : P c := by
  have hchar := h ⟨c.toNat, hc⟩
  rwa [Char.ofNat_toNat] at hchar

theorem lower_of_ascii {c : Char} (h : c.toNat < 128) : lower c = [c.toLower] :=
  of_ascii (P := fun c => lower c = [c.toLower]) lower_ascii h

theorem upper_of_ascii {c : Char} (h : c.toNat < 128) : upper c = [c.toUpper] :=
  of_ascii (P := fun c => upper c = [c.toUpper]) upper_ascii h

theorem isLower_iff {c : Char} : c.isLower = true ↔ 97 ≤ c.toNat ∧ c.toNat ≤ 122 := by
  change (decide ('a'.val ≤ c.val) && decide (c.val ≤ 'z'.val)) = true ↔ _
  simp [UInt32.le_iff_toNat_le, ← Char.toNat_val]

theorem isUpper_iff {c : Char} : c.isUpper = true ↔ 65 ≤ c.toNat ∧ c.toNat ≤ 90 := by
  change decide ('A'.val ≤ c.val ∧ c.val ≤ 'Z'.val) = true ↔ _
  simp [UInt32.le_iff_toNat_le, ← Char.toNat_val]

/-! Core changes the case of ASCII letters only, so its forms agree for all characters if they do
for those of ASCII. -/

theorem toLower_of_not_isUpper {c : Char} (h : ¬ c.isUpper = true) : c.toLower = c :=
  dif_neg fun hc : 'A'.val ≤ c.val ∧ c.val ≤ 'Z'.val => h (decide_eq_true hc)

theorem toUpper_of_not_isLower {c : Char} (h : ¬ c.isLower = true) : c.toUpper = c :=
  dif_neg fun hc : 'a'.val ≤ c.val ∧ c.val ≤ 'z'.val =>
    h (Bool.and_eq_true_iff.mpr ⟨decide_eq_true hc.1, decide_eq_true hc.2⟩)

theorem ascii_of_isUpper {c : Char} (h : c.isUpper = true) : c.toNat < 128 := by
  rw [isUpper_iff] at h
  omega

theorem ascii_of_isLower {c : Char} (h : c.isLower = true) : c.toNat < 128 := by
  rw [isLower_iff] at h
  omega

theorem ascii_of_isAlpha {c : Char} (h : c.isAlpha = true) : c.toNat < 128 := by
  rcases (Bool.or_eq_true _ _).mp h with h | h
  · exact ascii_of_isUpper h
  · exact ascii_of_isLower h

theorem toLower_toLower (c : Char) : c.toLower.toLower = c.toLower := by
  by_cases hc : c.isUpper = true
  · exact of_ascii (P := fun c => c.toLower.toLower = c.toLower) (by decide) (ascii_of_isUpper hc)
  · rw [toLower_of_not_isUpper hc, toLower_of_not_isUpper hc]

theorem toLower_toUpper (c : Char) : c.toUpper.toLower = c.toLower := by
  by_cases hc : c.isLower = true
  · exact of_ascii (P := fun c => c.toUpper.toLower = c.toLower) (by decide) (ascii_of_isLower hc)
  · rw [toUpper_of_not_isLower hc]

/-- The letters of ASCII are those whose small form is a small letter. -/
theorem isLower_toLower (c : Char) : c.toLower.isLower = c.isAlpha := by
  have hletters : c.isAlpha = (c.isUpper || c.isLower) := rfl
  by_cases hc : c.isUpper = true
  · exact of_ascii (P := fun c => c.toLower.isLower = c.isAlpha) (by decide) (ascii_of_isUpper hc)
  · rw [toLower_of_not_isUpper hc, hletters, Bool.eq_false_iff.mpr hc, Bool.false_or]

/-- What holds of the characters in the table holds of all white space. -/
theorem of_isBlank {P : Char → Prop}
    (h : ∀ s ∈ blankTable, ∀ k ≤ s.last - s.first, P (Char.ofNat (s.first + k))) {c : Char}
    (hc : isBlank c = true) : P c := by
  obtain ⟨s, hs, hcontains⟩ := Span.exists_contains_of_lookup hc
  simp only [Span.contains, Bool.and_eq_true, decide_eq_true_eq] at hcontains
  obtain ⟨⟨hfirst, hlast⟩, -⟩ := hcontains
  have hchar := h s hs (c.toNat - s.first) (by omega)
  rwa [Nat.add_sub_cancel' hfirst, Char.ofNat_toNat] at hchar

theorem lower_of_isBlank {c : Char} (hc : isBlank c = true) : lower c = [c] :=
  of_isBlank (P := fun c => lower c = [c]) (by decide +kernel) hc

theorem upper_of_isBlank {c : Char} (hc : isBlank c = true) : upper c = [c] :=
  of_isBlank (P := fun c => upper c = [c]) (by decide +kernel) hc

end Text

end CallLog
