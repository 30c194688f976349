import CallLog.Text.Span

/-!
# White space

`isBlank` is the class of white space of the Unicode character database, version 14, together with
the four ASCII separators from `0x1C` to `0x1F`. `trim` takes it away at both ends of a text; inside
a text it stays.
-/

namespace CallLog

namespace Text

/-- The white space characters. -/
def blankTable : List Span := [
  ⟨0x9, 0xD, 1⟩, ⟨0x1C, 0x20, 1⟩, ⟨0x85, 0x85, 1⟩, ⟨0xA0, 0xA0, 1⟩, ⟨0x1680, 0x1680, 1⟩,
  ⟨0x2000, 0x200A, 1⟩, ⟨0x2028, 0x2029, 1⟩, ⟨0x202F, 0x202F, 1⟩, ⟨0x205F, 0x205F, 1⟩,
  ⟨0x3000, 0x3000, 1⟩]

/-- Whether a character is white space. -/
def isBlank (c : Char) : Bool :=
  Span.lookup c.toNat blankTable

/-- A text without the white space at its beginning. -/
def trimLeft (cs : List Char) : List Char :=
  cs.dropWhile isBlank

/-- A text without the white space at its end. -/
def trimRight (cs : List Char) : List Char :=
  (cs.reverse.dropWhile isBlank).reverse

/-- A text without the white space at both ends. -/
def trim (cs : List Char) : List Char :=
  trimRight (trimLeft cs)

/-- Only white space is taken away. -/
theorem isBlank_or_mem_trim {cs : List Char} {c : Char} (h : c ∈ cs) :
    isBlank c = true ∨ c ∈ trim cs := by
  have hdropped {ds : List Char} (h : c ∈ ds) : isBlank c = true ∨ c ∈ ds.dropWhile isBlank := by
    rw [← List.takeWhile_append_dropWhile (p := isBlank) (l := ds)] at h
    rcases List.mem_append.mp h with h | h
    · exact .inl (List.all_eq_true.mp List.all_takeWhile c h)
    · exact .inr h
  rcases hdropped h with h | h
  · exact .inl h
  · rw [trim, trimRight, List.mem_reverse]
    exact hdropped (List.mem_reverse.mpr h)

/-- A change of letters that keeps white space apart from them is a change of the trimmed text. -/
theorem trim_map {f : Char → Char} (h : ∀ c, isBlank (f c) = isBlank c) (cs : List Char) :
    trim (cs.map f) = (trim cs).map f := by
  have hblank : isBlank ∘ f = isBlank := funext h
  simp only [trim, trimLeft, trimRight, List.dropWhile_map, hblank, ← List.map_reverse]

end Text

end CallLog
