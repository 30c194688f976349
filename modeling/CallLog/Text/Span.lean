/-!
# Spans of code points

A property of characters is given by a table: a list of spans in rising order, each an interval of
code points that is walked with a fixed stride. Alphabets that alternate between capital and small
letters need a stride of two; everything else needs one.

`Span.lookup` stops at the first span that begins beyond the code point, so the common characters,
which stand at the front of every table, are found at once.
-/

namespace CallLog

namespace Text

/-- The code points `first`, `first + stride`, … up to `last`. -/
structure Span where
  /-- the least code point of the span -/
  first : Nat
  /-- the greatest code point that may belong to the span -/
  last : Nat
  /-- the distance between neighbours -/
  stride : Nat
  deriving Repr, DecidableEq

namespace Span

/-- Whether a code point belongs to the span. -/
def contains (s : Span) (n : Nat) : Bool :=
  s.first ≤ n && n ≤ s.last && (n - s.first) % s.stride == 0

/-- Whether a code point belongs to one of the spans of a table. -/
def lookup (n : Nat) : List Span → Bool
  | [] => false
  | s :: rest => if n < s.first then false else s.contains n || lookup n rest

/-- A code point that a table finds belongs to one of its spans. -/
theorem exists_contains_of_lookup {n : Nat} {table : List Span} (h : lookup n table = true) :
    ∃ s ∈ table, s.contains n = true := by
  induction table with
  | nil => simp [lookup] at h
  | cons s rest ih =>
    rw [lookup] at h
    split at h
    · simp at h
    · cases hs : s.contains n with
      | true => exact ⟨s, by simp, hs⟩
      | false =>
        rw [hs, Bool.false_or] at h
        obtain ⟨t, ht, hc⟩ := ih h
        exact ⟨t, List.mem_cons_of_mem _ ht, hc⟩

end Span

end Text

end CallLog
