import CallLog.Proofs.Format.Message
import Mathlib.Data.List.Infix
import Mathlib.Logic.ExistsUnique

/-!
# One layout for each text

A text has exactly one layout: what scanning finds in the text of a layout tells the layout. So the
two passes over a template, one for the bodies of its slots and one for its normal form, see the
same slots.

* `existsUnique_layout`: a text has exactly one layout.
* `toText_strip_bare`: the normal form of a text is its own normal form.
* `bodies_withBody`: another body in a slot leaves the other slots as they are.
-/

namespace CallLog

namespace Layout

/-! ## A text has one layout

Scanning turns the text of a layout into the pieces of the layout. The pieces tell the layout, since
a slot is no text: cut at the first slot, they fall apart in one way. -/

/-- The first slot of some pieces, with the text before it, can be told apart from the rest. -/
theorem first_slot_inj {before before' body body' : List Char} {pieces pieces' : Template}
    (h : before.map Piece.lit ++ .slot body :: pieces =
      before'.map .lit ++ .slot body' :: pieces') :
    before = before' ∧ body = body' ∧ pieces = pieces' := by
  induction before generalizing before' with
  | nil =>
    cases before' with
    | nil => simpa using h
    | cons c before' => simp at h
  | cons c before ih =>
    cases before' with
    | nil => simp at h
    | cons c' before' =>
      obtain ⟨hc, htail⟩ := List.cons.inj h
      obtain ⟨rfl, hrest⟩ := ih htail
      exact ⟨congrArg (· :: before) (Piece.lit.inj hc), hrest⟩

/-- Pieces with a slot are not text alone. -/
theorem slot_notMem_lits {body : List Char} (rest : List Char) :
    Piece.slot body ∉ rest.map Piece.lit := by
  simp

/-- The pieces of a layout tell its slots and the text after them. -/
theorem pieces_inj {slots slots' : List (List Char × List Char)} {rest rest' : List Char}
    (h : slots.flatMap (fun s => s.1.map Piece.lit ++ [.slot s.2]) ++ rest.map .lit =
      slots'.flatMap (fun s => s.1.map Piece.lit ++ [.slot s.2]) ++ rest'.map .lit) :
    slots = slots' ∧ rest = rest' := by
  induction slots generalizing slots' with
  | nil =>
    cases slots' with
    | nil =>
      have hlit : Function.Injective Piece.lit := fun _ _ => Piece.lit.inj
      exact ⟨rfl, (List.map_injective_iff.mpr hlit) h⟩
    | cons s' slots' =>
      have hslot : Piece.slot s'.2 ∈ rest.map Piece.lit := by
        rw [List.flatMap_nil, List.nil_append] at h
        simp [h]
      exact absurd hslot (slot_notMem_lits rest)
  | cons s slots ih =>
    cases slots' with
    | nil =>
      have hslot : Piece.slot s.2 ∈ rest'.map Piece.lit := by
        rw [List.flatMap_nil, List.nil_append] at h
        simp [← h]
      exact absurd hslot (slot_notMem_lits rest')
    | cons s' slots' =>
      simp only [List.flatMap_cons, List.append_assoc, List.cons_append, List.nil_append] at h
      obtain ⟨hbefore, hbody, htail⟩ := first_slot_inj h
      obtain ⟨hslots, hrest⟩ := ih htail
      obtain rfl : s = s' := Prod.ext hbefore hbody
      exact ⟨congrArg (s :: ·) hslots, hrest⟩

/-- Layouts with the same text are the same, for scanning gives the pieces of both. What the layouts
know of their texts is needed for the scan, not to compare the pieces. -/
theorem eq_of_text_eq {layout layout' : Layout} (h : layout.text = layout'.text) :
    layout = layout' := by
  have hpieces : layout.template = layout'.template := by
    rw [← layout.ofText_text, h, layout'.ofText_text]
  obtain ⟨hslots, hrest⟩ := pieces_inj hpieces
  cases layout
  cases layout'
  simp_all

/-- **A text has exactly one layout.** -/
theorem existsUnique_layout (text : List Char) : ∃! layout : Layout, layout.text = text := by
  obtain ⟨layout, hlayout⟩ := exists_layout text
  exact ⟨layout, hlayout, fun other hother => eq_of_text_eq (hother.trans hlayout.symm)⟩

/-! ## The normal form

To take the bodies out of a text is to empty the slots of its layout, and the emptied layout is one
again. So the normal form of a normal form need not be looked at on its own. -/

/-- The layout with nothing in its slots. -/
def emptied (layout : Layout) : Layout where
  slots := layout.slots.map fun s => (s.1, [])
  rest := layout.rest
  text_open := List.forall_mem_map.mpr layout.text_open
  body_closed := List.forall_mem_map.mpr fun _ _ => List.not_mem_nil
  rest_open := layout.rest_open

@[simp]
theorem text_emptied (layout : Layout) : layout.emptied.text = layout.bare := by
  rw [text, bare, fill_map, fill_map]
  simp [emptied, List.flatMap_map, Template.pieceText]

@[simp]
theorem bare_emptied (layout : Layout) : layout.emptied.bare = layout.bare := by
  rw [bare, bare, fill_map, fill_map]
  simp [emptied, List.flatMap_map]

/-- The normal form of a text is the bare text of its layout. -/
theorem toText_strip_text (layout : Layout) :
    (Template.ofText layout.text).strip.toText = layout.bare := by
  rw [ofText_text, toText_strip_template]

/-- The normal form is its own normal form: it is the text of the emptied layout. -/
theorem toText_strip_bare (layout : Layout) :
    (Template.ofText layout.bare).strip.toText = layout.bare := by
  rw [← text_emptied, toText_strip_text, bare_emptied, text_emptied]

theorem bodies_ofText_text (layout : Layout) :
    (Template.ofText layout.text).bodies = layout.bodies := by
  rw [ofText_text, bodies_template]

/-! ## Another body in a slot

A layout stays one with another body in a slot, as long as that body has no closing brace. It is
read as any other layout then. -/

/-- The layout with another body in the slot of a rank. -/
def withBody (layout : Layout) (rank : Nat) (body : List Char) (h : '\x7d' ∉ body) : Layout where
  slots := layout.slots.modify rank fun s => (s.1, body)
  rest := layout.rest
  text_open := by
    intro s hs
    obtain ⟨k, hk⟩ := List.mem_iff_getElem?.mp hs
    rw [List.getElem?_modify] at hk
    obtain ⟨t, ht, rfl⟩ := Option.map_eq_some_iff.mp hk
    have hopen := layout.text_open t (List.mem_of_getElem? ht)
    split <;> exact hopen
  body_closed := by
    intro s hs
    obtain ⟨k, hk⟩ := List.mem_iff_getElem?.mp hs
    rw [List.getElem?_modify] at hk
    obtain ⟨t, ht, rfl⟩ := Option.map_eq_some_iff.mp hk
    split
    · exact h
    · exact layout.body_closed t (List.mem_of_getElem? ht)
  rest_open := layout.rest_open

@[simp]
theorem bodies_withBody (layout : Layout) (rank : Nat) (body : List Char) (h) :
    (layout.withBody rank body h).bodies = layout.bodies.set rank body := by
  apply List.ext_getElem?
  intro k
  simp only [bodies, withBody, List.getElem?_map, List.getElem?_modify, List.getElem?_set,
    List.length_map]
  rcases hs : layout.slots[k]? with _ | s
  · have hk := List.getElem?_eq_none_iff.mp hs
    simp only [Option.map_none]
    split
    · rw [if_neg (by omega)]
      rfl
    · rfl
  · have hk := (List.getElem?_eq_some_iff.mp hs).1
    by_cases heq : rank = k
    · subst heq
      simp [hk]
    · simp [heq]

end Layout

namespace Format

/-- The slots of a message are the places where it goes on with an empty pair of braces. -/
theorem slotCount_eq_countP_tails (cs : List Char) :
    slotCount cs = cs.tails.countP (['\x7b', '\x7d'].isPrefixOf ·) := by
  fun_induction slotCount cs with
  | case1 => rfl
  | case2 cs ih => simp [ih]
  | case3 c cs hslot ih =>
    have hno : ¬ ['\x7b', '\x7d'].isPrefixOf (c :: cs) = true := by
      intro hprefix
      obtain ⟨rest, hrest⟩ := List.isPrefixOf_iff_prefix.mp hprefix
      obtain ⟨hc, hcs⟩ := List.cons.inj hrest
      exact hslot rest hc.symm hcs.symm
    rw [List.tails_cons, List.countP_cons_of_neg hno, ih]

end Format

end CallLog
