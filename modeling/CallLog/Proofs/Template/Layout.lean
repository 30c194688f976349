import CallLog.Template

/-!
# Layouts

A text can be cut at its slots in exactly one way: into the text before each slot, the bodies of the
slots, and the text after the last one. A `Layout` is such a cut. What makes it the right one goes
with it: no text before a slot opens another slot, no body holds a closing brace, and an opening
brace after the last slot is never closed.

* `exists_layout`: every text has a layout.
* `ofText_text`: scanning the text of a layout gives the slots of the layout.
* `toText_strip_template`: taking the bodies out leaves the texts around them as they are.
-/

namespace CallLog

/-- A text cut at its slots. -/
structure Layout where
  /-- for each slot the text before it and its body -/
  slots : List (List Char × List Char)
  /-- the text after the last slot -/
  rest : List Char
  /-- the text before a slot opens no slot -/
  text_open : ∀ s ∈ slots, '\x7b' ∉ s.1
  /-- a body ends at the first closing brace -/
  body_closed : ∀ s ∈ slots, '\x7d' ∉ s.2
  /-- what opens after the last slot is not closed -/
  rest_open : ∀ before after, rest = before ++ '\x7b' :: after → '\x7d' ∉ after

namespace Layout

/-- The bodies of the slots, in order. -/
def bodies (layout : Layout) : List (List Char) :=
  layout.slots.map Prod.snd

/-- The text with a text in place of each slot. -/
def fill (layout : Layout) (texts : List (List Char)) : List Char :=
  (List.zipWith (fun s t => s.1 ++ t) layout.slots texts).flatten ++ layout.rest

/-- The text that was cut. -/
def text (layout : Layout) : List Char :=
  layout.fill (layout.bodies.map fun body => Template.pieceText (.slot body))

/-- The text with nothing in the slots. -/
def bare (layout : Layout) : List Char :=
  layout.fill (layout.bodies.map fun _ => ['\x7b', '\x7d'])

/-- The pieces that the layout stands for. -/
def template (layout : Layout) : Template :=
  layout.slots.flatMap (fun s => s.1.map Piece.lit ++ [.slot s.2]) ++ layout.rest.map .lit

/-- The layout without slots of a text that closes nothing it opens. -/
def plain (rest : List Char)
    (h : ∀ before after, rest = before ++ '\x7b' :: after → '\x7d' ∉ after) : Layout :=
  ⟨[], rest, by simp, by simp, h⟩

/-- The layout with a slot, and text before it, at its beginning. -/
def cons (layout : Layout) (before body : List Char) (hb : '\x7b' ∉ before)
    (hc : '\x7d' ∉ body) : Layout where
  slots := (before, body) :: layout.slots
  rest := layout.rest
  text_open := List.forall_mem_cons.mpr ⟨hb, layout.text_open⟩
  body_closed := List.forall_mem_cons.mpr ⟨hc, layout.body_closed⟩
  rest_open := layout.rest_open

@[simp]
theorem length_bodies (layout : Layout) : layout.bodies.length = layout.slots.length := by
  simp [bodies]

@[simp]
theorem text_plain (rest : List Char) (h) : (plain rest h).text = rest := by
  simp [text, fill, bodies, plain]

@[simp]
theorem text_cons (layout : Layout) (before body : List Char) (hb hc) :
    (layout.cons before body hb hc).text =
      before ++ '\x7b' :: body ++ '\x7d' :: layout.text := by
  simp [text, fill, bodies, cons, Template.pieceText]

/-! ## Every text has a layout

The first slot of a text begins at the first opening brace, if there is a closing one after it. What
is before that brace opens no slot; what is between the two is the body, up to the first closing
brace. -/

/-- **Every text has a layout.** The text is cut at its first slot, and what comes after that is
shorter. -/
theorem exists_layout (cs : List Char) : ∃ layout : Layout, layout.text = cs := by
  by_cases hopen : '\x7b' ∈ cs
  · obtain ⟨before, after, hcs, hbefore⟩ := List.eq_append_cons_of_mem hopen
    by_cases hclose : '\x7d' ∈ after
    · obtain ⟨body, rest, hafter, hbody⟩ := List.eq_append_cons_of_mem hclose
      have hlt : rest.length < cs.length := by
        rw [hcs, hafter]
        simp only [List.length_append, List.length_cons]
        omega
      obtain ⟨layout, hlayout⟩ := exists_layout rest
      refine ⟨layout.cons before body hbefore hbody, ?_⟩
      rw [text_cons, hlayout, hcs, hafter]
      simp
    · -- nothing that opens here is closed: the first opening brace stands before all others
      refine ⟨plain cs ?_, text_plain cs _⟩
      intro front back hback hmem
      rw [hcs] at hback
      rcases List.append_eq_append_iff.mp hback with ⟨ds, hds, hrest⟩ | ⟨ds, hds, hrest⟩
      · cases ds with
        | nil =>
          obtain rfl : after = back := (List.cons.inj hrest).2
          exact hclose hmem
        | cons d ds =>
          obtain ⟨-, rfl⟩ := List.cons.inj hrest
          exact hclose (by simp [hmem])
      · cases ds with
        | nil =>
          obtain rfl : back = after := (List.cons.inj hrest).2
          exact hclose hmem
        | cons d ds =>
          obtain ⟨rfl, -⟩ := List.cons.inj hrest
          exact hbefore (by rw [hds]; simp)
  · refine ⟨plain cs ?_, text_plain cs _⟩
    rintro front back rfl
    simp at hopen
termination_by cs.length

/-! ## Scanning finds the layout

The scan goes character by character and keeps the body of a slot that is open. There is one lemma
for each kind of run that it makes: text, a body that is closed, a body that never is. The layout is
found by putting these together. -/

/-- Text that opens no slot is read character by character. -/
theorem scan_append {before : List Char} (h : '\x7b' ∉ before) (cs : List Char) :
    Template.scan none (before ++ cs) = before.map .lit ++ Template.scan none cs := by
  induction before with
  | nil => rfl
  | cons c before ih =>
    rw [List.mem_cons, not_or] at h
    obtain ⟨hc, hbefore⟩ := h
    rw [List.cons_append, Template.scan, if_neg (Ne.symm hc), ih hbefore]
    rfl

/-- An open slot is read up to the first closing brace. -/
theorem scan_body {body : List Char} (h : '\x7d' ∉ body) (pending cs : List Char) :
    Template.scan (some pending) (body ++ '\x7d' :: cs) =
      .slot (pending.reverse ++ body) :: Template.scan none cs := by
  induction body generalizing pending with
  | nil => simp [Template.scan]
  | cons c body ih =>
    rw [List.mem_cons, not_or] at h
    obtain ⟨hc, hbody⟩ := h
    rw [List.cons_append, Template.scan, if_neg (Ne.symm hc), ih hbody]
    simp

/-- A slot that is never closed is text. -/
theorem scan_unclosed {cs : List Char} (h : '\x7d' ∉ cs) (pending : List Char) :
    Template.scan (some pending) cs = .lit '\x7b' :: (pending.reverse ++ cs).map .lit := by
  induction cs generalizing pending with
  | nil => simp [Template.scan]
  | cons c cs ih =>
    rw [List.mem_cons, not_or] at h
    obtain ⟨hc, hcs⟩ := h
    rw [Template.scan, if_neg (Ne.symm hc), ih hcs]
    simp

/-- Text that closes nothing it opens is left as it is, the opening brace included. -/
theorem scan_rest {rest : List Char}
    (h : ∀ before after, rest = before ++ '\x7b' :: after → '\x7d' ∉ after) :
    Template.scan none rest = rest.map .lit := by
  induction rest with
  | nil => rfl
  | cons c rest ih =>
    by_cases hc : c = '\x7b'
    · subst hc
      rw [Template.scan, if_pos rfl, scan_unclosed (h [] rest rfl)]
      rfl
    · have hrest := ih fun before after he => h (c :: before) after (by rw [he]; rfl)
      rw [Template.scan, if_neg hc, hrest]
      rfl

/-- The scan of slots, each after the text before it. -/
theorem scan_slots {slots : List (List Char × List Char)} (hopen : ∀ s ∈ slots, '\x7b' ∉ s.1)
    (hclosed : ∀ s ∈ slots, '\x7d' ∉ s.2) (cs : List Char) :
    Template.scan none
        (slots.flatMap (fun s => s.1 ++ Template.pieceText (.slot s.2)) ++ cs) =
      slots.flatMap (fun s => s.1.map Piece.lit ++ [.slot s.2]) ++ Template.scan none cs := by
  induction slots with
  | nil => rfl
  | cons s slots ih =>
    obtain ⟨hs, hslots⟩ := List.forall_mem_cons.mp hopen
    obtain ⟨ht, hbodies⟩ := List.forall_mem_cons.mp hclosed
    have htail := ih hslots hbodies
    simp only [List.flatMap_cons, Template.pieceText, List.append_assoc, List.cons_append,
      List.nil_append] at htail ⊢
    rw [scan_append hs, Template.scan, if_pos rfl, scan_body ht, htail]
    simp

/-- A fill whose texts depend on the bodies. -/
theorem fill_map (layout : Layout) (f : List Char → List Char) :
    layout.fill (layout.bodies.map f) =
      layout.slots.flatMap (fun s => s.1 ++ f s.2) ++ layout.rest := by
  simp [fill, bodies, List.flatMap_def, List.zipWith_map_right]

/-- **Scanning finds the layout.** What a layout knows of its texts is just what the runs of the
scan need: no slot opens too early, none is closed too late. -/
theorem ofText_text (layout : Layout) : Template.ofText layout.text = layout.template := by
  rw [Template.ofText, text, fill_map, scan_slots layout.text_open layout.body_closed,
    scan_rest layout.rest_open, template]

theorem bodies_template (layout : Layout) :
    Template.bodies layout.template = layout.bodies := by
  have hlit (cs : List Char) : (cs.map Piece.lit).filterMap Template.body? = [] := by
    simp [List.filterMap_map, Function.comp_def, Template.body?]
  rw [Template.bodies, template, List.filterMap_append, hlit, List.append_nil,
    List.filterMap_flatMap, bodies, List.map_eq_flatMap]
  congr 1
  funext s
  rw [List.filterMap_append, hlit]
  rfl

/-- The text of the template without its bodies: the texts around the slots stay. -/
theorem toText_strip_template (layout : Layout) :
    Template.toText (Template.strip layout.template) = layout.bare := by
  have hlit (cs : List Char) : ((cs.map Piece.lit).map Template.bare).flatMap Template.pieceText =
      cs := by
    rw [List.map_map]
    exact Template.toText_map_lit cs
  rw [bare, fill_map, Template.toText, Template.strip, template, List.map_append,
    List.flatMap_append, hlit, List.map_flatMap, List.flatMap_assoc]
  congr 2
  funext s
  rw [List.map_append, List.flatMap_append, hlit]
  rfl

end Layout

end CallLog
