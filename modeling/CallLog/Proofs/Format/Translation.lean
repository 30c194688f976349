import CallLog.LogPoint
import CallLog.Proofs.Template.Grammar

/-!
# The translation of messages

`Format.ofMessage` goes through a message once. That is the same as two replacements one after the
other (`ofMessage_eq_replaced`): percent signs are doubled, and after that slots become conversions.
Neither disturbs the other, since no percent sign is part of a slot, and none that stands in the
message is left alone before an `s`.

What a filled format looks like is told by the cut of the message at its slots. A `Cut` holds the
parts between them, with the reason that they are the right ones; there is one for each message. The
values are given as a tuple, so that a dictionary is a value like any other.

The main statement is `ofMessage_translates`.
-/

namespace CallLog

namespace Text

/-- A text with another text in place of every occurrence of a third, found from left to right and
without overlap. What is replaced is not empty. -/
def replaced (old new : List Char) : List Char → List Char
  | [] => []
  | c :: cs =>
    if old.isPrefixOf (c :: cs) then new ++ replaced old new (cs.drop (old.length - 1))
    else c :: replaced old new cs
termination_by cs => cs.length
decreasing_by
  · simp only [List.length_drop, List.length_cons]
    omega
  · simp

theorem replaced_append {old : List Char} (h : old ≠ []) (new cs : List Char) :
    replaced old new (old ++ cs) = new ++ replaced old new cs := by
  obtain ⟨o, os, rfl⟩ := List.exists_cons_of_ne_nil h
  have hbegins : (o :: os).isPrefixOf (o :: (os ++ cs)) = true :=
    List.isPrefixOf_iff_prefix.mpr (List.prefix_append (o :: os) cs)
  rw [List.cons_append, replaced, if_pos hbegins]
  simp

theorem replaced_cons {old : List Char} {c : Char} {cs : List Char} (h : ¬ old <+: c :: cs)
    (new : List Char) : replaced old new (c :: cs) = c :: replaced old new cs := by
  rw [replaced, if_neg fun hbegins => h (List.isPrefixOf_iff_prefix.mp hbegins)]

end Text

namespace Format

/-- The slot of a message. -/
def slot : List Char := ['\x7b', '\x7d']

/-! ## Two replacements

The translation is written as one pass, and documented as two replacements. In one pass it is clear
that a percent sign of the message is not taken for a part of a conversion that was put there; for
two replacements that has to be seen. -/

/-- A message with its percent signs doubled. -/
def doubled (message : List Char) : List Char :=
  Text.replaced ['%'] ['%', '%'] message

/-- A text with conversions in place of its slots. -/
def converting (text : List Char) : List Char :=
  Text.replaced slot ['%', 's'] text

theorem slot_prefix_cons {c : Char} {cs : List Char} :
    slot <+: c :: cs ↔ ∃ rest, c = '\x7b' ∧ cs = '\x7d' :: rest := by
  constructor
  · rintro ⟨rest, h⟩
    obtain ⟨hc, hcs⟩ := List.cons.inj h
    exact ⟨rest, hc.symm, hcs.symm⟩
  · rintro ⟨rest, rfl, rfl⟩
    exact ⟨rest, rfl⟩

theorem doubled_percent (cs : List Char) : doubled ('%' :: cs) = '%' :: '%' :: doubled cs :=
  Text.replaced_append (by simp) ['%', '%'] cs

theorem doubled_cons {c : Char} (h : c ≠ '%') (cs : List Char) :
    doubled (c :: cs) = c :: doubled cs :=
  Text.replaced_cons (by simpa [List.cons_prefix_cons] using h.symm) _

theorem converting_slot (cs : List Char) : converting (slot ++ cs) = '%' :: 's' :: converting cs :=
  Text.replaced_append (by simp [slot]) ['%', 's'] cs

theorem converting_cons {c : Char} {cs : List Char}
    (h : ∀ rest, c = '\x7b' → cs = '\x7d' :: rest → False) :
    converting (c :: cs) = c :: converting cs := by
  refine Text.replaced_cons ?_ _
  rw [slot_prefix_cons]
  rintro ⟨rest, hc, hcs⟩
  exact h rest hc hcs

/-- Doubling percent signs closes no slot: a brace that closes one comes from the message. -/
theorem doubled_eq_close {cs rest : List Char} (h : doubled cs = '\x7d' :: rest) :
    ∃ ds, cs = '\x7d' :: ds := by
  rcases cs with _ | ⟨c, cs⟩
  · rw [doubled, Text.replaced] at h
    cases h
  · by_cases hc : c = '%'
    · rw [hc, doubled_percent] at h
      cases h
    · rw [doubled_cons hc] at h
      exact ⟨cs, by rw [(List.cons.inj h).1]⟩

/-- **A message is translated by two replacements**, of its percent signs and then of its slots.
By going through the message as the translation does: a slot is still one after the first
replacement. -/
theorem ofMessage_eq_replaced (message : List Char) :
    ofMessage message = converting (doubled message) := by
  fun_induction ofMessage message with
  | case1 => simp [doubled, converting, Text.replaced]
  | case2 cs ih =>
    rw [doubled_percent, converting_cons (by simp), converting_cons (by simp), ih]
  | case3 cs ih =>
    have hslot : doubled ('\x7b' :: '\x7d' :: cs) = slot ++ doubled cs := by
      rw [doubled_cons (by decide), doubled_cons (by decide)]
      rfl
    rw [hslot, converting_slot, ih]
  | case4 c cs hpercent hslot ih =>
    rw [doubled_cons hpercent, converting_cons, ih]
    intro rest hc hrest
    obtain ⟨ds, hds⟩ := doubled_eq_close hrest
    exact hslot ds hc hds

/-! ## Cuts

A slot is two characters, so it can only be found by looking ahead. A cut has looked already: it
holds the parts between the slots, and the fact that none of them holds one. Then a message is a
part, or a part and a slot and the rest, and what is shown of messages is shown by induction on
their cuts. -/

/-- A message cut at its slots: the part before the first one, and the part after each. -/
structure Cut where
  first : List Char
  rest : List (List Char)
  /-- no part holds a slot -/
  whole : ∀ part ∈ first :: rest, ¬ slot <:+: part

namespace Cut

/-- The parts with a text after each but the last. -/
def fill (cut : Cut) (texts : List (List Char)) : List Char :=
  cut.first ++ (List.zipWith (· ++ ·) texts cut.rest).flatten

/-- The message that was cut. -/
def text (cut : Cut) : List Char :=
  cut.fill (cut.rest.map fun _ => slot)

/-- A message without slots. -/
def single (first : List Char) (h : ¬ slot <:+: first) : Cut :=
  ⟨first, [], by simpa using h⟩

/-- A message with one slot more, and a part before it. -/
def cons (cut : Cut) (first : List Char) (h : ¬ slot <:+: first) : Cut :=
  ⟨first, cut.first :: cut.rest, List.forall_mem_cons.mpr ⟨h, cut.whole⟩⟩

@[simp]
theorem text_single (first : List Char) (h) : (single first h).text = first := by
  simp [single, text, fill]

@[simp]
theorem text_cons (cut : Cut) (first : List Char) (h) :
    (cut.cons first h).text = first ++ (slot ++ cut.text) := by
  simp [cons, text, fill]

theorem fill_cons (cut : Cut) (first : List Char) (h) (t : List Char) (ts : List (List Char)) :
    (cut.cons first h).fill (t :: ts) = first ++ (t ++ cut.fill ts) := by
  simp [cons, fill]

/-- A cut has no slot, or begins with one and the part before it. -/
@[elab_as_elim]
theorem induction {motive : Cut → Prop} (single : ∀ first h, motive (single first h))
    (cons : ∀ cut first h, motive cut → motive (cons cut first h)) (cut : Cut) : motive cut := by
  obtain ⟨first, rest, whole⟩ := cut
  induction rest generalizing first with
  | nil => exact single first (by simpa using whole)
  | cons part rest ih =>
    obtain ⟨hfirst, hrest⟩ := List.forall_mem_cons.mp whole
    exact cons ⟨part, rest, hrest⟩ first hfirst (ih part hrest)

end Cut

theorem slotCount_eq_zero_iff {cs : List Char} : slotCount cs = 0 ↔ ¬ slot <:+: cs := by
  fun_induction slotCount cs with
  | case1 => simp [slot]
  | case2 cs ih =>
    have hholds : slot <:+: '\x7b' :: '\x7d' :: cs := ⟨[], cs, rfl⟩
    simp [hholds]
  | case3 c cs hslot ih =>
    have hbegins : ¬ slot <+: c :: cs := by
      rw [slot_prefix_cons]
      rintro ⟨rest, hc, hcs⟩
      exact hslot rest hc hcs
    rw [ih, List.infix_cons_iff, not_or]
    exact ⟨fun h => ⟨hbegins, h⟩, And.right⟩

namespace Cut

/-- A cut has the slots of its message. -/
theorem slotCount_text (cut : Cut) : slotCount cut.text = cut.rest.length := by
  induction cut using Cut.induction with
  | single first h =>
    rw [text_single]
    exact slotCount_eq_zero_iff.mpr h
  | cons cut first h ih =>
    rw [text_cons, slotCount_append _ (by simp [slot]), slotCount_eq_zero_iff.mpr h, slot]
    simp only [List.cons_append, List.nil_append, slotCount, ih]
    simp [cons]

/-- Texts in place of the slots of a message stand between its parts. -/
theorem substitute_text {cut : Cut} {texts : List (List Char)}
    (h : texts.length = cut.rest.length) : substitute cut.text texts = cut.fill texts := by
  induction cut using Cut.induction generalizing texts with
  | single first _ =>
    obtain rfl : texts = [] := List.eq_nil_of_length_eq_zero h
    rw [text_single, substitute_nil]
    simp [single, fill]
  | cons cut first hfirst ih =>
    rcases texts with _ | ⟨t, ts⟩
    · cases h
    · rw [text_cons, fill_cons,
        substitute_append (by simp [slot]) (slotCount_eq_zero_iff.mpr hfirst), slot]
      simp only [List.cons_append, List.nil_append, substitute]
      rw [ih (Nat.succ.inj h)]

/-- **Every message can be cut at its slots.** A slot at its front begins a new part, and any other
character is put before the first part, where it opens no slot. -/
theorem exists_cut (message : List Char) : ∃ cut : Cut, cut.text = message := by
  fun_induction slotCount message with
  | case1 => exact ⟨single [] (by simp [slot]), text_single [] _⟩
  | case2 cs ih =>
    obtain ⟨cut, rfl⟩ := ih
    exact ⟨cut.cons [] (by simp [slot]), text_cons cut [] _⟩
  | case3 c cs hslot ih =>
    obtain ⟨⟨first, rest, whole⟩, rfl⟩ := ih
    obtain ⟨hfirst, hrest⟩ := List.forall_mem_cons.mp whole
    have hopen : ¬ slot <:+: c :: first := by
      rw [List.infix_cons_iff, slot_prefix_cons, not_or]
      refine ⟨?_, hfirst⟩
      rintro ⟨ds, hc, rfl⟩
      exact hslot _ hc rfl
    exact ⟨⟨c :: first, rest, List.forall_mem_cons.mpr ⟨hopen, hrest⟩⟩, rfl⟩

/-- What stands before a slot that a text begins with is nothing. -/
theorem eq_nil_of_slot_append {part xs ys : List Char} (hpart : ¬ slot <:+: part)
    (h : slot ++ xs = part ++ (slot ++ ys)) : part = [] := by
  rcases part with _ | ⟨c, _ | ⟨d, part⟩⟩
  · rfl
  · cases h
  · obtain ⟨rfl, hrest⟩ := List.cons.inj h
    obtain ⟨rfl, -⟩ := List.cons.inj hrest
    exact absurd ⟨[], part, rfl⟩ hpart

/-- The first slot of a text is found at one place: one of two parts would be longer, and hold the
slot of the other, or a brace of it. -/
theorem first_part_inj {part part' xs ys : List Char} (hpart : ¬ slot <:+: part)
    (hpart' : ¬ slot <:+: part') (h : part ++ (slot ++ xs) = part' ++ (slot ++ ys)) :
    part = part' ∧ xs = ys := by
  induction part generalizing part' with
  | nil =>
    obtain rfl := eq_nil_of_slot_append hpart' h
    exact ⟨rfl, List.append_cancel_left h⟩
  | cons c part ih =>
    rcases part' with _ | ⟨c', part'⟩
    · cases eq_nil_of_slot_append hpart h.symm
    · rw [List.infix_cons_iff, not_or] at hpart hpart'
      obtain ⟨rfl, htail⟩ := List.cons.inj h
      obtain ⟨rfl, hrest⟩ := ih hpart.2 hpart'.2 htail
      exact ⟨rfl, hrest⟩

/-- **A message is cut at its slots in one way.** Part by part, from the first one on. -/
theorem eq_of_text_eq {a b : Cut} (h : a.text = b.text) : a = b := by
  have hlength : a.rest.length = b.rest.length := by
    rw [← slotCount_text, ← slotCount_text, h]
  induction a using Cut.induction generalizing b with
  | single first _ =>
    induction b using Cut.induction with
    | single first' _ =>
      rw [text_single, text_single] at h
      subst h
      rfl
    | cons b first' _ _ => cases hlength
  | cons a first hfirst ih =>
    induction b using Cut.induction with
    | single first' _ => cases hlength
    | cons b first' hfirst' _ =>
      rw [text_cons, text_cons] at h
      obtain ⟨rfl, hrest⟩ := first_part_inj hfirst hfirst' h
      obtain rfl := ih hrest (Nat.succ.inj hlength)
      rfl

end Cut

/-! ## Tuples of values

Values can be given as a tuple or spread. Spread, a single dictionary would be taken for named
values. In a tuple it is a value, and that is what is asked here: as many values as slots, and a
failure for any other number. -/

variable {naming : Naming} {message : List Char}

/-- A format filled with a tuple of values: a dictionary in it is a value like any other. -/
def fillTuple (naming : Naming) (format : List Char) (vs : List Value) :
    Except Fault (List Char) :=
  fillPieces naming (Piece.ofFormat format) ⟨vs, none⟩

/-- What is wrong with a number of values for a number of slots. -/
def mismatch (slots values : Nat) : Fault :=
  if values < slots then .tooFewOperands else .tooManyOperands

theorem kind_mismatch (slots values : Nat) : (mismatch slots values).kind = .typeError := by
  rw [mismatch]
  split <;> rfl

/-- The texts of texts. -/
theorem mapM_text_str (texts : List String) :
    (texts.map Value.str).mapM (Value.text naming) = .ok (texts.map String.toList) := by
  induction texts with
  | nil => rfl
  | cons t texts ih =>
    have ht : Value.text naming (.str t) = .ok t.toList := by rw [Value.text]
    rw [List.map_cons, List.mapM_cons, ht, ih]
    rfl

/-- **A tuple of values for the slots of a message**: the values that the slots take have to have
texts, and after that there have to be as many values as slots. So if a value has no text, that is
what it fails with, also where the number is wrong. -/
theorem fillTuple_ofMessage {cut : Cut} (hcut : cut.text = message) (vs : List Value) :
    fillTuple naming (ofMessage message) vs =
      (vs.take cut.rest.length).mapM (Value.text naming) >>= fun texts =>
        if vs.length = cut.rest.length then .ok (cut.fill texts)
        else .error (mismatch cut.rest.length vs.length) := by
  subst hcut
  have hcount := cut.slotCount_text
  rcases Nat.lt_trichotomy vs.length cut.rest.length with hlt | heq | hgt
  · rw [fillTuple, fillPieces_ofMessage_few naming none _ vs (by omega),
      List.take_of_length_le (by omega)]
    simp only [mismatch, if_neg (Nat.ne_of_lt hlt), if_pos hlt]
  · rw [fillTuple, fillPieces_ofMessage naming none _ vs (by omega),
      List.take_of_length_le (Nat.le_of_eq heq)]
    rcases htexts : vs.mapM (Value.text naming) with f | texts
    · rfl
    · have hfill := Cut.substitute_text ((length_texts naming htexts).trans heq)
      simp only [bind, Except.bind, if_pos heq, ← hfill]
      rfl
  · rw [fillTuple, fillPieces_ofMessage_many naming _ vs (by omega), hcount]
    simp only [mismatch, if_neg (Nat.ne_of_gt hgt), if_neg (Nat.not_lt_of_lt hgt)]

/-- What the translation of a message does, with the cut of the message at its slots. -/
structure Translates (naming : Naming) (message : List Char) (cut : Cut) : Prop where
  text : cut.text = message
  unique : ∀ other : Cut, other.text = message → other = cut
  /-- the slots are the occurrences of a slot in the message -/
  count : cut.rest.length = message.tails.countP (slot.isPrefixOf ·)
  /-- percent signs are doubled, and after that the slots become conversions -/
  replaced : ofMessage message = converting (doubled message)
  /-- as many texts as there are slots stand between the parts -/
  filled : ∀ texts : List String, texts.length = cut.rest.length →
    fillTuple naming (ofMessage message) (texts.map .str) = .ok (cut.fill (texts.map String.toList))
  /-- any other number of texts is a type error -/
  refused : ∀ texts : List String, texts.length ≠ cut.rest.length →
    ∃ f, fillTuple naming (ofMessage message) (texts.map .str) = .error f ∧ f.kind = .typeError
  /-- so it is with values of any kind, as soon as those that the slots take have given their
  texts -/
  values : ∀ vs : List Value, fillTuple naming (ofMessage message) vs =
    (vs.take cut.rest.length).mapM (Value.text naming) >>= fun texts =>
      if vs.length = cut.rest.length then .ok (cut.fill texts)
      else .error (mismatch cut.rest.length vs.length)
  /-- without slots the filled format is the message, and that is the event which a log point
  without values emits as it stands -/
  unformatted : cut.rest = [] → fillTuple naming (ofMessage message) [] = .ok message ∧
    ∀ point : LogPoint, point.plan.message.toList = message →
      Logger.eventText naming (point.callEvent []) [] =
        String.ofList <$> fillTuple naming (ofMessage message) []

/-- **The translation of a message** is filled by texts as the message itself is. The percent signs
in it come out as they were, and texts that look like slots or conversions are not read again. -/
theorem ofMessage_translates (naming : Naming) (message : List Char) :
    ∃ cut : Cut, Translates naming message cut := by
  obtain ⟨cut, hcut⟩ := Cut.exists_cut message
  have htexts (texts : List String) : fillTuple naming (ofMessage message) (texts.map .str) =
      if texts.length = cut.rest.length then .ok (cut.fill (texts.map String.toList))
      else .error (mismatch cut.rest.length texts.length) := by
    rw [fillTuple_ofMessage hcut, ← List.map_take, mapM_text_str, List.length_map]
    by_cases hlength : texts.length = cut.rest.length
    · rw [List.take_of_length_le (Nat.le_of_eq hlength)]
      rfl
    · simp only [bind, Except.bind, if_neg hlength]
  refine ⟨cut, hcut, fun other h => Cut.eq_of_text_eq (h.trans hcut.symm), ?_,
    ofMessage_eq_replaced message, ?_, ?_, fillTuple_ofMessage hcut, ?_⟩
  · rw [← Cut.slotCount_text, hcut, slotCount_eq_countP_tails]
    rfl
  · intro texts hlength
    rw [htexts, if_pos hlength]
  · intro texts hlength
    rw [htexts, if_neg hlength]
    exact ⟨_, rfl, kind_mismatch _ _⟩
  · intro hrest
    have hfill : cut.fill [] = message := by
      rw [← hcut, Cut.text, hrest]
      rfl
    have hmessage : fillTuple naming (ofMessage message) [] = .ok message := by
      rw [fillTuple_ofMessage hcut, hrest]
      exact congrArg Except.ok hfill
    refine ⟨hmessage, fun point hpoint => ?_⟩
    rw [hmessage, ← hpoint]
    exact congrArg Except.ok String.ofList_toList.symm

end Format

end CallLog
