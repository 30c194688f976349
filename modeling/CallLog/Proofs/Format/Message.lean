import CallLog.Format
import CallLog.Proofs.Template.Layout

/-!
# Messages as percent formats

`Format.ofMessage` turns the slots of a message into conversions and doubles its percent signs. The
format that it gives, filled with as many values as the message has slots, is the message with the
texts of the values in place of its slots: no percent sign and no other brace is touched. What comes
first among the values that have no text is what the filling fails with.

* `fill_ofMessage`: as many values as slots.
* `fill_ofMessage_few`: fewer values than slots.
-/

namespace CallLog

namespace Format

/-- How many slots a message has. -/
def slotCount : List Char → Nat
  | [] => 0
  | '\x7b' :: '\x7d' :: cs => slotCount cs + 1
  | _ :: cs => slotCount cs

/-- A message with texts in place of its first slots. -/
def substitute : List Char → List (List Char) → List Char
  | [], _ => []
  | '\x7b' :: '\x7d' :: cs, t :: ts => t ++ substitute cs ts
  | c :: cs, ts => c :: substitute cs ts

theorem slotCount_cons {c : Char} {cs : List Char}
    (h : ∀ rest, c = '\x7b' → cs = '\x7d' :: rest → False) :
    slotCount (c :: cs) = slotCount cs := by
  rw [slotCount]
  exact h

theorem substitute_cons {c : Char} {cs : List Char}
    (h : ∀ rest, c = '\x7b' → cs = '\x7d' :: rest → False) (ts : List (List Char)) :
    substitute (c :: cs) ts = c :: substitute cs ts := by
  rw [substitute]
  intro rest t ts _ hc hcs
  exact h rest hc hcs

@[simp]
theorem substitute_nil (message : List Char) : substitute message [] = message := by
  induction message with
  | nil => rfl
  | cons c cs ih =>
    rw [substitute, ih]
    intro rest t ts hts
    cases hts

/-- Between two texts that are joined no slot arises, unless the second one could close it. -/
theorem joined_open {c : Char} {cs ds : List Char} (hd : ds.head? ≠ some '\x7d')
    (h : ∀ rest, c = '\x7b' → cs = '\x7d' :: rest → False) :
    ∀ rest, c = '\x7b' → cs ++ ds = '\x7d' :: rest → False := by
  intro rest hc hjoined
  rcases cs with _ | ⟨d, cs⟩
  · rw [List.nil_append] at hjoined
    exact hd (by rw [hjoined]; rfl)
  · obtain ⟨rfl, -⟩ := List.cons.inj hjoined
    exact h cs hc rfl

/-- The slots of two texts that are joined, if none arises between them. -/
theorem slotCount_append (cs : List Char) {ds : List Char} (hd : ds.head? ≠ some '\x7d') :
    slotCount (cs ++ ds) = slotCount cs + slotCount ds := by
  fun_induction slotCount cs with
  | case1 => simp
  | case2 cs ih =>
    rw [List.cons_append, List.cons_append, slotCount, ih]
    omega
  | case3 c cs hslot ih => rw [List.cons_append, slotCount_cons (joined_open hd hslot), ih]

/-- Text without slots is kept where the text after it is filled. -/
theorem substitute_append {cs ds : List Char} (hd : ds.head? ≠ some '\x7d')
    (hcs : slotCount cs = 0) (ts : List (List Char)) :
    substitute (cs ++ ds) ts = cs ++ substitute ds ts := by
  fun_induction slotCount cs with
  | case1 => rfl
  | case2 cs ih => cases hcs
  | case3 c cs hslot ih =>
    rw [List.cons_append, substitute_cons (joined_open hd hslot), ih hcs, List.cons_append]

/-- Text that opens nothing has no slot, whatever follows it. -/
theorem slotCount_append_of_not_mem {cs : List Char} (h : '\x7b' ∉ cs) (ds : List Char) :
    slotCount (cs ++ ds) = slotCount ds := by
  induction cs with
  | nil => rfl
  | cons c cs ih =>
    rw [List.mem_cons, not_or] at h
    rw [List.cons_append, slotCount_cons fun _ hc => absurd hc.symm h.1, ih h.2]

theorem slotCount_of_not_mem {cs : List Char} (h : '\x7b' ∉ cs) : slotCount cs = 0 := by
  rw [← List.append_nil cs, slotCount_append_of_not_mem h]
  rfl

/-! ## The normal form of a template

The normal form of a template has empty braces for its slots, and other braces doubled or as they
were written, so that looking for slots in it finds the slots of the template and no others. -/

/-- What opens after the last slot is no slot. -/
theorem slotCount_rest {rest : List Char}
    (h : ∀ before after, rest = before ++ '\x7b' :: after → '\x7d' ∉ after) :
    slotCount rest = 0 := by
  induction rest with
  | nil => rfl
  | cons c cs ih =>
    have hslot : ∀ rest, c = '\x7b' → cs = '\x7d' :: rest → False := by
      rintro rest rfl rfl
      exact h [] ('\x7d' :: rest) rfl (by simp)
    rw [slotCount_cons hslot]
    exact ih fun before after he => h (c :: before) after (by rw [he]; rfl)

/-- A template has as many slots in its normal form as it has bodies. -/
theorem slotCount_bare (layout : Layout) : slotCount layout.bare = layout.bodies.length := by
  rw [Layout.bare, Layout.fill_map, Layout.length_bodies]
  have hopen := layout.text_open
  generalize layout.slots = slots at hopen ⊢
  induction slots with
  | nil => simpa using slotCount_rest layout.rest_open
  | cons s slots ih =>
    obtain ⟨hs, hslots⟩ := List.forall_mem_cons.mp hopen
    rw [List.flatMap_cons, List.append_assoc, List.append_assoc, slotCount_append_of_not_mem hs]
    simp only [List.cons_append, List.nil_append, slotCount, List.length_cons]
    rw [ih hslots]

/-- Filling the normal form of a template fills the template: what stands between the slots is kept,
and no slot is found in it. -/
theorem substitute_bare (layout : Layout) {ts : List (List Char)}
    (h : ts.length = layout.bodies.length) : substitute layout.bare ts = layout.fill ts := by
  rw [Layout.bare, Layout.fill_map, Layout.fill]
  rw [Layout.length_bodies] at h
  have hopen := layout.text_open
  generalize layout.slots = slots at hopen h ⊢
  induction slots generalizing ts with
  | nil =>
    obtain rfl : ts = [] := List.eq_nil_of_length_eq_zero h
    simp
  | cons s slots ih =>
    rcases ts with _ | ⟨t, ts⟩
    · cases h
    · obtain ⟨hs, hslots⟩ := List.forall_mem_cons.mp hopen
      rw [List.flatMap_cons, List.append_assoc, List.append_assoc,
        substitute_append (by simp) (slotCount_of_not_mem hs)]
      simp only [List.cons_append, List.nil_append, substitute, List.zipWith_cons_cons,
        List.flatten_cons, List.append_assoc]
      rw [ih hslots (Nat.succ.inj h)]

/-! ## Reading the format

A format is read into pieces, and those of a translated message are of two kinds only: a character,
or the conversion that a slot becomes. A doubled percent sign is read as one character. -/

/-- The conversion that a slot becomes. -/
abbrev hole : Piece := .hole {} (.conversion 's')

theorem ofFormat_doubled (cs : List Char) :
    Piece.ofFormat ('%' :: '%' :: cs) = .lit '%' :: Piece.ofFormat cs := rfl

theorem ofFormat_hole (cs : List Char) :
    Piece.ofFormat ('%' :: 's' :: cs) = hole :: Piece.ofFormat cs := rfl

theorem ofFormat_cons {c : Char} (h : c ≠ '%') (cs : List Char) :
    Piece.ofFormat (c :: cs) = .lit c :: Piece.ofFormat cs := by
  rw [Piece.ofFormat, Piece.scan, Piece.move, if_neg h]
  rfl

/-! ## Filling the format

The pieces take their values from the front of a list, and fail with the first that has no text. The
check on the number of values comes at the two ends: a slot without a value fails when it is
reached, and values that are left over are found when there is no piece any more. -/

variable (naming : Naming) (mapping : Option (List (Value × Value)))

/-- A slot takes the next value and shows its text. -/
theorem apply_hole (v : Value) (vs : List Value) :
    apply naming {} (.conversion 's') ⟨v :: vs, mapping⟩ =
      (fun t => (t, ⟨vs, mapping⟩)) <$> v.text naming := by
  have hconvert : convert naming {} 0 none 's' v = v.text naming := by
    have hpadded (t : List Char) : padded {} 0 (cut none t) = t := by simp [cut, padded]
    rw [convert, if_pos rfl]
    rcases v.text naming with f | t
    · rfl
    · exact congrArg Except.ok (hpadded t)
  calc apply naming {} (.conversion 's') ⟨v :: vs, mapping⟩
      = convert naming {} 0 none 's' v >>= fun t => .ok (t, ⟨vs, mapping⟩) := rfl
    _ = (fun t => (t, ⟨vs, mapping⟩)) <$> v.text naming := by
        rw [hconvert]
        rcases v.text naming with f | t <;> rfl

theorem fillPieces_lit (c : Char) (pieces : List Piece) (operands : Operands) :
    fillPieces naming (.lit c :: pieces) operands =
      (c :: ·) <$> fillPieces naming pieces operands := by
  rw [fillPieces]
  rcases fillPieces naming pieces operands with f | t <;> rfl

theorem fillPieces_hole (v : Value) (vs : List Value) (pieces : List Piece) :
    fillPieces naming (hole :: pieces) ⟨v :: vs, mapping⟩ =
      v.text naming >>= fun t => (t ++ ·) <$> fillPieces naming pieces ⟨vs, mapping⟩ := by
  rw [fillPieces, apply_hole]
  rcases v.text naming with f | t
  · rfl
  · change fillPieces naming pieces ⟨vs, mapping⟩ >>= (fun u => pure (t ++ u)) =
      (t ++ ·) <$> fillPieces naming pieces ⟨vs, mapping⟩
    rcases fillPieces naming pieces ⟨vs, mapping⟩ with f | u <;> rfl

/-- A message filled with some values: first those that its slots take have to have texts, then
there have to be enough of them, and then it is the end that objects to others. -/
def filled (message : List Char) (vs : List Value) : Except Fault (List Char) := do
  let texts ← (vs.take (slotCount message)).mapM (Value.text naming)
  if vs.length < slotCount message then throw .tooFewOperands
  else
    let rest ← fillPieces naming [] ⟨vs.drop (slotCount message), mapping⟩
    return substitute message texts ++ rest

theorem filled_cons {c : Char} {cs : List Char}
    (h : ∀ rest, c = '\x7b' → cs = '\x7d' :: rest → False) (vs : List Value) :
    filled naming mapping (c :: cs) vs = (c :: ·) <$> filled naming mapping cs vs := by
  simp only [filled, slotCount_cons h, substitute_cons h]
  rcases (vs.take (slotCount cs)).mapM (Value.text naming) with f | texts
  · rfl
  · by_cases hlt : vs.length < slotCount cs
    · simp only [if_pos hlt]
      rfl
    · simp only [if_neg hlt]
      rcases fillPieces naming [] ⟨vs.drop (slotCount cs), mapping⟩ with f | rest <;> rfl

theorem filled_slot (v : Value) (vs : List Value) (cs : List Char) :
    filled naming mapping ('\x7b' :: '\x7d' :: cs) (v :: vs) =
      v.text naming >>= fun t => (t ++ ·) <$> filled naming mapping cs vs := by
  simp only [filled, slotCount, List.take_succ_cons, List.mapM_cons, List.drop_succ_cons,
    List.length_cons, Nat.succ_lt_succ_iff]
  rcases v.text naming with f | t
  · rfl
  · rcases (vs.take (slotCount cs)).mapM (Value.text naming) with f | texts
    · rfl
    · by_cases hlt : vs.length < slotCount cs
      · simp only [if_pos hlt]
        rfl
      · simp only [if_neg hlt]
        rcases fillPieces naming [] ⟨vs.drop (slotCount cs), mapping⟩ with f | rest
        · rfl
        · exact congrArg Except.ok (List.append_assoc t (substitute cs texts) rest)

/-- The pieces of the format of a message are filled as the message is. By going through the message
as the translation does; what is said of any number of values follows from this one equation. -/
theorem fillPieces_ofMessage_eq (message : List Char) (vs : List Value) :
    fillPieces naming (Piece.ofFormat (ofMessage message)) ⟨vs, mapping⟩ =
      filled naming mapping message vs := by
  fun_induction ofMessage message generalizing vs with
  | case1 =>
    change fillPieces naming [] ⟨vs, mapping⟩ =
      fillPieces naming [] ⟨vs, mapping⟩ >>= fun rest => .ok ([] ++ rest)
    rcases fillPieces naming [] ⟨vs, mapping⟩ with f | rest <;> rfl
  | case2 cs ih => rw [ofFormat_doubled, fillPieces_lit, ih, filled_cons _ _ (by simp)]
  | case3 cs ih =>
    rcases vs with _ | ⟨v, vs⟩
    · rfl
    · rw [ofFormat_hole, fillPieces_hole, filled_slot]
      simp only [ih]
  | case4 c cs hpercent hslot ih =>
    have hc : c ≠ '%' := hpercent
    rw [ofFormat_cons hc, fillPieces_lit, ih, filled_cons _ _ hslot]

/-- The pieces of the format of a message, filled with a value for each slot. -/
theorem fillPieces_ofMessage (message : List Char) (vs : List Value)
    (h : vs.length = slotCount message) :
    fillPieces naming (Piece.ofFormat (ofMessage message)) ⟨vs, mapping⟩ =
      substitute message <$> vs.mapM (Value.text naming) := by
  have hend : fillPieces naming [] ⟨[], mapping⟩ = .ok [] := by cases mapping <;> rfl
  rw [fillPieces_ofMessage_eq, filled, ← h, List.take_length, List.drop_length, hend]
  rcases vs.mapM (Value.text naming) with f | texts
  · rfl
  · simp only [Nat.lt_irrefl, if_false]
    exact congrArg Except.ok (List.append_nil _)

/-- With too few values for its slots the format cannot be filled. -/
theorem fillPieces_ofMessage_few (message : List Char) (vs : List Value)
    (h : vs.length < slotCount message) :
    fillPieces naming (Piece.ofFormat (ofMessage message)) ⟨vs, mapping⟩ =
      vs.mapM (Value.text naming) >>= fun _ => .error .tooFewOperands := by
  simp only [fillPieces_ofMessage_eq, filled, List.take_of_length_le (Nat.le_of_lt h), if_pos h]
  rfl

/-- With too many values for its slots it cannot be filled either, unless keys refer to them. -/
theorem fillPieces_ofMessage_many (message : List Char) (vs : List Value)
    (h : slotCount message < vs.length) :
    fillPieces naming (Piece.ofFormat (ofMessage message)) ⟨vs, none⟩ =
      (vs.take (slotCount message)).mapM (Value.text naming) >>= fun _ =>
        .error .tooManyOperands := by
  have hend : fillPieces naming [] ⟨vs.drop (slotCount message), none⟩ =
      .error .tooManyOperands := by
    rw [fillPieces, if_pos]
    simpa using h
  simp only [fillPieces_ofMessage_eq, filled, if_neg (Nat.not_lt_of_lt h), hend]
  rfl

/-- There is a text for each value. -/
theorem length_texts {vs : List Value} {ts : List (List Char)}
    (h : vs.mapM (Value.text naming) = .ok ts) : ts.length = vs.length := by
  induction vs generalizing ts with
  | nil =>
    cases h
    rfl
  | cons v vs ih =>
    rw [List.mapM_cons] at h
    rcases hv : v.text naming with f | t
    · rw [hv] at h
      cases h
    · rcases hvs : vs.mapM (Value.text naming) with f | us
      · rw [hv, hvs] at h
        cases h
      · rw [hv, hvs] at h
        cases h
        exact congrArg Nat.succ (ih hvs)

/-! ## Operands

Values that are spread become the operands of a format. A single dictionary is something special
there: it can be referred to by keys as well. No conversion of a translated message does so, and
then it counts like any other value. -/

/-- A dictionary that is the only argument is an operand like any other. -/
theorem operandsOf_eq (vs : List Value) : operandsOf vs = ⟨vs, (operandsOf vs).mapping⟩ := by
  unfold operandsOf
  split <;> rfl

/-- **A message is filled by as many values as it has slots.** -/
theorem fill_ofMessage {message : List Char} {vs : List Value}
    (h : vs.length = slotCount message) :
    fill naming (ofMessage message) vs =
      substitute message <$> vs.mapM (Value.text naming) := by
  rw [fill, operandsOf_eq]
  exact fillPieces_ofMessage naming _ message vs h

/-- A message is not filled by fewer values than it has slots. -/
theorem fill_ofMessage_few {message : List Char} {vs : List Value}
    (h : vs.length < slotCount message) :
    fill naming (ofMessage message) vs =
      vs.mapM (Value.text naming) >>= fun _ => .error .tooFewOperands := by
  rw [fill, operandsOf_eq]
  exact fillPieces_ofMessage_few naming _ message vs h

end Format

end CallLog
