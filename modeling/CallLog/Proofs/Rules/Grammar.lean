import CallLog.Proofs.Rules.Slots
import CallLog.Proofs.Template.Grammar

/-!
# Templates read by their layout

Everything that is read off a template is read off its layout: the bodies of its slots, its normal
form, and the rules of an explicit message. The rule of a slot depends on its own body and on how
many bodies before it are empty, and on nothing else. So another body in place of one changes no
other rule, as long as neither of the two is empty.

The main statement is `exists_readAs`: every text is read by its one layout, and the layout tells
the rules.
-/

namespace CallLog

namespace Text

/-! ## Canonical numerals

The rule for an index without a parameter says the index again, as it would be counted and not as it
is spelled: a slot with `+07` has the number seven in its text. -/

/-- A text is the canonical numeral of a number. -/
structure IsCanonical (cs : List Char) (i : Int) : Prop where
  /-- it is a numeral of the number -/
  numeral : ∃ sign ds, IsNumeral cs sign ds ∧ sign * valueOf ds = i
  /-- it has no plus sign -/
  unsigned : '+' ∉ cs
  /-- it has no zero in front, unless it is zero -/
  leading : ∀ sign ds, IsNumeral cs sign ds → ds.head? = some '0' → cs = ['0']

theorem digitChar_isDigit : ∀ n : Fin 10, isDigit (Nat.digitChar n) = true := by
  decide

theorem digitChar_eq_zero : ∀ n : Fin 10, Nat.digitChar n = '0' → n = 0 := by
  decide

theorem digits_ne_nil (n : Nat) : digits n ≠ [] := by
  unfold digits
  split <;> simp

theorem isDigit_of_mem_digits (n : Nat) : ∀ d ∈ digits n, isDigit d = true := by
  fun_induction digits n with
  | case1 n h => simpa using digitChar_isDigit ⟨n, h⟩
  | case2 n h ih =>
    intro d hd
    rcases List.mem_append.mp hd with hd | hd
    · exact ih d hd
    · rw [List.mem_singleton.mp hd]
      exact digitChar_isDigit ⟨n % 10, Nat.mod_lt n (by decide)⟩

/-- Only zero has a zero in front. -/
theorem eq_zero_of_head_digits {n : Nat} (h : (digits n).head? = some '0') : n = 0 := by
  fun_induction digits n with
  | case1 n hn => exact congrArg Fin.val (digitChar_eq_zero ⟨n, hn⟩ (Option.some.inj h))
  | case2 n hn ih =>
    rw [List.head?_append_of_ne_nil _ (digits_ne_nil _)] at h
    have hzero := ih h
    omega

/-- **Numbers are written as canonical numerals**, the negative ones with a minus sign. None of them
but zero has a zero in front. -/
theorem numeral_isCanonical (i : Int) : IsCanonical (numeral i) i := by
  have hplus (n : Nat) : '+' ∉ digits n := fun h => absurd (isDigit_of_mem_digits n _ h) (by decide)
  by_cases hneg : i < 0
  · have hnum : IsNumeral ('-' :: digits i.natAbs) (-1) (digits i.natAbs) :=
      .minus (digits_ne_nil _) (isDigit_of_mem_digits _)
    rw [numeral, if_pos hneg]
    refine ⟨⟨_, _, hnum, ?_⟩, ?_, ?_⟩
    · rw [valueOf_digits]
      omega
    · simpa using hplus _
    · intro sign ds hds hhead
      rw [← numeral?_eq_some_iff] at hnum hds
      obtain ⟨-, rfl⟩ := Prod.mk.inj (Option.some.inj (hnum.symm.trans hds))
      have hzero := eq_zero_of_head_digits hhead
      omega
  · have hnum : IsNumeral (digits i.natAbs) 1 (digits i.natAbs) :=
      .bare (digits_ne_nil _) (isDigit_of_mem_digits _)
    rw [numeral, if_neg hneg]
    refine ⟨⟨_, _, hnum, ?_⟩, hplus _, ?_⟩
    · rw [valueOf_digits]
      omega
    · intro sign ds hds hhead
      rw [← numeral?_eq_some_iff] at hnum hds
      obtain ⟨-, rfl⟩ := Prod.mk.inj (Option.some.inj (hnum.symm.trans hds))
      rw [eq_zero_of_head_digits hhead, digits]
      rfl

end Text

namespace Rule

variable {parameters : List Parameter} {before before' : List (List Char)} {body : List Char}
  {rule rule' : Rule}

/-! ## What a rule depends on

Rules were related to the list of all bodies before them. Only the number of empty ones among these
counts, and it counts for an empty body only. That is why a rule can be found again when some body
before it becomes another one. -/

/-- The bodies before a slot matter to an empty one, and only by how many of them are empty. -/
theorem Refers.of_count {i : Int} (hi : Refers before body i)
    (h : body = [] → before.count [] = before'.count []) : Refers before' body i := by
  cases hi with
  | next =>
    rw [h rfl]
    exact .next
  | numeral hnum => exact .numeral hnum

theorem SlotRule.of_count (hrule : SlotRule parameters before body rule)
    (h : body = [] → before.count [] = before'.count []) :
    SlotRule parameters before' body rule := by
  cases hrule with
  | live hi hp => exact .live (hi.of_count h) hp
  | outside hi hout => exact .outside (hi.of_count h) hout
  | invalid hno => exact .invalid fun i hi => hno i (hi.of_count fun hnil => (h hnil).symm)

/-- A slot gets one rule. An index is of a parameter or not, and a body refers to one index or to
none, so the three kinds of rules exclude each other. -/
theorem SlotRule.unique (hrule : SlotRule parameters before body rule)
    (hrule' : SlotRule parameters before body rule') : rule = rule' := by
  -- an index of a parameter is not outside, and a body that refers to an index is not invalid
  have hin {i : Nat} {p : Parameter} (hp : parameters[i]? = some p) : i < parameters.length :=
    (List.getElem?_eq_some_iff.mp hp).1
  cases hrule with
  | live hi hp =>
    cases hrule' with
    | live hi' hp' =>
      obtain rfl := Int.ofNat_inj.mp (hi.unique hi')
      rw [Option.some.inj (hp.symm.trans hp')]
    | outside hi' hout =>
      obtain rfl := hi.unique hi'
      have hlt := hin hp
      omega
    | invalid hno => exact absurd hi (hno _)
  | outside hi hout =>
    cases hrule' with
    | live hi' hp' =>
      obtain rfl := hi.unique hi'
      have hlt := hin hp'
      omega
    | outside hi' hout' => rw [hi.unique hi']
    | invalid hno => exact absurd hi (hno _)
  | invalid hno =>
    cases hrule' with
    | live hi' _ => exact absurd hi' (hno _)
    | outside hi' _ => exact absurd hi' (hno _)
    | invalid _ => rfl

/-- Another body in place of one changes how many are empty before no slot, if neither is empty.
Else the empty slots after it would move by one parameter. -/
theorem count_take_set {bodies : List (List Char)} {rank : Nat} {old new : List Char}
    (hrank : bodies[rank]? = some old) (hold : old ≠ []) (hnew : new ≠ []) (k : Nat) :
    ((bodies.set rank new).take k).count [] = (bodies.take k).count [] := by
  rw [List.take_set]
  by_cases hlt : rank < (bodies.take k).length
  · have hat : (bodies.take k)[rank] = old := by
      rw [List.getElem_take]
      exact (List.getElem?_eq_some_iff.mp hrank).2
    rw [List.count_set hlt, hat]
    simp [hold, hnew]
  · rw [List.set_eq_of_length_le (Nat.not_lt.mp hlt)]

/-- **A body only changes its own rule**, as long as it was not empty and is not now. -/
theorem explicitRules_set {bodies : List (List Char)} {rank : Nat} {old new : List Char}
    {rules : List Rule} (hreadable : ∀ b ∈ bodies, IsReadable b)
    (hrules : explicitRules parameters 0 bodies = .ok rules)
    (hrank : bodies[rank]? = some old) (hold : old ≠ []) (hnew : new ≠ [])
    (hread : IsReadable new) :
    ∃ rule, explicitRules parameters 0 (bodies.set rank new) = .ok (rules.set rank rule) ∧
      SlotRule parameters (bodies.take rank) new rule := by
  have hlt : rank < bodies.length := (List.getElem?_eq_some_iff.mp hrank).1
  have hreadable' : ∀ b ∈ bodies.set rank new, IsReadable b := by
    intro b hb
    rcases List.mem_or_eq_of_mem_set hb with hb | rfl
    · exact hreadable b hb
    · exact hread
  obtain ⟨made, hmade, hlen, hslots⟩ := exists_explicitRules parameters [] bodies hreadable
  obtain rfl : made = rules := Except.ok.inj (hmade.symm.trans hrules)
  obtain ⟨made', hmade', hlen', hslots'⟩ :=
    exists_explicitRules parameters [] (bodies.set rank new) hreadable'
  obtain ⟨rule, hrule, hslot⟩ := hslots' rank new (by simp [hlt])
  refine ⟨rule, ?_, hslot.of_count fun hnil => absurd hnil hnew⟩
  rw [show made.set rank rule = made' from ?_]
  · exact hmade'
  · apply List.ext_getElem?
    intro k
    by_cases heq : rank = k
    · subst heq
      rw [List.getElem?_set_self (by omega), hrule]
    · rw [List.getElem?_set_ne heq]
      rcases hb : bodies[k]? with _ | b
      · have hk := List.getElem?_eq_none_iff.mp hb
        rw [List.getElem?_eq_none (by omega),
          List.getElem?_eq_none (by rw [hlen', List.length_set]; omega)]
      · obtain ⟨r, hr, hrs⟩ := hslots k b hb
        obtain ⟨r', hr', hrs'⟩ := hslots' k b (by rw [List.getElem?_set_ne heq, hb])
        rw [hr, hr', hrs.unique (hrs'.of_count fun _ => count_take_set hrank hold hnew k)]

end Rule

/-! ## Templates are read by their layout

The text of a template is told by its layout, and everything else by the text. The statements here
put together what was shown of the two passes over the text, for its bodies and its normal form, and
of the rules. -/

/-- The rules that a template gives for some parameters, told by its layout. -/
structure Layout.RuledBy (layout : Layout) (parameters : List Parameter) (rules : List Rule) :
    Prop where
  /-- they are made from the bodies that are found in the text -/
  made : Rule.explicitRules parameters 0 (Template.ofText layout.text).bodies = .ok rules
  /-- an explicit message is resolved to them and to its normal form -/
  resolved : layout.text ≠ [] → ∀ name errorIndex,
    Rule.resolve name parameters (String.ofList layout.text) errorIndex =
      .ok (rules, String.ofList layout.bare)
  /-- there is one for each slot -/
  length : rules.length = layout.slots.length
  /-- a rule is told by the body of its slot and by how many bodies before it are empty -/
  slot : ∀ k body, layout.bodies[k]? = some body → ∃ rule, rules[k]? = some rule ∧
    ∀ before : List (List Char), before.count [] = (layout.bodies.take k).count [] →
      ∀ other, Rule.SlotRule parameters before body other ↔ other = rule
  /-- a rule for an index without a parameter names the index by its canonical numeral -/
  outside : ∀ k body i, layout.bodies[k]? = some body →
    Rule.Refers (layout.bodies.take k) body i → i < 0 ∨ parameters.length ≤ i →
      ∃ numeral, Text.IsCanonical numeral i ∧
        rules[k]? = some (.static ("invalid log parameter index: " ++ String.ofList numeral))
  /-- another body changes no other rule, if it is not empty and the one before was not either -/
  replaced : ∀ rank old new, layout.bodies[rank]? = some old → old ≠ [] → new ≠ [] →
    Rule.IsReadable new → ∀ hnew : '\x7d' ∉ new, ∃ rule,
      Rule.explicitRules parameters 0
        (Template.ofText (layout.withBody rank new hnew).text).bodies = .ok (rules.set rank rule)

/-- How a text is read, told by its layout. -/
structure Layout.ReadAs (layout : Layout) (text : List Char) : Prop where
  /-- there is no other layout -/
  unique : ∀ other : Layout, other.text = text ↔ other = layout
  /-- the bodies that are found are those of the layout -/
  bodies : (Template.ofText text).bodies = layout.bodies
  /-- the normal form has nothing in the slots and the same texts around them -/
  strip : (Template.ofText text).strip.toText = layout.bare
  /-- an empty pair of braces stands in it once for each slot -/
  count : layout.bare.tails.countP (['\x7b', '\x7d'].isPrefixOf ·) = layout.slots.length
  /-- it is its own normal form -/
  fixpoint : (Template.ofText layout.bare).strip.toText = layout.bare
  /-- where no numeral is too long to be read, the rules are told by the layout as well -/
  rules : (∀ body ∈ layout.bodies, Rule.IsReadable body) → ∀ parameters : List Parameter,
    ∃ rules, layout.RuledBy parameters rules

namespace Layout

/-- The rules of a template are told by its layout. -/
theorem exists_ruledBy (layout : Layout) (parameters : List Parameter)
    (hreadable : ∀ body ∈ layout.bodies, Rule.IsReadable body) :
    ∃ rules, layout.RuledBy parameters rules := by
  obtain ⟨rules, hrules, hlen, hslots⟩ :=
    Rule.exists_explicitRules parameters [] layout.bodies hreadable
  have hslot (k : Nat) (body : List Char) (hk : layout.bodies[k]? = some body) :
      ∃ rule, rules[k]? = some rule ∧
        Rule.SlotRule parameters (layout.bodies.take k) body rule := hslots k body hk
  refine ⟨rules, ?_, ?_, ?_, ?_, ?_, ?_⟩
  · rw [bodies_ofText_text]
    exact hrules
  · intro hne name errorIndex
    have hmessage : String.ofList layout.text ≠ "" := by
      intro h
      exact hne (by simpa using congrArg String.toList h)
    simp only [Rule.resolve, if_neg hmessage, String.toList_ofList, bodies_ofText_text,
      toText_strip_text]
    rw [show Rule.explicitRules parameters 0 layout.bodies = .ok rules from hrules]
    rfl
  · rw [hlen, length_bodies]
  · intro k body hk
    obtain ⟨rule, hrule, hthis⟩ := hslot k body hk
    refine ⟨rule, hrule, fun before hcount other => ⟨fun hother => ?_, ?_⟩⟩
    · exact hother.unique (hthis.of_count fun _ => hcount.symm)
    · rintro rfl
      exact hthis.of_count fun _ => hcount.symm
  · intro k body i hk hrefers hout
    obtain ⟨rule, hrule, hthis⟩ := hslot k body hk
    obtain rfl : rule = .static (Rule.indexText i) := hthis.unique (.outside hrefers hout)
    exact ⟨Text.numeral i, Text.numeral_isCanonical i, hrule⟩
  · intro rank old new hrank hold hne hread hnew
    obtain ⟨rule, hrule, -⟩ :=
      Rule.explicitRules_set hreadable hrules hrank hold hne hread
    refine ⟨rule, ?_⟩
    rw [bodies_ofText_text, bodies_withBody]
    exact hrule

/-- **Every text is read by its layout.** The layout is the one that the text has; the rules are
there for any parameters as long as all numerals can be read. -/
theorem exists_readAs (text : List Char) : ∃ layout : Layout, layout.ReadAs text := by
  obtain ⟨layout, rfl, hunique⟩ := existsUnique_layout text
  refine ⟨layout, fun other => ⟨hunique other, ?_⟩, layout.bodies_ofText_text,
    layout.toText_strip_text, ?_, layout.toText_strip_bare, ?_⟩
  · rintro rfl
    rfl
  · rw [← Format.slotCount_eq_countP_tails, Format.slotCount_bare, length_bodies]
  · intro hreadable parameters
    exact exists_ruledBy layout parameters hreadable

end Layout

end CallLog
