import CallLog.Rules

/-!
# The rules of an explicit message

What the body of a slot refers to is said here without reading it: `Refers` relates it to an index,
given the bodies before it. An empty body refers to the parameter after those that the empty bodies
before it took, a numeral to the one with its number, and any other body to none. `SlotRule` is the
rule that a slot gets from that.

The main statement is `exists_explicitRules`: where no numeral is too long to be read, every slot
gets its rule.
-/

namespace CallLog

namespace Text

/-- A numeral: an optional sign and ASCII digits. -/
inductive IsNumeral : List Char → Int → List Char → Prop where
  | bare {ds : List Char} (hne : ds ≠ []) (hds : ∀ d ∈ ds, isDigit d = true) : IsNumeral ds 1 ds
  | plus {ds : List Char} (hne : ds ≠ []) (hds : ∀ d ∈ ds, isDigit d = true) :
      IsNumeral ('+' :: ds) 1 ds
  | minus {ds : List Char} (hne : ds ≠ []) (hds : ∀ d ∈ ds, isDigit d = true) :
      IsNumeral ('-' :: ds) (-1) ds

/-- Digits have no sign. -/
theorem splitSign_digits {ds : List Char} (h : ∀ d ∈ ds, isDigit d = true) :
    splitSign ds = (1, ds) := by
  unfold splitSign
  split
  · exact absurd (h '+' (by simp)) (by decide)
  · exact absurd (h '-' (by simp)) (by decide)
  · rfl

theorem numeral?_of_splitSign {cs : List Char} {sign : Int} {ds : List Char}
    (h : splitSign cs = (sign, ds)) (hne : ds ≠ []) (hds : ∀ d ∈ ds, isDigit d = true) :
    numeral? cs = some (sign, ds) := by
  rcases ds with _ | ⟨d, ds⟩
  · exact absurd rfl hne
  · simp only [numeral?, h]
    exact if_pos (List.all_eq_true.mpr hds)

/-- What is read as a numeral is one. The sign is taken off first, and the digits after it are
looked at; so a sign alone is none. -/
theorem numeral?_eq_some_iff {cs : List Char} {sign : Int} {ds : List Char} :
    numeral? cs = some (sign, ds) ↔ IsNumeral cs sign ds := by
  constructor
  · intro h
    unfold numeral? at h
    split at h
    · cases h
    · rename_i hne hsplit
      split at h
      · rename_i hall
        cases h
        have hds := List.all_eq_true.mp hall
        have hne' : ds ≠ [] := fun hnil => hne (by rw [hnil])
        unfold splitSign at hsplit
        split at hsplit <;> cases hsplit
        · exact .plus hne' hds
        · exact .minus hne' hds
        · exact .bare hne' hds
      · cases h
  · intro h
    cases h with
    | bare hne hds => exact numeral?_of_splitSign (splitSign_digits hds) hne hds
    | plus hne hds => exact numeral?_of_splitSign rfl hne hds
    | minus hne hds => exact numeral?_of_splitSign rfl hne hds

end Text

namespace Rule

/-- The index that the body of a slot refers to, after the bodies before it. -/
inductive Refers (before : List (List Char)) : List Char → Int → Prop where
  /-- an empty body takes the parameter after those that the empty bodies before it took -/
  | next : Refers before [] (before.count [])
  | numeral {body : List Char} {sign : Int} {ds : List Char} (h : Text.IsNumeral body sign ds) :
      Refers before body (sign * Text.valueOf ds)

/-- A body refers to one index. An empty body is no numeral, and of a numeral the first character
tells whether it has a sign. -/
theorem Refers.unique {before : List (List Char)} {body : List Char} {i k : Int}
    (hi : Refers before body i) (hk : Refers before body k) : i = k := by
  have hempty : ∀ sign ds, ¬ Text.IsNumeral [] sign ds := by
    intro sign ds hnum
    cases hnum with
    | bare hne hds => exact hne rfl
  cases hi with
  | next =>
    cases hk with
    | next => rfl
    | numeral hnum => exact absurd hnum (hempty _ _)
  | numeral hnum =>
    cases hk with
    | next => exact absurd hnum (hempty _ _)
    | numeral hnum' =>
      rw [← Text.numeral?_eq_some_iff] at hnum hnum'
      obtain ⟨rfl, rfl⟩ := Prod.mk.inj (Option.some.inj (hnum.symm.trans hnum'))
      rfl

/-- The text in place of an index without a parameter. -/
def indexText (i : Int) : String :=
  "invalid log parameter index: " ++ String.ofList (Text.numeral i)

/-- The text in place of a body that refers to nothing. -/
def expressionText (body : List Char) : String :=
  String.ofList ("invalid log parameter expression: ".toList ++ body)

/-- The rule that a slot gets, after the bodies before it. An index without a parameter, and a body
that refers to nothing, are shown as texts in the message and fail nothing. -/
inductive SlotRule (parameters : List Parameter) (before : List (List Char)) (body : List Char) :
    Rule → Prop where
  | live {i : Nat} {p : Parameter} (hi : Refers before body i) (hp : parameters[i]? = some p) :
      SlotRule parameters before body (.ofParameter p)
  | outside {i : Int} (hi : Refers before body i) (h : i < 0 ∨ parameters.length ≤ i) :
      SlotRule parameters before body (.static (indexText i))
  | invalid (h : ∀ i, ¬ Refers before body i) :
      SlotRule parameters before body (.static (expressionText body))

/-- A body is read unless it is a numeral with too many digits. -/
def IsReadable (body : List Char) : Prop :=
  ∀ sign ds, Text.IsNumeral body sign ds → ds.length ≤ Text.digitLimit

theorem slotRule_forIndex {parameters : List Parameter} {before : List (List Char)}
    {body : List Char} {i : Int} (hi : Refers before body i) :
    SlotRule parameters before body (forIndex parameters i) := by
  by_cases hneg : i < 0
  · rw [forIndex, if_pos hneg]
    exact .outside hi (.inl hneg)
  · obtain ⟨n, rfl⟩ := Int.eq_ofNat_of_zero_le (Int.not_lt.mp hneg)
    rw [forIndex, if_neg hneg]
    rcases hp : parameters[n]? with _ | p
    · rw [Int.toNat_natCast, hp]
      exact .outside hi (.inr (Int.ofNat_le.mpr (List.getElem?_eq_none_iff.mp hp)))
    · rw [Int.toNat_natCast, hp]
      exact .live hi hp

theorem not_refers {before : List (List Char)} {body : List Char} (hne : body ≠ [])
    (h : Text.numeral? body = none) (i : Int) : ¬ Refers before body i := by
  intro hi
  cases hi with
  | next => exact hne rfl
  | numeral hn =>
    rw [Text.numeral?_eq_some_iff.mpr hn] at h
    cases h

/-- The first of some slots gets its rule, and the others get theirs after it. -/
theorem explicitRules_cons (parameters : List Parameter) (before : List (List Char))
    {body : List Char} (hbody : IsReadable body) :
    ∃ rule, SlotRule parameters before body rule ∧
      ∀ rest, explicitRules parameters (before.count []) (body :: rest) =
        (rule :: ·) <$> explicitRules parameters ((before ++ [body]).count []) rest := by
  rcases body with _ | ⟨c, cs⟩
  · refine ⟨forIndex parameters (before.count []), slotRule_forIndex .next, fun rest => ?_⟩
    rw [List.count_append]
    rfl
  · have hcount : (before ++ [c :: cs]).count [] = before.count [] := by
      simp [List.count_append]
    rw [hcount]
    rcases hn : Text.numeral? (c :: cs) with _ | ⟨sign, ds⟩
    · refine ⟨.static (expressionText (c :: cs)),
        .invalid (not_refers (List.cons_ne_nil c cs) hn), fun rest => ?_⟩
      simp only [explicitRules, reference, hn]
      rfl
    · have hnum := Text.numeral?_eq_some_iff.mp hn
      refine ⟨forIndex parameters (sign * Text.valueOf ds), slotRule_forIndex (.numeral hnum),
        fun rest => ?_⟩
      have hlen : ¬ Text.digitLimit < ds.length := Nat.not_lt.mpr (hbody sign ds hnum)
      simp only [explicitRules, reference, hn, if_neg hlen]
      rfl

/-- **Every slot gets its rule**, if no numeral is too long to be read. By induction on the bodies,
where the ones before are carried along: the empty ones among them say which parameter is next. -/
theorem exists_explicitRules (parameters : List Parameter) (before bodies : List (List Char))
    (h : ∀ body ∈ bodies, IsReadable body) :
    ∃ rules, explicitRules parameters (before.count []) bodies = .ok rules ∧
      rules.length = bodies.length ∧
      ∀ k body, bodies[k]? = some body →
        ∃ rule, rules[k]? = some rule ∧
          SlotRule parameters (before ++ bodies.take k) body rule := by
  induction bodies generalizing before with
  | nil => exact ⟨[], rfl, rfl, by simp⟩
  | cons body bodies ih =>
    obtain ⟨hbody, hbodies⟩ := List.forall_mem_cons.mp h
    obtain ⟨rule, hrule, hcons⟩ := explicitRules_cons parameters before hbody
    obtain ⟨rules, hrules, hlen, hall⟩ := ih (before ++ [body]) hbodies
    refine ⟨rule :: rules, ?_, by simp [hlen], ?_⟩
    · rw [hcons, hrules]
      rfl
    · intro k b hk
      rcases k with _ | k
      · obtain rfl : body = b := Option.some.inj hk
        exact ⟨rule, rfl, by simpa using hrule⟩
      · obtain ⟨r, hr, hslot⟩ := hall k b hk
        exact ⟨r, hr, by simpa using hslot⟩

end Rule

end CallLog
