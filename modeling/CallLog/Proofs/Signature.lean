import CallLog.Signature

/-!
# Binding arguments

What each parameter of a signature is given by a call. `Signature.Receives` says it for one
parameter, without the order in which the others take theirs: by its place among the positional
arguments, by its name, by default, or all that is left. `receives_of_fill` says that filling the
parameters one after the other comes to the same.

The binding that is asked before a call is stricter than the one of the call itself. What the strict
one gives, the other gives too (`accept_of_bind`).
-/

namespace CallLog

/-! ## Well-formed signatures -/

/-- The place of a kind in the order of the parameters. -/
def ParamKind.rank : ParamKind → Nat
  | .positional => 0
  | .either => 1
  | .rest => 2
  | .named => 3
  | .others => 4

/-- Whether a parameter may stand before another one: kinds are in order, and only one parameter
takes what is left. -/
def Param.Before (p q : Param) : Prop :=
  p.kind.rank ≤ q.kind.rank ∧ (p.kind = q.kind → p.kind ≠ .rest ∧ p.kind ≠ .others)

instance (p q : Param) : Decidable (p.Before q) := by
  unfold Param.Before
  infer_instance

/-- Whether a parameter takes its argument by position only, or either way. -/
def Param.IsPlaced (p : Param) : Prop :=
  p.kind = .positional ∨ p.kind = .either

/-- Whether a parameter takes an argument by its name. -/
def Param.isNamed (p : Param) : Bool :=
  p.kind = .either || p.kind = .named

/-- After the parameter that takes the positional arguments that are left, none takes one. -/
theorem Param.Before.of_rest {p q : Param} (h : p.Before q) (hp : p.kind = .rest) :
    q.kind = .named ∨ q.kind = .others := by
  obtain ⟨hrank, hsame⟩ := h
  rcases hq : q.kind with _ | _ | _ | _ | _ <;> simp_all [ParamKind.rank]

/-- The parameter that takes the named arguments that are left is the last one. -/
theorem Param.not_before_of_others {p q : Param} (hp : p.kind = .others) : ¬ p.Before q := by
  rintro ⟨hrank, hsame⟩
  rcases hq : q.kind with _ | _ | _ | _ | _ <;> simp_all [ParamKind.rank]

namespace Signature

/-- A signature that a function can be declared with. -/
structure WellFormed (signature : Signature) : Prop where
  distinct : (signature.params.map Param.name).Nodup
  ordered : signature.params.Pairwise Param.Before

/-- The named arguments that belong to no parameter of a list. -/
def unclaimed (params : List Param) (named : List (String × Value)) : List (String × Value) :=
  named.filter fun e => !params.any fun p => p.isNamed && p.name = e.1

/-- What a call gives the parameter at an index: the value. -/
inductive Receives (params : List Param) (arguments : Arguments) (k : Nat) (p : Param) :
    Value → Prop where
  | placed {v : Value} (hkind : p.IsPlaced) (hv : arguments.positional[k]? = some v) :
      Receives params arguments k p v
  | named {v : Value} (hkind : p.isNamed = true)
      (hk : p.kind = .either → arguments.positional.length ≤ k)
      (hv : arguments.named.lookup p.name = some v) : Receives params arguments k p v
  | default {v : Value} (hkind : p.IsPlaced ∨ p.kind = .named)
      (hk : p.IsPlaced → arguments.positional.length ≤ k)
      (hnone : p.isNamed = true → arguments.named.lookup p.name = none)
      (hv : p.default = some v) : Receives params arguments k p v
  | rest (hkind : p.kind = .rest) :
      Receives params arguments k p (.tuple (arguments.positional.drop k))
  | others (hkind : p.kind = .others) :
      Receives params arguments k p
        (.dict ((unclaimed params arguments.named).map fun (n, v) => (.str n, v)))

/-! ## Named arguments

The named arguments that are left at some point are those that no parameter before has claimed. A
parameter claims a name if it can be given by name, whether or not there is an argument for it. -/

theorem unclaimed_nil (named : List (String × Value)) : unclaimed [] named = named := by
  simp [unclaimed]

/-- A parameter that takes a name leaves the others. What is left is filtered, so the order does not
matter in which the names were claimed. -/
theorem unclaimed_append_of_named {params : List Param} {p : Param} (hp : p.isNamed = true)
    (named : List (String × Value)) :
    unclaimed (params ++ [p]) named = without p.name (unclaimed params named) := by
  rw [unclaimed, unclaimed, without, List.filter_filter]
  refine List.filter_congr fun e _ => ?_
  have hname : decide (e.1 ≠ p.name) = !decide (p.name = e.1) := by
    rw [decide_not, decide_eq_decide.mpr eq_comm]
  rw [List.any_append, List.any_cons, List.any_nil, hp, Bool.true_and, Bool.or_false,
    Bool.not_or, Bool.and_comm, hname]

/-- A parameter whose name is not given leaves all. -/
theorem unclaimed_append_of_absent {params : List Param} {p : Param}
    {named : List (String × Value)}
    (hp : p.isNamed = true → (unclaimed params named).lookup p.name = none) :
    unclaimed (params ++ [p]) named = unclaimed params named := by
  rcases hnamed : p.isNamed with _ | _
  · simp [unclaimed, hnamed]
  · rw [unclaimed_append_of_named hnamed, without, List.filter_eq_self]
    intro e he
    have hne := List.lookup_eq_none_iff.mp (hp hnamed) e he
    simpa using Ne.symm (bne_iff_ne.mp hne)

/-- Other parameters do not take the argument of a name. -/
theorem lookup_unclaimed {params : List Param} {name : String}
    (hname : name ∉ params.map Param.name) (named : List (String × Value)) :
    (unclaimed params named).lookup name = named.lookup name := by
  induction named with
  | nil => rfl
  | cons e named ih =>
    rw [unclaimed] at ih ⊢
    rw [List.filter_cons]
    obtain ⟨n, v⟩ := e
    by_cases hn : name = n
    · subst hn
      have hkept : (!params.any fun p => p.isNamed && p.name = name) = true := by
        rw [Bool.not_eq_true', List.any_eq_false]
        intro p hp
        have hne : p.name ≠ name := fun h => hname (h ▸ List.mem_map_of_mem hp)
        simp [hne]
      rw [if_pos hkept, List.lookup_cons_self, List.lookup_cons_self]
    · have hbeq : (name == n) = false := by simpa using hn
      split
      · rw [List.lookup_cons, List.lookup_cons, hbeq, ih]
      · rw [List.lookup_cons, hbeq, ih]

/-! ## What a parameter takes

Parameters take their arguments in order, so what one of them gets depends on what is left by those
before it. `IsLeft` says what that is without looking at the steps, as long as there is a parameter
that could take it. -/

/-- What is left of the arguments when the parameters before some others have taken theirs, as far
as any of those that come can take it. -/
structure IsLeft (arguments : Arguments) (before after : List Param) (left : Left) : Prop where
  named : after ≠ [] → left.named = unclaimed before arguments.named
  positional : left.positional = arguments.positional.drop before.length ∨
    ∀ p ∈ after, p.kind = .named ∨ p.kind = .others

section

variable {strict : Bool} {arguments : Arguments} {before after : List Param} {p : Param}
  {left left' : Left} {v : Value}

theorem IsLeft.named_eq (h : IsLeft arguments before (p :: after) left) :
    left.named = unclaimed before arguments.named :=
  h.named (List.cons_ne_nil p after)

theorem IsLeft.positional_of (h : IsLeft arguments before (p :: after) left)
    (hp : p.kind ≠ .named ∧ p.kind ≠ .others) :
    left.positional = arguments.positional.drop before.length := by
  rcases h.positional with h | h
  · exact h
  · rcases h p List.mem_cons_self with h | h
    · exact absurd h hp.1
    · exact absurd h hp.2

/-- After a parameter that takes an argument by position. -/
theorem IsLeft.placed (h : IsLeft arguments before (p :: after) left) {arg : Value}
    {args : List Value} (hargs : left.positional = arg :: args)
    (hp : p.kind ≠ .named ∧ p.kind ≠ .others)
    (habsent : p.isNamed = true → left.named.lookup p.name = none) :
    IsLeft arguments (before ++ [p]) after { left with positional := args } := by
  have hdrop := h.positional_of hp
  rw [hargs] at hdrop
  refine ⟨?_, .inl ?_⟩
  · rw [h.named_eq] at habsent
    rw [unclaimed_append_of_absent habsent]
    exact fun _ => h.named_eq
  · have htail : args = (arguments.positional.drop before.length).tail := by
      rw [← hdrop, List.tail_cons]
    rw [htail, List.tail_drop, List.length_append, List.length_singleton]

/-- After a parameter for which no positional argument is left. -/
theorem IsLeft.unplaced (h : IsLeft arguments before (p :: after) left)
    (hargs : left.positional = []) {named : List (String × Value)}
    (hnamed : named = unclaimed (before ++ [p]) arguments.named) :
    IsLeft arguments (before ++ [p]) after ⟨[], named⟩ := by
  refine ⟨fun _ => hnamed, ?_⟩
  rcases h.positional with hdrop | hkinds
  · refine .inl ?_
    rw [hargs] at hdrop
    rw [List.length_append, List.length_singleton, ← List.tail_drop, ← hdrop, List.tail_nil]
  · exact .inr fun q hq => hkinds q (List.mem_cons_of_mem p hq)

/-- No positional argument is left for a parameter that could take one. -/
theorem IsLeft.length_le (h : IsLeft arguments before (p :: after) left)
    (hargs : left.positional = []) (hp : p.IsPlaced) :
    arguments.positional.length ≤ before.length := by
  have hkind : p.kind ≠ .named ∧ p.kind ≠ .others := by
    rcases hp with hp | hp <;> simp [hp]
  rw [← List.drop_eq_nil_iff, ← h.positional_of hkind, hargs]

/-- What is left for a parameter has its argument, if it was given by name. -/
theorem IsLeft.lookup (h : IsLeft arguments before (p :: after) left)
    (hname : p.name ∉ before.map Param.name) :
    left.named.lookup p.name = arguments.named.lookup p.name := by
  rw [h.named_eq, lookup_unclaimed hname]

/-- A parameter that takes an argument by name receives that, else its default. It cannot have been
claimed before, since no other parameter has the name. -/
theorem receives_of_takeNamed (hleft : IsLeft arguments before (p :: after) left)
    (hname : p.name ∉ before.map Param.name) (hargs : left.positional = [])
    (hnamed : p.isNamed = true) (h : takeNamed p left.named = some (v, left')) :
    Receives (before ++ p :: after) arguments before.length p v ∧
      IsLeft arguments (before ++ [p]) after left' := by
  have hplaced : p.IsPlaced → arguments.positional.length ≤ before.length :=
    hleft.length_le hargs
  have hlookup := hleft.lookup hname
  rw [takeNamed] at h
  rcases hgiven : left.named.lookup p.name with _ | given
  · rw [hgiven] at h hlookup
    obtain ⟨d, hdefault, heq⟩ := Option.map_eq_some_iff.mp h
    obtain ⟨rfl, rfl⟩ := Prod.mk.inj heq
    have hkind : p.IsPlaced ∨ p.kind = .named := by
      rcases (by simpa [Param.isNamed] using hnamed : p.kind = .either ∨ p.kind = .named) with
        hp | hp
      · exact .inl (.inr hp)
      · exact .inr hp
    refine ⟨.default hkind hplaced (fun _ => hlookup.symm) hdefault, hleft.unplaced hargs ?_⟩
    rw [unclaimed_append_of_absent, hleft.named_eq]
    rw [← hleft.named_eq]
    exact fun _ => hgiven
  · rw [hgiven] at h hlookup
    obtain ⟨rfl, rfl⟩ := Prod.mk.inj (Option.some.inj h)
    refine ⟨.named hnamed (fun hp => hplaced (.inr hp)) hlookup.symm, hleft.unplaced hargs ?_⟩
    rw [unclaimed_append_of_named hnamed, hleft.named_eq]

/-- A parameter that takes an argument by position receives the first that is left, which is the one
at its own index. -/
theorem receives_of_placed (hleft : IsLeft arguments before (p :: after) left)
    (hplaced : p.IsPlaced) {args : List Value} (hargs : left.positional = v :: args)
    (habsent : p.isNamed = true → left.named.lookup p.name = none) :
    Receives (before ++ p :: after) arguments before.length p v ∧
      IsLeft arguments (before ++ [p]) after { left with positional := args } := by
  have hkinds : p.kind ≠ .named ∧ p.kind ≠ .others := by
    rcases hplaced with hkind | hkind <;> simp [hkind]
  refine ⟨.placed hplaced ?_, hleft.placed hargs hkinds habsent⟩
  rw [← List.head?_drop, ← hleft.positional_of hkinds, hargs, List.head?_cons]

/-- **One parameter** takes what it is to receive, and leaves the rest to those that come. There is
a case for each kind of parameter, and for those that can be given in two ways one for each way. -/
theorem receives_of_take (hleft : IsLeft arguments before (p :: after) left)
    (hname : p.name ∉ before.map Param.name) (hafter : ∀ q ∈ after, p.Before q)
    (h : take strict p left = some (v, left')) :
    Receives (before ++ p :: after) arguments before.length p v ∧
      IsLeft arguments (before ++ [p]) after left' := by
  -- parameters that have no name to callers leave the named arguments alone
  have hunclaimed (hunnamed : p.isNamed = false) :
      left.named = unclaimed (before ++ [p]) arguments.named := by
    rw [unclaimed_append_of_absent (by simp [hunnamed]), hleft.named_eq]
  rw [take] at h
  rcases hkind : p.kind with _ | _ | _ | _ | _
  case positional =>
    have hunnamed : p.isNamed = false := by simp [Param.isNamed, hkind]
    rcases hargs : left.positional with _ | ⟨arg, args⟩
    · rw [hkind, hargs] at h
      dsimp only at h
      split at h
      · cases h
      · obtain ⟨d, hdefault, heq⟩ := Option.map_eq_some_iff.mp h
        obtain ⟨rfl, rfl⟩ := Prod.mk.inj heq
        refine ⟨.default (.inl (.inl hkind)) (hleft.length_le hargs) (by simp [hunnamed])
          hdefault, ?_⟩
        have hrest := hleft.unplaced hargs (hunclaimed hunnamed)
        rwa [← hargs] at hrest
    · rw [hkind, hargs] at h
      obtain ⟨rfl, rfl⟩ := Prod.mk.inj (Option.some.inj h)
      exact receives_of_placed hleft (.inl hkind) hargs (by simp [hunnamed])
  case either =>
    rcases hargs : left.positional with _ | ⟨arg, args⟩
    · rw [hkind, hargs] at h
      exact receives_of_takeNamed hleft hname hargs (by simp [Param.isNamed, hkind]) h
    · rw [hkind, hargs] at h
      dsimp only at h
      split at h
      · cases h
      · rename_i habsent
        obtain ⟨rfl, rfl⟩ := Prod.mk.inj (Option.some.inj h)
        exact receives_of_placed hleft (.inr hkind) hargs fun _ =>
          Option.not_isSome_iff_eq_none.mp habsent
  case rest =>
    have hkinds : p.kind ≠ .named ∧ p.kind ≠ .others := by simp [hkind]
    rw [hkind] at h
    obtain ⟨rfl, rfl⟩ := Prod.mk.inj (Option.some.inj h)
    rw [hleft.positional_of hkinds]
    exact ⟨.rest hkind, fun _ => hunclaimed (by simp [Param.isNamed, hkind]),
      .inr fun q hq => (hafter q hq).of_rest hkind⟩
  case named =>
    rcases hargs : left.positional with _ | ⟨arg, args⟩
    · rw [hkind, hargs] at h
      exact receives_of_takeNamed hleft hname hargs (by simp [Param.isNamed, hkind]) h
    · rw [hkind, hargs] at h
      cases h
  case others =>
    have hlast : after = [] := List.eq_nil_iff_forall_not_mem.mpr fun q hq =>
      Param.not_before_of_others hkind (hafter q hq)
    rcases hargs : left.positional with _ | ⟨arg, args⟩
    · rw [hkind, hargs] at h
      obtain ⟨rfl, rfl⟩ := Prod.mk.inj (Option.some.inj h)
      rw [hlast, hunclaimed (by simp [Param.isNamed, hkind])]
      refine ⟨.others hkind, ⟨fun hnil => absurd rfl hnil, .inr ?_⟩⟩
      simp
    · rw [hkind, hargs] at h
      cases h

end

/-! ## What the parameters take

Taking is repeated for all parameters. In the end nothing may be left, but by then every parameter
has received its value, and only that is said here. -/

/-- **Filling the parameters** gives each of them what it is to receive. The induction keeps the
parameters that have taken their arguments apart. -/
theorem receives_of_fill {strict : Bool} {arguments : Arguments} {before after : List Param}
    {left : Left} {values : List Value} (hdistinct : ((before ++ after).map Param.name).Nodup)
    (hordered : after.Pairwise Param.Before) (hleft : IsLeft arguments before after left)
    (h : fill strict after left = some values) (i : Nat) {p : Param} {v : Value}
    (hp : after[i]? = some p) (hv : values[i]? = some v) :
    Receives (before ++ after) arguments (before.length + i) p v := by
  induction after generalizing before left values i with
  | nil => simp at hp
  | cons q after ih =>
    have hname : q.name ∉ before.map Param.name := by
      intro hq
      rw [List.map_append, List.nodup_append] at hdistinct
      exact hdistinct.2.2 _ hq _ (List.mem_map_of_mem List.mem_cons_self) rfl
    obtain ⟨hafter, hordered⟩ := List.pairwise_cons.mp hordered
    rw [fill] at h
    split at h
    · rename_i u left' htake
      obtain ⟨us, hfill, rfl⟩ := Option.map_eq_some_iff.mp h
      obtain ⟨hreceives, hleft⟩ := receives_of_take hleft hname hafter htake
      cases i with
      | zero =>
        obtain rfl := Option.some.inj hp
        obtain rfl := Option.some.inj hv
        exact hreceives
      | succ i =>
        have hdistinct : (((before ++ [q]) ++ after).map Param.name).Nodup := by
          simpa using hdistinct
        have hrest := ih hdistinct hordered hleft hfill i hp hv
        rw [List.append_assoc, List.singleton_append, List.length_append,
          List.length_singleton, Nat.add_assoc, Nat.add_comm 1] at hrest
        exact hrest
    · cases h

/-- **What binds to a signature** is for each parameter what it is to receive. Names are distinct
and kinds are ordered in every signature that can be written, and that is all that is used. -/
theorem receives_of_bind {signature : Signature} (hsignature : signature.WellFormed)
    {arguments : Arguments} {values : List Value} (h : signature.bind arguments = some values)
    {i : Nat} {p : Param} {v : Value} (hp : signature.params[i]? = some p)
    (hv : values[i]? = some v) : Receives signature.params arguments i p v := by
  have hleft : IsLeft arguments [] signature.params ⟨arguments.positional, arguments.named⟩ :=
    ⟨fun _ => (unclaimed_nil _).symm, .inl rfl⟩
  have hdistinct : (([] ++ signature.params).map Param.name).Nodup := hsignature.distinct
  have hreceives := receives_of_fill hdistinct hsignature.ordered hleft h i hp hv
  rwa [List.nil_append, List.length_nil, Nat.zero_add] at hreceives

/-! ## Strict and lenient binding

Binding before a call refuses some arguments that the call itself accepts. It never accepts others,
and it never gives other values. -/

/-- What the strict way takes the lenient one takes as well, and leaves the same. -/
theorem take_of_strict {p : Param} {left : Left} {taken : Value × Left}
    (h : take true p left = some taken) : take false p left = some taken := by
  rw [take] at h ⊢
  split at h
  case h_2 =>
    -- only here does strictness count
    split at h
    · cases h
    · exact h
  all_goals exact h

theorem fill_of_strict {ps : List Param} {left : Left} {values : List Value}
    (h : fill true ps left = some values) : fill false ps left = some values := by
  induction ps generalizing left values with
  | nil => exact h
  | cons p ps ih =>
    rw [fill] at h ⊢
    split at h
    · rename_i v left' htake
      obtain ⟨vs, hvs, rfl⟩ := Option.map_eq_some_iff.mp h
      rw [take_of_strict htake]
      exact Option.map_eq_some_iff.mpr ⟨vs, ih hvs, rfl⟩
    · cases h

/-- **Arguments that bind to a signature** are accepted in a call, for the same values. -/
theorem accept_of_bind {signature : Signature} {arguments : Arguments} {values : List Value}
    (h : signature.bind arguments = some values) : signature.accept arguments = .ok values := by
  have hfill : fill false signature.params ⟨arguments.positional, arguments.named⟩ = some values :=
    fill_of_strict h
  rw [accept, hfill]

theorem length_bind {signature : Signature} {arguments : Arguments} {values : List Value}
    (h : signature.bind arguments = some values) : values.length = signature.params.length :=
  length_fill h

end Signature

end CallLog
