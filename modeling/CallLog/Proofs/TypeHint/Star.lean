import CallLog.Proofs.TypeHint.Union

/-!
# Annotations with a star

When an annotation is evaluated, `Unpack` takes the place of each star in it. `unstarred` is what
evaluation makes of an annotation apart from the texts in it. It can do more than change stars: the
members of a union that it makes equal become one, and a bar beside `Unpack` makes a union spelled
with a subscript.

What stays is that the annotation is built around a star before, and around `Unpack` after
(`holdsUnpack_of_unstarred`). Whatever is built around either of them describes no exceptions, and a
result declared so carries a value; so for what a plan asks of annotations stars do not count, with
the exception of marks. `HidesNoMarks` is the condition that evaluation brings no marks to light.
-/

namespace CallLog

namespace TypeHint

/-! ## What an annotation is built around

`Holds` says that something is to be found in an annotation at any depth, and which, up to equality.
It is stated for any origins, so that it serves for a star before evaluation and for `Unpack` after.
-/

/-- A construct with arguments that is made with one of some origins stands in an annotation. -/
inductive Holds (p : Origin → Prop) : TypeHint → Prop where
  | here {origin : Origin} {as : List TypeHint} (h : p origin) : Holds p (generic origin as)
  | inside {a b : TypeHint} (hb : b ∈ a.parts) (h : Holds p b) : Holds p a

/-- A star stands in an annotation. -/
def HoldsStar (a : TypeHint) : Prop :=
  a.Holds fun origin => ∃ k, origin = .starred k

/-- `Unpack` stands in an annotation, with arguments. -/
def HoldsUnpack (a : TypeHint) : Prop :=
  a.Holds fun origin => origin = .unpack

theorem exists_mem_of_forall₂ {α β : Type} {R : α → β → Prop} {as : List α} {bs : List β} {a : α}
    (h : List.Forall₂ R as bs) (ha : a ∈ as) : ∃ b ∈ bs, R a b := by
  induction h with
  | nil => cases ha
  | cons hab _ ih =>
    rcases List.mem_cons.mp ha with rfl | ha
    · exact ⟨_, List.mem_cons_self, hab⟩
    · obtain ⟨b, hb, hab⟩ := ih ha
      exact ⟨b, List.mem_cons_of_mem _ hb, hab⟩

namespace Holds

variable {p : Origin → Prop} {a b c : TypeHint} {as : List TypeHint} {marks : List Mark}

theorem asMember_eq (h : a.Holds p) : a.asMember = a := by
  cases a with
  | none | text =>
    cases h with
    | inside hb => cases hb
  | _ => rfl

theorem annotated_iff : (annotated a marks).Holds p ↔ a.Holds p := by
  constructor
  · rintro (_ | ⟨hb, h⟩)
    obtain rfl := List.mem_singleton.mp hb
    exact h
  · exact .inside List.mem_cons_self

theorem unmark (h : a.Holds p) : a.unmark.1.Holds p := by
  cases a with
  | annotated => exact annotated_iff.mp h
  | _ => exact h

/-- Equal annotations are built around the same origins. Part by part for most of them; for unions,
the member around which one is built has an equal one in the other. -/
theorem congr (h : a.Holds p) (hab : a.equal b = true) : b.Holds p := by
  induction h generalizing b with
  | here h =>
    cases equal_iff.mp hab with
    | same => exact .here h
    | generic => exact .here h
    | sets ha => cases ha
  | inside hm h ih =>
    cases equal_iff.mp hab with
    | same => exact .inside hm h
    | listOf hpart | typeOf hpart | annotated _ hpart =>
      obtain rfl := List.mem_singleton.mp hm
      exact .inside List.mem_cons_self (ih hpart)
    | generic _ hall =>
      obtain ⟨n, hn, hmn⟩ := exists_mem_of_forall₂ hall hm
      exact .inside hn (ih hmn)
    | sets ha hb hall =>
      rw [parts_of_members? ha] at hm
      obtain ⟨n, hn, hmn⟩ := hall _ hm
      exact .inside (parts_of_members? hb ▸ hn) (ih hmn)

/-! ## Building around it

Whatever is made of annotations, with marks, subscripts or bars, is built around what they are built
around. For unions this takes some care: members are flattened, and of equal ones only the first is
kept. -/

theorem exists_flattened (h : a.Holds p) : ∃ m ∈ a.flattened, m.Holds p := by
  rcases hms : a.members? with _ | ms
  · rw [flattened, hms, Option.getD_none, h.asMember_eq]
    exact ⟨a, List.mem_cons_self, h⟩
  · rw [flattened_of_members? hms]
    cases h with
    | here => cases hms
    | inside hm h => exact ⟨_, parts_of_members? hms ▸ hm, h⟩

theorem exists_flatMap (ha : a ∈ as) (h : a.Holds p) : ∃ m ∈ as.flatMap flattened, m.Holds p := by
  obtain ⟨m, hm, h⟩ := h.exists_flattened
  exact ⟨m, List.mem_flatMap.mpr ⟨a, ha, hm⟩, h⟩

/-- A union that is built around some member may keep another one in its place, but that is equal to
it. -/
theorem collapse {spelling : List TypeHint → TypeHint} (hspelling : ∀ ms, (spelling ms).parts = ms)
    (h : ∃ m ∈ as, m.Holds p) : (collapse spelling as).Holds p := by
  obtain ⟨m, hm, h⟩ := h
  obtain ⟨n, hn, hnm⟩ := exists_mem_distinct hm
  have hholds : n.Holds p := h.congr (equal_symm hnm)
  unfold TypeHint.collapse
  split
  · rename_i b hb
    rw [hb] at hn
    obtain rfl := List.mem_singleton.mp hn
    exact hholds
  · exact .inside ((hspelling _).symm ▸ hn) hholds

theorem unionOf (ha : a ∈ as) (h : a.Holds p) (hc : unionOf as = .ok c) : c.Holds p := by
  cases as with
  | nil => cases ha
  | cons b as =>
    obtain ⟨bs, hbs, hc⟩ := Action.except_bind_eq_ok hc
    obtain rfl := Except.ok.inj hc
    rw [flatMap_unionMembers hbs]
    exact collapse (fun _ => rfl) (exists_flatMap ha h)

/-- A bar makes a union of either form, or fails; what it is built around does not depend on
which. -/
theorem bar (ha : a ∈ [b, c]) (h : a.Holds p) {d : TypeHint} (hd : bar b c = .ok d) :
    d.Holds p := by
  unfold TypeHint.bar at hd
  split at hd
  · cases hd
  · split at hd
    · rename_i hplain
      rw [Bool.and_eq_true] at hplain
      obtain rfl := Except.ok.inj hd
      rw [barMembers_eq hplain.1, barMembers_eq hplain.2]
      exact collapse (fun _ => rfl) (by simpa using exists_flatMap ha h)
    · split at hd
      · exact unionOf ha h hd
      · cases hd

theorem foldlM_bar (ha : a ∈ b :: as) (h : a.Holds p) (hc : as.foldlM TypeHint.bar b = .ok c) :
    c.Holds p := by
  induction as generalizing a b with
  | nil =>
    obtain rfl := List.mem_singleton.mp ha
    obtain rfl := Except.ok.inj hc
    exact h
  | cons d as ih =>
    rw [List.foldlM_cons] at hc
    obtain ⟨e, he, hc⟩ := Action.except_bind_eq_ok hc
    rw [List.mem_cons, List.mem_cons, ← or_assoc] at ha
    rcases ha with ha | ha
    · exact ih List.mem_cons_self (h.bar (by simpa using ha) he) hc
    · exact ih (List.mem_cons_of_mem e ha) h hc

theorem barAll (ha : a ∈ as) (h : a.Holds p) (hc : barAll as = .ok c) : c.Holds p := by
  cases as with
  | nil => cases ha
  | cons b as => exact foldlM_bar ha h hc

/-- What marks put on it leave without them. -/
theorem exists_marked (h : a.Holds p) (hc : marked a marks = .ok c) :
    ∃ b ns, c = .annotated b ns ∧ b.Holds p := by
  obtain ⟨b, hb, hc⟩ := Action.except_bind_eq_ok hc
  obtain rfl := asMember_of_nested hb
  rw [h.asMember_eq] at hc
  split at hc
  · obtain rfl := Except.ok.inj hc
    exact ⟨_, _, rfl, annotated_iff.mp h⟩
  · cases hc
  · obtain rfl := Except.ok.inj hc
    exact ⟨_, _, rfl, h⟩

end Holds

/-! ## Evaluated stars

`unstarred` goes through an annotation as resolving does, without a world to look names up in. A
union whose members come out equal to what they were is left as it was spelled. -/

mutual

/-- What evaluation makes of an annotation, apart from the texts in it. -/
def unstarred : TypeHint → Except Fault TypeHint
  | union ms => do
    let rs ← allUnstarred ms
    if sameItems rs ms then return union ms else unionOf rs
  | alternatives ms => do
    let rs ← allUnstarred ms
    if sameItems rs ms then return alternatives ms else barAll rs
  | listOf a => do return listOf (← unstarred a)
  | generic origin as => do return withArguments origin (← allUnstarred as)
  | typeOf a => do return typeOf (← unstarred a)
  | annotated a marks => do marked (← unstarred a) marks
  | a => .ok a

/-- What evaluation makes of some annotations. -/
def allUnstarred : List TypeHint → Except Fault (List TypeHint)
  | [] => .ok []
  | a :: as => do return (← unstarred a) :: (← allUnstarred as)

end

theorem mem_of_allUnstarred {a : TypeHint} {as bs : List TypeHint} (ha : a ∈ as)
    (h : allUnstarred as = .ok bs) : ∃ b ∈ bs, a.unstarred = .ok b := by
  induction as generalizing bs with
  | nil => cases ha
  | cons c as ih =>
    obtain ⟨b, hb, h⟩ := Action.except_bind_eq_ok h
    obtain ⟨bs, hbs, h⟩ := Action.except_bind_eq_ok h
    obtain rfl := Except.ok.inj h
    rcases List.mem_cons.mp ha with rfl | ha
    · exact ⟨b, List.mem_cons_self, hb⟩
    · obtain ⟨d, hd, had⟩ := ih ha hbs
      exact ⟨d, List.mem_cons_of_mem b hd, had⟩

/-- A union is made anew if evaluation has changed one of its members. If not, it stays as it was
spelled, with members that are equal to the evaluated ones, so it has `Unpack` in it already. -/
theorem holdsUnpack_of_rebuilt {a b r : TypeHint} {rs : List TypeHint}
    {make : List TypeHint → Except Fault TypeHint} (hr : r ∈ rs) (hholds : r.HoldsUnpack)
    (hmake : ∀ {c}, make rs = .ok c → c.HoldsUnpack)
    (h : (if sameItems rs a.parts then pure a else make rs) = .ok b) : b.HoldsUnpack := by
  split at h
  · rename_i heq
    obtain rfl := Except.ok.inj h
    obtain ⟨n, hn, hrn⟩ := exists_mem_of_forall₂ (sameItems_iff.mp heq) hr
    exact .inside hn (hholds.congr hrn)
  · exact hmake h

/-- **Where a star stood `Unpack` stands.** By induction on where the star stands: the part with the
star has one with `Unpack` in its place. -/
theorem holdsUnpack_of_unstarred {a b : TypeHint} (ha : a.HoldsStar) (h : a.unstarred = .ok b) :
    b.HoldsUnpack := by
  induction ha generalizing b with
  | here hstar =>
    obtain ⟨k, rfl⟩ := hstar
    obtain ⟨bs, -, h⟩ := Action.except_bind_eq_ok h
    obtain rfl := Except.ok.inj h
    exact .here rfl
  | @inside a m hm _ ih =>
    have hparts {rs : List TypeHint} (hrs : allUnstarred a.parts = .ok rs) :
        ∃ r ∈ rs, r.HoldsUnpack := by
      obtain ⟨r, hr, hmr⟩ := mem_of_allUnstarred hm hrs
      exact ⟨r, hr, ih hmr⟩
    cases a with
    | union ms =>
      obtain ⟨rs, hrs, h⟩ := Action.except_bind_eq_ok h
      obtain ⟨r, hr, hholds⟩ := hparts hrs
      exact holdsUnpack_of_rebuilt (a := union ms) hr hholds (hholds.unionOf hr) h
    | alternatives ms =>
      obtain ⟨rs, hrs, h⟩ := Action.except_bind_eq_ok h
      obtain ⟨r, hr, hholds⟩ := hparts hrs
      exact holdsUnpack_of_rebuilt (a := alternatives ms) hr hholds (hholds.barAll hr) h
    | generic origin as =>
      obtain ⟨rs, hrs, h⟩ := Action.except_bind_eq_ok h
      obtain rfl := Except.ok.inj h
      obtain ⟨r, hr, hholds⟩ := hparts hrs
      cases origin with
      | starred => exact .here rfl
      | cls | unpack => exact .inside hr hholds
    | listOf c | typeOf c =>
      obtain rfl := List.mem_singleton.mp hm
      obtain ⟨d, hd, h⟩ := Action.except_bind_eq_ok h
      obtain rfl := Except.ok.inj h
      exact .inside List.mem_cons_self (ih hd)
    | annotated c marks =>
      obtain rfl := List.mem_singleton.mp hm
      obtain ⟨d, hd, h⟩ := Action.except_bind_eq_ok h
      obtain ⟨e, ns, rfl, he⟩ := (ih hd).exists_marked h
      exact Holds.annotated_iff.mpr he
    | _ => cases hm

/-! ## Marks that evaluation brings to light

Marks inside of a union do not count as the marks of the parameter. When two marked members become
one and there are no others, that one is all there is, and its marks are marks of the parameter from
then on. -/

/-- What an annotation is without its marks has no marks when it is evaluated. Else two members of a
union have marks, and are one once their stars are evaluated. -/
def HidesNoMarks (a : TypeHint) : Prop :=
  ∀ b marks, a.unmark.1.unstarred ≠ .ok (annotated b marks)

end TypeHint

end CallLog
