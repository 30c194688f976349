import CallLog.Proofs.Action
import CallLog.Proofs.TypeHint.Star
import CallLog.World.Hints

/-!
# Annotations without text

An annotation in which no text is left has nothing to be resolved. `IsSettled` says so, and that the
marks in it are joined, as those of all annotations are that can be made (`isSettled_of_marked`).

Such an annotation can be resolved without a world: the stars in it are evaluated, and `None`
becomes its class (`follows_resolveDeclared`). Without a star in it, it is given back as it is
(`eq_of_unstarred`). Resolving may fail, for one because annotations are nested too deep, but not on
account of the world: then it fails in every world, and in the same way. `Follows` is this relation
between what is computed in all worlds and what is computed in none.
-/

namespace CallLog

namespace TypeHint

/-- An annotation holds no text, and no marks are put on `None` or on what has marks already. The
second part holds of everything that marking makes, and without it evaluation would join the marks
anew. -/
inductive IsSettled : TypeHint → Prop where
  | intro {a : TypeHint} (text : ∀ s, a ≠ .text s) (reference : ∀ s, a ≠ .reference s)
      (marks : ∀ b ms, a = .annotated b ms → b ≠ .none ∧ ∀ c ns, b ≠ .annotated c ns)
      (parts : ∀ b ∈ a.parts, IsSettled b) : IsSettled a

namespace IsSettled

variable {a b : TypeHint}

theorem not_text (h : a.IsSettled) (s : String) : a ≠ .text s := by
  cases h with
  | intro text => exact text s

theorem not_reference (h : a.IsSettled) (s : String) : a ≠ .reference s := by
  cases h with
  | intro _ reference => exact reference s

theorem marks {ms : List Mark} (h : (annotated a ms).IsSettled) :
    a ≠ .none ∧ ∀ b ns, a ≠ .annotated b ns := by
  cases h with
  | intro _ _ marks => exact marks a ms rfl

theorem of_mem_parts (h : a.IsSettled) (hb : b ∈ a.parts) : b.IsSettled := by
  cases h with
  | intro _ _ _ parts => exact parts b hb

/-- An annotation without text is as a part what it is, but for `None`. -/
theorem asMember_eq (h : a.IsSettled) : a.asMember = a ∨ a = .none ∧ a.asMember = noneType := by
  cases a with
  | none => exact .inr ⟨rfl, rfl⟩
  | text s => exact absurd rfl (h.not_text s)
  | _ => exact .inl rfl

theorem asMember (h : a.IsSettled) : a.asMember.IsSettled := by
  rcases h.asMember_eq with heq | ⟨-, heq⟩
  · rwa [heq]
  · rw [heq]
    exact .intro nofun nofun nofun nofun

end IsSettled

theorem asMember_ne_none (a : TypeHint) : a.asMember ≠ .none := by
  cases a <;> exact nofun

/-- **Marking joins the marks.** What is marked holds no text if nothing did before. -/
theorem isSettled_of_marked {a b : TypeHint} {ms : List Mark} (ha : a.IsSettled)
    (h : marked a ms = .ok b) : b.IsSettled := by
  obtain ⟨c, hc, h⟩ := Action.except_bind_eq_ok h
  obtain rfl := asMember_of_nested hc
  have hsettled := ha.asMember
  split at h
  · rename_i base ns heq
    obtain rfl := Except.ok.inj h
    rw [heq] at hsettled
    refine .intro nofun nofun (fun _ _ hb => ?_) fun d hd => ?_
    · cases hb
      exact hsettled.marks
    · exact hsettled.of_mem_parts hd
  · cases h
  · rename_i hplain _
    obtain rfl := Except.ok.inj h
    refine .intro nofun nofun (fun _ _ hb => ?_) fun d hd => ?_
    · cases hb
      exact ⟨a.asMember_ne_none, hplain⟩
    · obtain rfl := List.mem_singleton.mp hd
      exact hsettled

/-- An annotation that has its marks already is marked with them, or cannot be. -/
theorem eq_of_marked {a b : TypeHint} {marks : List Mark} (h : (annotated a marks).IsSettled)
    (hb : marked a marks = .ok b) : b = annotated a marks := by
  obtain ⟨hnone, hmarks⟩ := h.marks
  obtain ⟨c, hc, hb⟩ := Action.except_bind_eq_ok hb
  obtain rfl := asMember_of_nested hc
  rcases (h.of_mem_parts List.mem_cons_self).asMember_eq with heq | ⟨heq, -⟩
  · rw [heq] at hb
    split at hb
    · exact absurd rfl (hmarks _ _)
    · cases hb
    · exact (Except.ok.inj hb).symm
  · exact absurd heq hnone

/-! ## Without a star

Evaluation puts an annotation together again from its evaluated parts. A union is only made anew if
one of its members has changed, and without a star none has. -/

/-- A union of members that have not changed is the union that it was. -/
theorem sameItems_refl (as : List TypeHint) : sameItems as as = true :=
  sameItems_iff.mpr (List.forall₂_same.mpr fun a _ => equal_refl a)

theorem eq_of_allUnstarred {as bs : List TypeHint}
    (hall : ∀ a ∈ as, ∀ {b : TypeHint}, a.unstarred = .ok b → b = a)
    (h : allUnstarred as = .ok bs) : bs = as := by
  induction as generalizing bs with
  | nil => exact (Except.ok.inj h).symm
  | cons a as ih =>
    obtain ⟨ha, has⟩ := List.forall_mem_cons.mp hall
    obtain ⟨b, hb, h⟩ := Action.except_bind_eq_ok h
    obtain ⟨bs, hbs, h⟩ := Action.except_bind_eq_ok h
    obtain rfl := Except.ok.inj h
    rw [ha hb, ih has hbs]

/-- **Without a star nothing changes**, if the annotation can be evaluated at all. By induction on
its parts. -/
theorem eq_of_unstarred {a b : TypeHint} (ha : a.IsSettled) (hstar : ¬ a.HoldsStar)
    (h : a.unstarred = .ok b) : b = a := by
  induction a using ofParts generalizing b with
  | h a ih =>
    have hparts : ∀ m ∈ a.parts, ∀ {r : TypeHint}, m.unstarred = .ok r → r = m := fun m hm _ hr =>
      ih m hm (ha.of_mem_parts hm) (fun hholds => hstar (.inside hm hholds)) hr
    cases a with
    | union ms | alternatives ms =>
      obtain ⟨rs, hrs, h⟩ := Action.except_bind_eq_ok h
      obtain rfl : rs = ms := eq_of_allUnstarred hparts hrs
      rw [if_pos (sameItems_refl _)] at h
      exact (Except.ok.inj h).symm
    | generic origin as =>
      obtain ⟨rs, hrs, hb⟩ := Action.except_bind_eq_ok h
      obtain rfl : rs = as := eq_of_allUnstarred hparts hrs
      cases origin with
      | starred k => exact absurd (.here ⟨k, rfl⟩) hstar
      | cls | unpack => exact (Except.ok.inj hb).symm
    | listOf c | typeOf c =>
      obtain ⟨d, hd, h⟩ := Action.except_bind_eq_ok h
      rw [hparts c List.mem_cons_self hd] at h
      exact (Except.ok.inj h).symm
    | annotated c marks =>
      obtain ⟨d, hd, h⟩ := Action.except_bind_eq_ok h
      rw [hparts c List.mem_cons_self hd] at h
      exact eq_of_marked ha h
    | _ => exact (Except.ok.inj h).symm

end TypeHint

/-! ## Resolving them

Resolving takes a depth, and fails where annotations are nested deeper. The one computed without a
world has no depth, so the two are not equal; what there is instead is that resolving fails in all
worlds or in none. -/

namespace World

/-- In every world a computation ends like one without a world, or it fails in the same way. -/
def Follows {α : Type} (x : World → Except Fault α) (r : Except Fault α) : Prop :=
  (∀ w, x w = r) ∨ ∃ fault, ∀ w, x w = .error fault

section

variable {α β : Type}

theorem follows_const (r : Except Fault α) : Follows (fun _ => r) r :=
  .inl fun _ => rfl

theorem Follows.same {x : World → Except Fault α} {r : Except Fault α} (h : Follows x r)
    (w w' : World) : x w = x w' := by
  rcases h with h | ⟨fault, h⟩
  · exact (h w).trans (h w').symm
  · exact (h w).trans (h w').symm

/-- What is put together from computations of this kind is of this kind. If the first one fails in
every world, so does the whole. -/
theorem Follows.bind {x : World → Except Fault α} {r : Except Fault α}
    {f : World → α → Except Fault β} {g : α → Except Fault β} (hx : Follows x r)
    (hf : ∀ a, Follows (fun w => f w a) (g a)) : Follows (fun w => x w >>= f w) (r >>= g) := by
  rcases hx with hx | ⟨fault, hx⟩
  · simp only [hx]
    rcases r with fault | a
    · exact follows_const _
    · exact hf a
  · simp only [hx]
    exact .inr ⟨fault, fun _ => rfl⟩

theorem follows_mapM {f : World → α → Except Fault β} {g : α → Except Fault β} {as : List α}
    (h : ∀ a ∈ as, Follows (fun w => f w a) (g a)) :
    Follows (fun w => as.mapM (f w)) (as.mapM g) := by
  induction as with
  | nil => exact follows_const _
  | cons a as ih =>
    obtain ⟨ha, has⟩ := List.forall_mem_cons.mp h
    simp only [List.mapM_cons]
    exact ha.bind fun _ => (ih has).bind fun _ => follows_const _

end

theorem genericItem_of_settled {a : TypeHint} (ha : a.IsSettled) : genericItem a = .ok a := by
  cases a with
  | text s => exact absurd rfl (ha.not_text s)
  | _ => rfl

theorem declaredItem_of_settled {a : TypeHint} (ha : a.IsSettled) :
    declaredItem a = .ok a.asMember := by
  cases a with
  | text s => exact absurd rfl (ha.not_text s)
  | _ => rfl

theorem mapM_genericItem {as : List TypeHint} (h : ∀ a ∈ as, a.IsSettled) :
    as.mapM genericItem = .ok as := by
  induction as with
  | nil => rfl
  | cons a as ih =>
    obtain ⟨ha, has⟩ := List.forall_mem_cons.mp h
    rw [List.mapM_cons, genericItem_of_settled ha, ih has]
    rfl

/-- **Annotations without text are resolved without a world**, one or many. By induction on the
depth, for both at once, as each of them is resolved by way of the other. -/
theorem follows_resolveHint (home : Nat) (pending : List String) (fuel : Nat) :
    (∀ a : TypeHint, a.IsSettled →
      Follows (fun w => w.resolveHint home fuel pending a) a.unstarred) ∧
    ∀ as : List TypeHint, (∀ a ∈ as, a.IsSettled) →
      Follows (fun w => w.resolveAll home fuel pending as) (TypeHint.allUnstarred as) := by
  induction fuel with
  | zero =>
    refine ⟨fun a _ => .inr ⟨_, fun _ => rfl⟩, fun as _ => ?_⟩
    cases as with
    | nil => exact follows_const _
    | cons a as => exact .inr ⟨_, fun _ => rfl⟩
  | succ fuel ih =>
    obtain ⟨ihOne, ihAll⟩ := ih
    constructor
    · intro a ha
      have hparts : ∀ b ∈ a.parts, b.IsSettled := fun b hb => ha.of_mem_parts hb
      simp only [resolveHint]
      cases a with
      | reference s => exact absurd rfl (ha.not_reference s)
      | union ms | alternatives ms =>
        exact (ihAll ms hparts).bind fun _ => follows_const _
      | listOf b | typeOf b | annotated b marks =>
        exact (ihOne b (hparts b List.mem_cons_self)).bind fun _ => follows_const _
      | generic origin as =>
        have hitems : as.mapM genericItem = .ok as := mapM_genericItem hparts
        simp only [hitems]
        exact (ihAll as hparts).bind fun _ => follows_const _
      | _ => exact follows_const _
    · intro as has
      cases as with
      | nil => exact follows_const _
      | cons a as =>
        obtain ⟨ha, has⟩ := List.forall_mem_cons.mp has
        simp only [resolveAll]
        exact (ihOne a ha).bind fun _ => (ihAll as has).bind fun _ => follows_const _

/-- **A declared annotation without text** is resolved in the same way in every world: `None` stands
for its class, and the stars in any other annotation are evaluated. -/
theorem follows_resolveDeclared {a : TypeHint} (ha : a.IsSettled) (home : Nat) :
    Follows (fun w => w.resolveDeclared home a) a.asMember.unstarred := by
  simp only [resolveDeclared, declaredItem_of_settled ha]
  exact (follows_resolveHint home [] resolutionDepth).1 _ ha.asMember

end World

end CallLog
