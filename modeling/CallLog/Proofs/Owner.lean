import CallLog.Proofs.Arguments
import CallLog.Proofs.LogPoint.Values
import CallLog.Proofs.PlanCache.Course

/-!
# Owners and plans

A logged function may be told at any time which class it belongs to. Which values of a call are
shown depends on the class that it belongs to now. But its plan is the one that was made when it was
used first since the plans were cleared, for the class that it belonged to then.

The main statement is `plan_in_use`. It holds in all worlds that a program passes in which the
function is told its class, called and asked for its plan, and in which plans are cleared, in any
order and also while calls are under way.
-/

namespace CallLog

namespace LoggedFunction

open World (Passes IsUnplanned)

variable {ref t : Nat} {l l₀ lv : LoggedFunction} {start u v w w₁ : World} {made : Option World}
  {kind : Wrapping} {line : List KnownClass} {f : Function} {b : BoundPoint} {m : Metadata}

/-! ## The plan in use

There are two classes at work in a call: that which the function belongs to now, which decides about
the values, and that which it belonged to when its plan was made, which decides where the plan looks
for them. `PlannedIn` names the world of the second. The log point is up to date if the two give the
same plan, and where they do not, indices may be off by one. -/

/-- A log point has the plan that would be made now, each call shows a value for each parameter that
is described, and so there is a value wherever the plan looks for one. -/
structure Fits (ref : Nat) (l : LoggedFunction) (w w₁ : World) (b : BoundPoint) (m : Metadata) :
    Prop where
  described : l.IsDescribed ref w m
  plan : m.plan = .ok b.point.plan
  shown : ∀ arguments shown, l.shownArguments w₁ arguments = some shown →
    shown.length = m.parameters.length ∧ b.point.plan.InRange shown

/-- A log point is up to date: it fits the class that the logged function belongs to. -/
def IsUpToDate (ref : Nat) (l : LoggedFunction) (w w₁ : World) (b : BoundPoint) : Prop :=
  ∃ m, Fits ref l w w₁ b m

/-- The plan of a log point was made in the world `v`, for the class that the logged function
belonged to there. -/
structure PlannedIn (ref : Nat) (kind : Wrapping) (l : LoggedFunction) (w w₁ : World)
    (b : BoundPoint) (v : World) (lv : LoggedFunction) (m : Metadata) : Prop where
  logged : v.object? ref = some (.logged lv)
  described : lv.IsDescribed ref v m
  plan : m.plan = .ok b.point.plan
  /-- the log point is up to date if the same plan would be made now, and only then -/
  upToDate_iff : IsUpToDate ref l w w₁ b ↔
    ∃ m', l.IsDescribed ref w m' ∧ m'.plan = .ok b.point.plan
  /-- so it is if the class is the same, and described as it was -/
  upToDate : lv.owner = l.owner → (lv.IsDescribed ref v m → l.IsDescribed ref w m) →
    IsUpToDate ref l w w₁ b
  /-- there is a value for each parameter if the receiver is left out of both or of none -/
  shown : lv.omitted kind = l.omitted kind →
    ∀ arguments shown, l.shownArguments w₁ arguments = some shown →
      shown.length = m.parameters.length ∧ b.point.plan.InRange shown
  /-- one is missing if there was no class then and there is one now -/
  attached : lv.owner = none → l.owner ≠ none → kind ≠ .staticMethod →
    l.signature.params ≠ [] → ∀ arguments shown, l.shownArguments w₁ arguments = some shown →
      shown.length + 1 = m.parameters.length

/-- How a logged function is used in a world `w`, if the plan that is kept there was made in the
world `made`. Without a plan it is made in `w`. -/
structure InUse (ref : Nat) (kind : Wrapping) (start : World) (made : Option World) (w : World)
    (l : LoggedFunction) : Prop where
  /-- with a plan there is a log point -/
  found : made.isSome → ∃ b w₁, l.bound ref w = (.ok b, w₁)
  planned : ∀ b w₁, l.bound ref w = (.ok b, w₁) →
    ∃ lv m, PlannedIn ref kind l w w₁ b (made.getD w) lv m
  /-- whatever is called or awaited, it leads to such worlds again -/
  passes : ∀ depth request, (Evaluation.respondWithin depth request w).Maintains fun u =>
    ∃ made, Passes ref start made u

/-- The lock of a logged function is not looked at when it is described. -/
theorem Around.locked (h : l.Around w kind t line f) (ref : Nat) :
    l.Around (w.locked ref) kind t line f :=
  h.retained rfl fun _ object ht => ⟨object, ht, rfl⟩

/-- As many parameters are described as there are, but for the receiver. The number depends on the
owner only by there being one. -/
theorem Around.length_described (h : l.Around w kind t line f) (hm : l.IsDescribed ref w m) :
    m.parameters.length = l.signature.params.length - l.omitted kind := by
  obtain ⟨j, hm⟩ := hm
  rw [((h.locked ref).describes hm).length, List.length_drop, h.signature]

/-- As many values are shown as there are parameters, but for the receiver. -/
theorem Around.length_shown (h : l.Around w kind t line f) {arguments : Arguments}
    {shown : List Value} (hshown : l.shownArguments w arguments = some shown) :
    shown.length = l.signature.params.length - l.omitted kind := by
  rw [h.shownArguments] at hshown
  obtain ⟨values, hbind, rfl⟩ := Option.map_eq_some_iff.mp hshown
  rw [List.length_drop, Signature.length_bind hbind, h.signature]

/-- A plan finds a value wherever it looks for one, if as many are shown as parameters were
described for it. -/
theorem Around.inRange (h : l.Around w kind t line f) (hm : l.IsDescribed ref w m) {plan : Plan}
    (hplan : m.plan = .ok plan) {shown : List Value}
    (hlength : shown.length = m.parameters.length) : plan.InRange shown := by
  obtain ⟨j, hm⟩ := hm
  exact Metadata.plan_inRange hplan ((h.locked ref).describes hm).numbered hlength

/-- A log point fits if its plan is the one that would be made now. -/
theorem Around.fits (h : l.Around w kind t line f) (h₁ : l.Around w₁ kind t line f)
    (hm : l.IsDescribed ref w m) (hplan : m.plan = .ok b.point.plan) : Fits ref l w w₁ b m where
  described := hm
  plan := hplan
  shown arguments shown hshown := by
    have hlength : shown.length = m.parameters.length :=
      (h₁.length_shown hshown).trans (h.length_described hm).symm
    exact ⟨hlength, h.inRange hm hplan hlength⟩

/-- The log point that is got hold of has the stamp of the plan that is kept afterwards. This is how
it is known which plan it has: stamps are not given twice. -/
theorem exists_stamp (h : l.bound ref w = (.ok b, w₁)) :
    ∃ p, w₁.cache.find? ref = some p ∧ b.stamp = p.stamp := by
  have hholds := holds_of_bound h
  generalize houtcome : (Except.ok b : Except Raised BoundPoint) = outcome at hholds
  cases hholds with
  | failed => cases houtcome
  | current hfetched hcurrent hstamp =>
    obtain rfl := Except.ok.inj houtcome
    exact ⟨_, hfetched.find?_of_ok, hstamp⟩
  | renewed hfetched =>
    obtain rfl := Except.ok.inj houtcome
    exact ⟨_, hfetched.find?_of_ok, rfl⟩

/-- With a plan that is kept there is a log point: it is in use already, or it is made, which needs
nothing that can fail. -/
theorem exists_bound {p : StampedPlan} (hp : w.cache.find? ref = some p) :
    ∃ b w₁, l.bound ref w = (.ok b, w₁) := by
  rw [bound, Action.bind_of_ok (PlanCache.fetch_of_some hp)]
  rcases l.current with _ | b
  · exact ⟨_, _, rfl⟩
  · dsimp only
    split
    · exact ⟨_, _, rfl⟩
    · exact ⟨_, _, rfl⟩

/-- The plan of the log point that is got hold of was made where the plan that is kept was, or now
if there is none. Plans are tracked by their stamps from the moment they are made, so it does not
matter what has happened since. -/
theorem makesPlan_of_bound (hw : World.Tracks ref start made w)
    (hl : w.object? ref = some (.logged l)) (h : l.bound ref w = (.ok b, w₁)) :
    start.Retains (made.getD w) ∧ World.MakesPlan ref (made.getD w) b.point.plan := by
  have hw₁ : World.Tracks ref start (World.madeAfter ref made w w₁) w₁ := by
    have hstep := hw.step hl (.bound hl)
    rwa [h] at hstep
  obtain ⟨p, hp, hstamp⟩ := exists_stamp h
  obtain ⟨-, v, hmade, hretains, hmakes⟩ := hw₁.kept p hp
  have hplan : b.point.plan = p.plan :=
    (hw₁.current _ b ((bound_prepared h).current hl) rfl).2 p hp hstamp
  -- if no plan was kept before, it was made by getting hold of the log point
  have hv : made.getD w = v := by
    rw [World.madeAfter, hp] at hmade
    rcases hfind : w.cache.find? ref with _ | q
    · rw [hfind] at hmade
      rw [hw.missing hfind]
      exact Option.some.inj hmade
    · rw [hfind] at hmade
      rw [show made = some v from hmade]
      rfl
  rw [hv, hplan]
  exact ⟨hretains, hmakes⟩

/-- **The plan in use** is the one that was made when the logged function was used first since the
plans were cleared, for the class that it belonged to then. It fits the class that it belongs to now
exactly if the same plan would be made now. To tell it its class does not clear its plan, so it need
not. -/
theorem plan_in_use (hstart : start.IsUnplanned ref l₀) (haround : l₀.Around start kind t line f)
    (hw : Passes ref start made w) (hl : w.object? ref = some (.logged l)) :
    InUse ref kind start made w l := by
  have htracks := hw.tracks hstart
  -- whatever its owner, it is around the same function in all later worlds
  have haroundOf {u : World} {l' : LoggedFunction} (hu : start.Retains u)
      (hl' : u.object? ref = some (.logged l')) : l'.Around u kind t line f := by
    obtain ⟨l'', hl'', hcore⟩ := hu.logged hstart.logged
    obtain rfl := Object.logged.inj (Option.some.inj (hl''.symm.trans hl'))
    exact haround.retained hcore hu
  have hnow := haroundOf htracks.retains hl
  refine ⟨fun hmade => ?_, fun b w₁ hbound => ?_, fun depth request => ?_⟩
  · rcases hfind : w.cache.find? ref with _ | p
    · rw [htracks.missing hfind] at hmade
      cases hmade
    · exact exists_bound hfind
  · obtain ⟨hretains, lv, m, hlv, hm, hplan⟩ := makesPlan_of_bound htracks hl hbound
    have hthen := haroundOf hretains hlv
    have hcalled : l.Around w₁ kind t line f := by
      refine hnow.retained rfl ?_
      have hchange := (World.Change.bound hl).retains
      rwa [hbound] at hchange
    have hdescribed : m.parameters.length = l.signature.params.length - lv.omitted kind := by
      rw [hthen.length_described hm, hthen.signature, hnow.signature]
    refine ⟨lv, m, hlv, hm, hplan, ⟨?_, ?_⟩, fun _ hsame => ?_, ?_, ?_⟩
    · rintro ⟨m', hfits⟩
      exact ⟨m', hfits.described, hfits.plan⟩
    · rintro ⟨m', hm', hplan'⟩
      exact ⟨m', hnow.fits hcalled hm' hplan'⟩
    · exact ⟨m, hnow.fits hcalled (hsame hm) hplan⟩
    · intro homitted arguments shown hshown
      have hlength : shown.length = m.parameters.length := by
        rw [hcalled.length_shown hshown, hdescribed, homitted]
      exact ⟨hlength, hthen.inRange hm hplan hlength⟩
    · intro hnone howner hkind hparams arguments shown hshown
      have hlength := hcalled.length_shown hshown
      have howned : l.omitted kind = 1 := if_pos ⟨Option.isSome_iff_ne_none.mpr howner, hkind⟩
      have hunowned : lv.omitted kind = 0 := if_neg fun h => by
        rw [hnone] at h
        cases h.1
      have hpositive := List.length_pos_iff.mpr hparams
      omega
  · exact World.passes_respondWithin ref start depth request w ⟨made, hw⟩

/-- A logged function of one parameter, which belongs to no class yet. -/
def echo : LoggedFunction where
  func := .object 1 [.object]
  target := .object 1 [.object]
  interceptor := {}
  signature := { params := [{ name := "x" }] }
  isAsync := false
  labels := {}
  wrapped := .object 1 [.object]

/-- A module with the logged function and a class. -/
def echoWorld : World where
  objects := #[.module "m" [],
    .function ⟨"echo", "echo", .str "m", echo.signature, false, .argument "x", 0⟩, .logged echo,
    .cls ⟨"C", "C", .str "m", [.made 3 [.object], .known .object], []⟩]
  registered := [("m", 0)]

/-- The world after the function is used, and then told that it belongs to the class. -/
def echoAttached : World :=
  (Run.setOwner (.made 3 [.object]) 2 (echo.bound 2 echoWorld).2).2

theorem passes_echoAttached : Passes 2 echoWorld (some echoWorld) echoAttached := by
  have hused : (((echo.bound 2 echoWorld).2).cache.find? 2).isSome = true := by decide +kernel
  have hattached : (echoAttached.cache.find? 2).isSome = true := by decide +kernel
  have hpasses : Passes 2 echoWorld (some echoWorld) (echo.bound 2 echoWorld).2 := by
    rw [← World.madeAfter_of_missing rfl hused]
    exact .change .start (.bound rfl)
  have hchanged : Passes 2 echoWorld (World.madeAfter 2 (some echoWorld) _ echoAttached)
    echoAttached := hpasses.change (.attach _ (.made 3 [.object]) 2)
  rwa [World.madeAfter_of_kept hused hattached] at hchanged

theorem plan_in_use_echo :
    echoWorld.IsUnplanned 2 echo ∧ Passes 2 echoWorld (some echoWorld) echoAttached ∧
      ∃ l, echoAttached.object? 2 = some (.logged l) ∧
        InUse 2 .plain echoWorld (some echoWorld) echoAttached l := by
  have hstart : echoWorld.IsUnplanned 2 echo := ⟨rfl, rfl, rfl, fun b hb => by cases hb⟩
  have hw := passes_echoAttached
  obtain ⟨l, hl, -⟩ := (hw.tracks hstart).retains.logged hstart.logged
  exact ⟨hstart, hw, l, hl, plan_in_use hstart ⟨rfl, rfl, rfl, rfl⟩ hw hl⟩

/-- Whether the plan of a logged function looks for a first value where none is shown of a call. -/
def looksInVain (w : World) (ref : Nat) (arguments : Arguments) : Bool :=
  match w.object? ref with
  | some (.logged l) =>
    match l.bound ref w with
    | (.ok b, w₁) => (l.shownArguments w₁ arguments).any List.isEmpty &&
        b.point.plan.parameters.any (Rule.isLiveFor 0)
    | _ => false
  | _ => false

/-- A log point whose plan looks for a value in vain is not up to date. -/
theorem exists_outdated {arguments : Arguments} (hvain : looksInVain w ref arguments = true) :
    ∃ l b w₁, w.object? ref = some (.logged l) ∧ l.bound ref w = (.ok b, w₁) ∧
      ¬ IsUpToDate ref l w w₁ b := by
  rw [looksInVain] at hvain
  split at hvain
  · rename_i l hl
    split at hvain
    · rename_i b w₁ hbound
      refine ⟨l, b, w₁, hl, hbound, ?_⟩
      rintro ⟨m, hfits⟩
      obtain ⟨hempty, hlive⟩ := Bool.and_eq_true_iff.mp hvain
      obtain ⟨shown, hshown, hnil⟩ := (Option.any_eq_true _ _).mp hempty
      obtain rfl := List.isEmpty_iff.mp hnil
      obtain ⟨rule, hrule, hindex⟩ := List.any_eq_true.mp hlive
      cases rule with
      | static text => cases hindex
      | live i name hint =>
        obtain rfl : i = 0 := of_decide_eq_true hindex
        obtain ⟨v, hv⟩ := (hfits.shown arguments [] hshown).2.rules 0 name hint hrule
        cases hv
    · cases hvain
  · cases hvain

/-- Whether a call ends by asking for an item that is not there. -/
def failsByIndex : Progress World Value → Bool
  | .done (.error (.fault .indexOutOfRange)) _ => true
  | _ => false

/-- **A plan may not fit the class.** A function that was used before it was told its class is not
up to date, and logging a call of it fails. -/
theorem echo_outdated :
    (¬ ∀ made w l b w₁, Passes 2 echoWorld made w → w.object? 2 = some (.logged l) →
      l.bound 2 w = (.ok b, w₁) → IsUpToDate 2 l w w₁ b) ∧
    ∃ u, Evaluation.respondWithin 2 (.call (.object 2 [.object]) ⟨[.int 1], []⟩) echoAttached =
      .done (.error (.fault .indexOutOfRange)) u := by
  constructor
  · intro h
    have hvain : looksInVain echoAttached 2 ⟨[.int 1], []⟩ = true := by decide +kernel
    obtain ⟨l, b, w₁, hl, hbound, houtdated⟩ := exists_outdated hvain
    exact houtdated (h _ _ l b w₁ passes_echoAttached hl hbound)
  · have hfails : failsByIndex (Evaluation.respondWithin 2
        (.call (.object 2 [.object]) ⟨[.int 1], []⟩) echoAttached) = true := by decide +kernel
    rw [failsByIndex.eq_def] at hfails
    split at hfails
    · rename_i u hrun
      exact ⟨u, hrun⟩
    · cases hfails

end LoggedFunction

end CallLog
