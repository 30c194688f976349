import CallLog.Proofs.LogPoint.Values

/-!
# Indexes in range

The only items that a log point takes by an index are the arguments of a call. `StaysInRange` says
of a computation that it does not fail by an index without an item. Whatever texts, formats and
records fail by, it is not that, so that a call whose plan finds all its arguments never fails so
(`logCall_staysInRange`).
-/

namespace CallLog

/-- A computation does not fail by an index without an item. It may fail in any other way. -/
def StaysInRange {α : Type} (x : Except Fault α) : Prop :=
  x ≠ .error .indexOutOfRange

namespace StaysInRange

variable {α β : Type}

theorem ok (a : α) : StaysInRange (.ok a) := nofun

theorem error {f : Fault} (h : f ≠ .indexOutOfRange) : StaysInRange (.error f : Except Fault α) :=
  fun hf => h (Except.error.inj hf)

/-- If the first computation fails, it does not fail by an index, and the second one is not
reached. -/
theorem bind {x : Except Fault α} {f : α → Except Fault β} (hx : StaysInRange x)
    (hf : ∀ a, StaysInRange (f a)) : StaysInRange (x >>= f) := by
  rcases x with e | a
  · exact fun h => hx (by rw [Except.error.inj h])
  · exact hf a

/-- The outcome of a computation, where it is raised. -/
theorem outcome {x : Except Fault α} (hx : StaysInRange x) :
    Action.outcome x ≠ .error (.fault .indexOutOfRange) := by
  rcases x with e | a
  · exact fun h => hx (by rw [Raised.fault.inj (Except.error.inj h)])
  · exact nofun

end StaysInRange

open StaysInRange

/-! ## Texts

Values are displayed by going through what they hold, so these statements come together for values
and for lists of them. What a display can fail by is a number that is too long to be written, or an
object that refuses; none of it is an index. -/

/-- Writing a number fails by its length only. -/
theorem staysInRange_writeInt (i : Int) : StaysInRange (writeInt i) := by
  unfold writeInt
  split
  · exact ok _
  · exact nofun

/-- By recursion on the invoice, whose parent is an invoice too. -/
theorem Invoice.staysInRange_fields : ∀ invoice : Invoice, StaysInRange invoice.fields
  | mk _ total _ none _ => (staysInRange_writeInt total).bind fun _ => ok _
  | mk _ total _ (some parent) _ =>
    (staysInRange_writeInt total).bind fun _ =>
      (staysInRange_fields parent).bind fun _ => ok _

namespace Value

variable (naming : Naming)

mutual

theorem staysInRange_display : ∀ v : Value, StaysInRange (v.display naming)
  | .none | .bool _ | .str _ | .bytes _ | .fault _ | .type _ | .object _ _ => ok _
  | .int i => by
    rw [display]
    exact staysInRange_writeInt i
  | .list xs | .tuple xs => (staysInRange_displays xs).bind fun _ => ok _
  | .dict entries => (staysInRange_displayEntries entries).bind fun _ => ok _
  | .error (.made _ _) _ => ok _
  | .error (.known _) args => (staysInRange_firstDisplays _ args).bind fun _ => ok _
  | .specimen k v => by
    have hv := staysInRange_display v
    cases k with
    | mute => exact nofun
    | _ => exact hv.bind fun _ => ok _
  | .model m => m.staysInRange_fields.bind fun _ => ok _
  | .fresh (.made _ _) => ok _
  | .fresh (.known k) => by
    rw [display.eq_def]
    split <;> first | contradiction | exact ok _

/-- A list is displayed item by item, and the display of an item that fails is the failure of the
whole. -/
theorem staysInRange_displays : ∀ vs : List Value, StaysInRange (displays naming vs)
  | [] => ok _
  | v :: vs => (staysInRange_display v).bind fun _ => (staysInRange_displays vs).bind fun _ => ok _

theorem staysInRange_firstDisplays :
    ∀ (n : Nat) (vs : List Value), StaysInRange (firstDisplays naming n vs)
  | 0, _ => by
    rw [firstDisplays]
    exact ok _
  | _ + 1, [] => ok _
  | n + 1, v :: vs =>
    (staysInRange_display v).bind fun _ => (staysInRange_firstDisplays n vs).bind fun _ => ok _

theorem staysInRange_displayEntries :
    ∀ entries : List (Value × Value), StaysInRange (displayEntries naming entries)
  | [] => ok _
  | (k, v) :: rest =>
    (staysInRange_display k).bind fun _ => (staysInRange_display v).bind fun _ =>
      (staysInRange_displayEntries rest).bind fun _ => ok _

end

mutual

theorem staysInRange_text : ∀ v : Value, StaysInRange (v.text naming)
  | .str _ | .fault _ => ok _
  | .error c args => by
    rw [text]
    exact staysInRange_errorText c args
  | .specimen k v => by
    cases k with
    | loud => exact (staysInRange_text v).bind fun _ => ok _
    | _ => exact staysInRange_display naming _
  | .model m => m.staysInRange_fields.bind fun _ => ok _
  | .none | .bool _ | .int _ | .bytes _ | .list _ | .tuple _ | .dict _ | .type _ | .fresh _
  | .object _ _ => by
    rw [text]
    · exact staysInRange_display naming _
    all_goals nofun

/-- The text of an exception depends on how many arguments it has. By recursion together with
`staysInRange_text`, since an exception with one argument has the text of that. -/
theorem staysInRange_errorText (c : Class) :
    ∀ args : List Value, StaysInRange (errorText naming c args)
  | [] => ok _
  | [v] => by
    rw [errorText]
    split
    · exact staysInRange_display naming v
    · exact staysInRange_text v
  | n :: v :: rest => by
    rw [errorText]
    split
    · refine (staysInRange_text n).bind fun _ => (staysInRange_text v).bind fun _ => ?_
      -- what follows the text of the error depends on the files that it names
      split
      · exact (staysInRange_display naming _).bind fun _ => ok _
      · exact (staysInRange_display naming _).bind fun _ =>
          (staysInRange_display naming _).bind fun _ => ok _
      · exact ok _
    · exact (staysInRange_display naming n).bind fun _ =>
        (staysInRange_display naming v).bind fun _ =>
          (staysInRange_displays naming rest).bind fun _ => ok _

end

end Value

theorem Raised.staysInRange_text (naming : Naming) (r : Raised) : StaysInRange (r.text naming) :=
  r.toValue.staysInRange_text naming

/-! ## Formats

Filling a format fails by too few or too many values, or by a value that does not fit a conversion.
Values are taken from the front of a list, never by an index. -/

namespace Format

/-- To take a value where none is left is a failure of its own. -/
theorem staysInRange_take (operands : Operands) : StaysInRange (take operands) := by
  unfold take
  split
  · exact nofun
  · exact ok _

theorem staysInRange_select (operands : Operands) (key : Option (List Char)) :
    StaysInRange (select operands key) := by
  unfold select
  split
  · exact ok _
  · split
    · exact nofun
    · split
      · exact ok _
      · exact nofun

/-- A width or a precision is a number in the format, or it is taken from the values; a value that
is no number, or one that is too large, is refused. -/
theorem staysInRange_amount (limit : Nat) (operands : Operands) (a : Option Amount) :
    StaysInRange (amount limit operands a) := by
  unfold amount
  split
  · exact ok _
  · split
    · exact nofun
    · exact ok _
  · refine (staysInRange_take operands).bind fun ⟨v, rest⟩ => ?_
    dsimp only
    split
    · exact nofun
    · split
      · exact nofun
      · exact ok _

theorem staysInRange_integerOf (v : Value) : StaysInRange (integerOf v) := by
  unfold integerOf
  split
  · exact ok _
  · exact nofun

theorem staysInRange_characterOf (v : Value) : StaysInRange (characterOf v) := by
  unfold characterOf
  split
  · split
    · exact ok _
    · exact nofun
  · split
    · exact nofun
    · split
      · exact ok _
      · exact nofun

theorem staysInRange_integerText (c : Char) (flags : Flags) (precision : Nat) (i : Int) :
    StaysInRange (integerText c flags precision i) := by
  unfold integerText
  repeat' split
  all_goals first | exact ok _ | exact nofun

theorem staysInRange_fractionText (c : Char) (flags : Flags) (precision : Nat) (i : Int) :
    StaysInRange (fractionText c flags precision i) := by
  unfold fractionText
  dsimp only
  split
  · exact nofun
  · exact ok _

/-- One branch for each group of conversions, and each goes by what is written there: a text, a
display, a character, or a number. -/
theorem staysInRange_convert (naming : Naming) (flags : Flags) (width : Nat)
    (precision : Option Nat) (c : Char) (v : Value) :
    StaysInRange (convert naming flags width precision c v) := by
  unfold convert
  split
  · exact (v.staysInRange_text naming).bind fun _ => ok _
  split
  · exact (v.staysInRange_display naming).bind fun _ => ok _
  split
  · exact (v.staysInRange_display naming).bind fun _ => ok _
  split
  · exact (staysInRange_characterOf v).bind fun _ => ok _
  split
  · exact (staysInRange_integerOf v).bind fun i =>
      (staysInRange_integerText c flags _ i).bind fun _ => ok _
  split
  · exact (staysInRange_integerOf v).bind fun i =>
      (staysInRange_fractionText c flags _ i).bind fun _ => ok _
  · exact nofun

theorem staysInRange_apply (naming : Naming) (d : Directive) (ending : Ending)
    (operands : Operands) : StaysInRange (apply naming d ending operands) := by
  unfold apply
  refine (staysInRange_select operands d.key).bind fun operands => ?_
  refine (staysInRange_amount _ operands d.width).bind fun _ => ?_
  refine (staysInRange_amount _ _ d.precision).bind fun _ => ?_
  cases ending with
  | missing => exact nofun
  | conversion c =>
    refine (staysInRange_take _).bind fun _ => ?_
    refine (staysInRange_convert naming _ _ _ c _).bind fun _ => ?_
    split
    · exact nofun
    · exact ok _

/-- By induction on the pieces. What is left over of the values at the end is refused, and that is
not an index either. -/
theorem staysInRange_fillPieces (naming : Naming) (pieces : List Piece) (operands : Operands) :
    StaysInRange (fillPieces naming pieces operands) := by
  induction pieces generalizing operands with
  | nil =>
    unfold fillPieces
    split
    · exact error (by decide)
    · exact ok _
  | cons piece rest ih =>
    cases piece with
    | lit c => exact (ih operands).bind fun _ => ok _
    | hole directive ending =>
      exact (staysInRange_apply naming directive ending operands).bind fun _ =>
        (ih _).bind fun _ => ok _
    | openKey =>
      unfold fillPieces
      split
      · exact error (by decide)
      · exact error (by decide)

end Format

/-! ## Records

A value that has no document is one of a type that cannot be written, or a dictionary with a key
that cannot be a name. -/

namespace Document

theorem staysInRange_fieldName (key : Value) : StaysInRange (fieldName key) := by
  unfold fieldName
  split
  · exact ok _
  · exact (staysInRange_writeInt _).bind fun _ => ok _
  · exact ok _
  · exact ok _
  · exact nofun

mutual

theorem staysInRange_ofValue (naming : Naming) : ∀ v : Value, StaysInRange (ofValue naming v)
  | .none | .bool _ | .str _ => ok _
  | .int i => by
    rw [ofValue, ofInt]
    split
    · exact nofun
    · exact ok _
  | .list xs | .tuple xs => (staysInRange_ofValues naming xs).bind fun _ => ok _
  | .dict entries => (staysInRange_ofEntries naming entries []).bind fun _ => ok _
  | .bytes _ | .error _ _ | .fault _ | .specimen _ _ | .model _ | .type _ | .fresh _
  | .object _ _ => by
    rw [ofValue]
    · exact (Value.staysInRange_display naming _).bind fun _ => ok _
    all_goals nofun

theorem staysInRange_ofValues (naming : Naming) :
    ∀ vs : List Value, StaysInRange (ofValues naming vs)
  | [] => ok _
  | v :: vs =>
    (staysInRange_ofValue naming v).bind fun _ =>
      (staysInRange_ofValues naming vs).bind fun _ => ok _

/-- The keys become names, one after the other; a later one takes the place of an earlier one of the
same name. -/
theorem staysInRange_ofEntries (naming : Naming) :
    ∀ (entries : List (Value × Value)) (fields : List (String × Document)),
      StaysInRange (ofEntries naming entries fields)
  | [], _ => ok _
  | (k, v) :: rest, _ =>
    (staysInRange_fieldName k).bind fun _ => (staysInRange_ofValue naming v).bind fun _ =>
      staysInRange_ofEntries naming rest _

end

end Document

namespace Logger

theorem staysInRange_documents (naming : Naming) :
    ∀ fields : List (String × Value), StaysInRange (documents naming fields)
  | [] => ok _
  | (_, v) :: rest =>
    (Document.staysInRange_ofValue naming v).bind fun _ =>
      (staysInRange_documents naming rest).bind fun _ => ok _

theorem staysInRange_eventText (naming : Naming) (event : String) (args : List Value) :
    StaysInRange (eventText naming event args) := by
  unfold eventText
  split
  · exact ok _
  · exact (Format.staysInRange_fillPieces naming _ _).bind fun _ => ok _

theorem staysInRange_written (naming : Naming) (logger : Logger) (level event : String)
    (args : List Value) (bound given : List (String × Value)) :
    StaysInRange (written naming logger level event args bound given) := by
  refine (staysInRange_eventText naming event args).bind fun text => ?_
  split
  · exact nofun
  · exact (staysInRange_documents naming _).bind fun _ => ok _

end Logger

/-! ## Log points

Log points are put together from all of these. What is caught on the way is reported, and what is
not caught is no fault. So an index without an item can only come from the arguments of a call. -/

/-- An action does not fail by an index without an item. -/
def Logging.StaysInRange {α : Type} (x : Logging α) : Prop :=
  ∀ j, (x j).1 ≠ .error (.fault .indexOutOfRange)

namespace Logging.StaysInRange

variable {α β : Type}

theorem pure (a : α) : Logging.StaysInRange (Pure.pure a) := nofun

theorem change (f : Journal → Journal) : (Logging.change f).StaysInRange := nofun

theorem fault {f : Fault} (h : f ≠ .indexOutOfRange) :
    Logging.StaysInRange (Action.fault f : Logging α) :=
  fun _ hf => h (Raised.fault.inj (Except.error.inj hf))

/-- What passes handlers by is no fault. -/
theorem raise {r : Raised} (h : ¬ r.isCaught = true) :
    Logging.StaysInRange (Action.raise r : Logging α) := by
  intro _ hr
  obtain rfl := Except.error.inj hr
  exact h (Raised.isCaught_fault _)

theorem ofExcept {x : Except Fault α} (h : CallLog.StaysInRange x) :
    Logging.StaysInRange (Action.ofExcept x) := by
  intro j
  rw [Action.ofExcept_run]
  exact h.outcome

theorem bind {x : Logging α} {f : α → Logging β} (hx : x.StaysInRange)
    (hf : ∀ a, (f a).StaysInRange) : (x >>= f).StaysInRange := by
  intro j
  rcases h : x j with ⟨r | a, k⟩
  · rw [Action.bind_of_error h]
    intro hr
    obtain rfl := Except.error.inj hr
    exact hx j (by rw [h])
  · rw [Action.bind_of_ok h]
    exact hf a k

theorem mapM {f : α → Logging β} {as : List α} (hf : ∀ a ∈ as, (f a).StaysInRange) :
    Logging.StaysInRange (as.mapM f) := by
  induction as with
  | nil => exact pure _
  | cons a as ih =>
    obtain ⟨ha, has⟩ := List.forall_mem_cons.mp hf
    rw [List.mapM_cons]
    exact ha.bind fun _ => (ih has).bind fun _ => pure _

theorem foldlM {f : β → α → Logging β} (hf : ∀ b a, (f b a).StaysInRange) (as : List α) (b : β) :
    Logging.StaysInRange (as.foldlM f b) := by
  induction as generalizing b with
  | nil => exact pure _
  | cons a as ih =>
    rw [List.foldlM_cons]
    exact (hf b a).bind ih

end Logging.StaysInRange

/-- A name that is taken already is refused by a failure of its own. -/
theorem Logger.staysInRange_refuse (names : List String) (given : List (String × Value)) :
    (refuse names given).StaysInRange := by
  unfold refuse
  split
  · exact .fault nofun
  · exact .pure _

/-- The methods that levels have write records or refuse to. -/
theorem Logger.staysInRange_emit {naming : Naming} {logger : Logger} {method level : String}
    {number : Nat} (hmethod : method? method = some (.writes number level)) (event : String)
    (args : List Value) (given : List (String × Value)) :
    (logger.emit naming method event args given).StaysInRange := by
  simp only [emit, hmethod]
  refine (staysInRange_refuse _ given).bind fun _ => ?_
  split
  · refine .bind (fun j => ?_) fun record => .change _
    rw [recordOf_run]
    exact (staysInRange_written naming logger level event args _ given).outcome
  · exact .pure _

theorem Logger.staysInRange_reportHandled {naming : Naming} {part method level : String}
    {number : Nat} (hmethod : method? method = some (.writes number level)) (event : String)
    (given : List (String × Value)) (r : Raised) :
    (reportHandled naming part method event given r).StaysInRange :=
  .bind (fun _ => nofun) fun _ => .bind (fun _ => nofun) fun _ =>
    staysInRange_emit hmethod event [] _

namespace Converters

theorem staysInRange_convert (naming : Naming) (registry : Converters) (v : Value) :
    (registry.convert naming v).StaysInRange := by
  unfold convert Registry.convert Registry.applied
  split
  · exact .pure _
  split
  · exact .pure _
  split
  · exact .pure _
  split
  · refine (Logging.StaysInRange.ofExcept (Raised.staysInRange_text naming _)).bind fun _ => ?_
    refine (Logger.staysInRange_reportHandled rfl _ _ _).bind fun _ => ?_
    exact (Logging.StaysInRange.ofExcept (v.staysInRange_display naming)).bind fun _ => .pure _
  · exact .raise ‹_›

end Converters

/-- By going through the providers. What one raises is no fault, or it is caught and reported. -/
theorem Context.staysInRange_collect (naming : Naming) (providers : List Provider) :
    (collect naming providers).StaysInRange := by
  refine .foldlM (fun fields provider => ?_) providers []
  refine Logging.StaysInRange.bind (fun _ => nofun) fun outcome => ?_
  split
  · exact .pure _
  split
  · refine Logging.StaysInRange.bind ?_ fun _ => .pure _
    exact (Logging.StaysInRange.ofExcept (Raised.staysInRange_text naming _)).bind fun _ =>
      Logger.staysInRange_reportHandled rfl _ _ _
  · exact .raise ‹_›

theorem Sink.staysInRange_emit (naming : Naming) (level : Level) (event : String)
    (args : List Value) (fields : Context.Fields) (sink : Sink) :
    (sink.emit naming level.method event args fields).StaysInRange := by
  rcases sink with l | ⟨methods, threshold⟩
  · obtain ⟨number, hmethod, -⟩ := Logger.method?_method level
    exact Logger.staysInRange_emit hmethod event args fields
  · simp only [emit]
    split
    · exact (Logger.staysInRange_refuse _ fields).bind fun _ => .change _
    · exact .fault fun h => by cases h

namespace LogPoint

variable {naming : Naming} {point : LogPoint} {arguments : List Value}

theorem staysInRange_convert (v : Value) : (point.convert naming v).StaysInRange := by
  refine Logging.StaysInRange.bind (fun j => ?_) fun registry =>
    registry.staysInRange_convert naming v
  rw [registry_run]
  exact nofun

theorem staysInRange_argument {i : Int} {v : Value} (h : item? arguments i = some v) :
    (argument arguments i).StaysInRange := by
  rw [argument, h]
  exact .pure v

theorem staysInRange_insertError (error : Value) (positions : List Int) (values : List Value) :
    (point.insertError naming error positions values).StaysInRange := by
  induction positions generalizing values with
  | nil => exact .pure _
  | cons i positions ih => exact (staysInRange_convert error).bind fun _ => ih _

/-- The exception is an argument of the call, and its index is in range as those of the rules are.
Where it is put among the values does not matter: any number is a position to insert at. -/
theorem staysInRange_withError (hrange : point.plan.InRange arguments) (values : List Value)
    (fields : Context.Fields) :
    (point.withError naming arguments values fields).StaysInRange := by
  unfold withError
  split
  · exact .pure _
  · rename_i parameter hparameter
    obtain ⟨error, herror⟩ := hrange.error parameter hparameter
    exact (staysInRange_argument herror).bind fun _ =>
      (staysInRange_insertError _ _ _).bind fun _ => .pure _

/-- **A call takes no argument that is not there**, where its plan finds all arguments. Whether it
does is a matter of the plan and of the number of arguments alone. -/
theorem logCall_staysInRange (hrange : point.plan.InRange arguments) (sink : Sink) :
    (point.logCall naming sink arguments).StaysInRange := by
  refine Logging.StaysInRange.bind (fun j => ?_) fun isEnabled => ?_
  · rw [isEnabled_run]
    exact nofun
  cases isEnabled with
  | false => exact .pure _
  | true =>
    have hcontext : (point.context naming).StaysInRange := by
      unfold context
      split
      · exact Context.staysInRange_collect naming _
      · exact .bind (fun _ => nofun) fun _ => Context.staysInRange_collect naming _
    have hrender : ∀ rule ∈ point.plan.parameters,
        (point.render naming arguments rule).StaysInRange := by
      intro rule hrule
      cases rule with
      | static text => exact .pure _
      | live i name hint =>
        obtain ⟨v, hv⟩ := hrange.rules i name hint hrule
        exact (staysInRange_argument hv).bind fun v => staysInRange_convert v
    refine (Logging.StaysInRange.mapM hrender).bind fun values => hcontext.bind fun fields => ?_
    refine (staysInRange_withError hrange values fields).bind fun (values, fields) => ?_
    exact (Logger.staysInRange_refuse _ fields).bind fun _ =>
      Sink.staysInRange_emit naming _ _ _ _ sink

end LogPoint

end CallLog
