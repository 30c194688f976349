import CallLog.LogPoint
import CallLog.Proofs.Invariant

/-!
# What logging leaves alone

Whatever is logged, the journal gets records, recorders take calls, and providers count. The rest
of the journal stays: what is bound, which context variables and converters are registered, and the
threshold for new loggers. An invariant of that rest is steady, and everything that a log point does
keeps it (`LogPoint.maintains_logCall`, `LogPoint.maintains_logResult`,
`LogPoint.maintains_logFailure`).
-/

namespace CallLog

/-- An invariant of the journal that does not depend on what is recorded and counted. The three
clauses are the three things that logging changes. -/
structure Journal.IsSteady (I : Journal → Prop) : Prop where
  records : ∀ {j : Journal} (records : List Record), I j → I { j with records := records }
  calls : ∀ {j : Journal} (calls : List SinkCall), I j → I { j with calls := calls }
  counters : ∀ {j : Journal} (counters : List Nat), I j → I { j with counters := counters }

theorem Journal.isSteady_threshold (t : Nat) : IsSteady fun j => j.threshold = t :=
  ⟨fun _ h => h, fun _ h => h, fun _ h => h⟩

theorem Journal.isSteady_converters (registry : Converters) :
    IsSteady fun j => j.converters = registry :=
  ⟨fun _ h => h, fun _ h => h, fun _ h => h⟩

variable {I : Journal → Prop} {naming : Naming}

namespace Logger

theorem maintains_refuse (names : List String) (given : List (String × Value)) :
    (refuse names given).Maintains I := by
  unfold refuse
  split
  · exact .fault _
  · exact .pure _

/-- To make a record reads the journal, for what is bound, and writes nothing to it. -/
theorem maintains_recordOf (logger : Logger) (level event : String) (args : List Value)
    (given : List (String × Value)) :
    (recordOf naming logger level event args given).Maintains I := by
  refine (Action.Maintains.ofExcept _).bind fun text => ?_
  refine (maintains_refuse _ _).bind fun _ => ?_
  exact Action.Maintains.bind (fun _ h => h) fun _ => .ofExcept _

/-- To forget bound values by name fails or does nothing, since it is a copy of the logger that is
changed. -/
theorem maintains_forget (isStrict : Bool) (names : List Value) :
    (forget isStrict names).Maintains I := by
  induction names with
  | nil => exact .pure _
  | cons name names ih =>
    rw [forget]
    split
    · exact .fault _
    · split
      · exact ih
      · split
        · exact ih
        · exact .fault _

/-- A logger writes records, and that is all that it changes. -/
theorem maintains_emit (hI : Journal.IsSteady I) (logger : Logger) (method event : String)
    (args : List Value) (given : List (String × Value)) :
    (logger.emit naming method event args given).Maintains I := by
  have hwrite (level : String) (given : List (String × Value)) :
      (do Logging.write (← logger.recordOf naming level event args given)).Maintains I :=
    (maintains_recordOf logger level event args given).bind fun r j hj => hI.records _ hj
  unfold emit
  rcases method? method with _ | m
  · exact .fault _
  cases m with
  | writes number level =>
    refine (maintains_refuse _ _).bind fun _ => ?_
    split
    · exact hwrite level given
    · exact .pure ()
  | writesException => exact (maintains_refuse _ _).bind fun _ => hwrite "error" _
  | writesNothing =>
    refine (maintains_refuse _ _).bind fun _ => ?_
    split
    · exact (maintains_recordOf _ _ _ _ _).bind fun _ => .fault _
    · exact .pure ()
  | defers => exact maintains_refuse _ _
  | defersAtLevel =>
    refine (maintains_refuse _ _).bind fun _ => ?_
    split
    · exact .fault _
    · exact .pure ()
  | forgets isStrict =>
    dsimp only
    split
    · exact maintains_forget _ _
    · exact .fault _
  | refuses => exact .fault _

/-- A report writes at most a record. -/
theorem maintains_report (hI : Journal.IsSteady I) (part method event : String)
    (given : List (String × Value)) : (report naming part method event given).Maintains I :=
  Action.Maintains.bind (fun _ hj => hj) fun _ => maintains_emit hI _ method event [] given

theorem maintains_reportHandled (hI : Journal.IsSteady I) (part method event : String)
    (given : List (String × Value)) (r : Raised) :
    (reportHandled naming part method event given r).Maintains I :=
  Action.Maintains.bind (fun _ hj => hj) fun _ => maintains_report hI part method event _

end Logger

/-! ## Context variables and converters

Providers and converters are functions of their arguments and of a counter, so all that they do to
the journal is to count, and what is done about their failures is to report. -/

/-- A provider that counts counts up one cell and no more; the others leave the journal alone, also
where they raise. -/
theorem Provider.maintains_ask (hI : Journal.IsSteady I) (provider : Provider) :
    provider.ask.Maintains I := by
  have hcount (cell : Nat) : (countUp cell).Maintains I := fun j hj => hI.counters _ hj
  unfold ask
  split
  · exact .pure _
  · exact (hcount _).bind fun _ => .pure _
  · exact (hcount _).bind fun _ => .resume _
  · exact .raise _

/-- By going through the providers. Each is asked once, and what it raises is reported or raised
again. -/
theorem Context.maintains_collect (hI : Journal.IsSteady I) (providers : List Provider) :
    (collect naming providers).Maintains I := by
  refine .foldlM (fun fields provider => ?_) providers []
  refine (provider.maintains_ask hI).attempt.bind fun outcome => ?_
  rcases outcome with r | v
  · dsimp only
    split
    · refine Action.Maintains.bind ?_ fun _ => .pure _
      exact (Action.Maintains.ofExcept _).bind fun message =>
        Logger.maintains_reportHandled hI _ _ _ _ r
    · exact .raise r
  · exact .pure _

/-- At most one converter is applied. What it raises is reported or raised again, and the text in
its place is made without the journal. -/
theorem Registry.maintains_convert {κ : Type} [DecidableEq κ] (hI : Journal.IsSteady I)
    (registry : Registry κ) (line : List κ) (v : Value) :
    (registry.convert naming line v).Maintains I := by
  unfold convert applied
  split
  · exact .pure _
  · split
    · exact .pure _
    · split
      · exact .pure _
      · split
        · refine (Action.Maintains.ofExcept _).bind fun message => ?_
          refine (Logger.maintains_reportHandled hI _ _ _ _ _).bind fun _ => ?_
          exact (Action.Maintains.ofExcept _).bind fun _ => .pure _
        · exact .raise _

theorem Converters.maintains_convert (hI : Journal.IsSteady I) (registry : Converters)
    (v : Value) : (registry.convert naming v).Maintains I :=
  Registry.maintains_convert hI registry v.line v

/-! ## Log points

A log point converts, collects, and hands the event to its sink. Each of these keeps a steady
invariant, and so do the operations, which do one after the other. -/

namespace Sink

theorem maintains_isEnabledFor (hI : Journal.IsSteady I) (level : Nat) (sink : Sink) :
    (sink.isEnabledFor level).Maintains I := by
  rcases sink with l | ⟨methods, _ | threshold⟩
  · exact .pure _
  · exact .pure _
  · exact Action.Maintains.bind (fun j hj => hI.calls _ hj) fun _ => .pure _

theorem maintains_emit (hI : Journal.IsSteady I) (method event : String) (args : List Value)
    (fields : Context.Fields) (sink : Sink) :
    (sink.emit naming method event args fields).Maintains I := by
  rcases sink with l | ⟨methods, threshold⟩
  · exact Logger.maintains_emit hI l method event args fields
  · rw [emit]
    split
    · exact (Logger.maintains_refuse _ _).bind fun _ j hj => hI.calls _ hj
    · exact .fault _

end Sink

namespace LogPoint

variable {point : LogPoint} {arguments : List Value}

theorem maintains_journal : Logging.journal.Maintains I :=
  fun _ h => h

theorem maintains_convert (hI : Journal.IsSteady I) (v : Value) :
    (point.convert naming v).Maintains I := by
  refine Action.Maintains.bind ?_ fun registry => registry.maintains_convert hI v
  unfold registry
  split
  · exact .pure _
  · exact maintains_journal.bind fun _ => .pure _

theorem maintains_context (hI : Journal.IsSteady I) : (point.context naming).Maintains I := by
  unfold context
  split
  · exact Context.maintains_collect hI _
  · exact maintains_journal.bind fun _ => Context.maintains_collect hI _

theorem maintains_argument (i : Int) : (argument arguments i).Maintains I := by
  unfold argument
  split
  · exact .pure _
  · exact .fault _

theorem maintains_render (hI : Journal.IsSteady I) (rule : Rule) :
    (point.render naming arguments rule).Maintains I := by
  cases rule with
  | live i name hint => exact (maintains_argument i).bind fun v => maintains_convert hI v
  | static text => exact .pure _

/-- The exception is converted anew for every position that it is shown at. -/
theorem maintains_insertError (hI : Journal.IsSteady I) (error : Value) (positions : List Int)
    (values : List Value) : (point.insertError naming error positions values).Maintains I := by
  induction positions generalizing values with
  | nil => exact .pure _
  | cons i positions ih => exact (maintains_convert hI error).bind fun shown => ih _

theorem maintains_withError (hI : Journal.IsSteady I) (values : List Value)
    (fields : Context.Fields) :
    (point.withError naming arguments values fields).Maintains I := by
  unfold withError
  split
  · exact .pure _
  · refine (maintains_argument _).bind fun error => ?_
    exact (maintains_insertError hI error _ values).bind fun _ => .pure _

theorem maintains_emit (hI : Journal.IsSteady I) (sink : Sink) (event : String)
    (args : List Value) (fields : Context.Fields) :
    (point.emit naming sink event args fields).Maintains I :=
  (Logger.maintains_refuse _ _).bind fun _ => Sink.maintains_emit hI _ _ _ _ sink

/-- The arguments are rendered, the context is collected, and the exception is put in its place, all
of it before the event is handed on; a call that is not enabled does nothing of it. -/
theorem maintains_logCall (hI : Journal.IsSteady I) (sink : Sink) :
    (point.logCall naming sink arguments).Maintains I := by
  refine (Sink.maintains_isEnabledFor hI _ sink).bind fun isEnabled => ?_
  split
  · refine (Action.Maintains.mapM (fun rule => maintains_render hI rule) _).bind fun values => ?_
    refine (maintains_context hI).bind fun fields => ?_
    refine (maintains_withError hI values fields).bind fun completed => ?_
    exact maintains_emit hI sink _ _ _
  · exact .pure ()

theorem maintains_logResult (hI : Journal.IsSteady I) (sink : Sink) (result : Value) :
    (point.logResult naming sink result).Maintains I := by
  unfold logResult
  split
  · refine (Sink.maintains_isEnabledFor hI _ sink).bind fun isEnabled => ?_
    split
    · refine (maintains_convert hI result).bind fun shown => ?_
      exact (maintains_context hI).bind fun fields => maintains_emit hI sink _ _ _
    · exact .pure ()
  · exact .pure ()

/-- A failure is logged with the context and the exception. Its message has no values that would
have to be converted. -/
theorem maintains_logFailure (hI : Journal.IsSteady I) (sink : Sink) (error : Value) :
    (point.logFailure naming sink error).Maintains I := by
  refine (Sink.maintains_isEnabledFor hI _ sink).bind fun isEnabled => ?_
  split
  · refine (maintains_context hI).bind fun fields => ?_
    exact (Logger.maintains_refuse _ _).bind fun _ => maintains_emit hI sink _ _ _
  · exact .pure ()

end LogPoint

end CallLog
