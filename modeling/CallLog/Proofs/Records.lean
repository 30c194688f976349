import CallLog.Proofs.Context

/-!
# What can be recorded

A record shows the fields of its event as documents, and not every value becomes one. Some fields
are not shown as they are: those that stand for something else, and those under the names of which
the event asks for an exception or the stack (`Logger.isTaken`). So an event is recorded exactly if
the fields that are taken become documents (`exists_record_iff`), and each of them is found under
its name then (`lookup_record_field`).

`Field.IsWritable` is the condition on a single field that is enough for any event.
-/

namespace CallLog

/-- A field that can be recorded with any others: it is left out of records, or becomes a
document. -/
def Field.IsWritable (naming : Naming) (field : String × Value) : Prop :=
  Logger.isReserved field.1 = true ∨ ∃ d, Document.ofValue naming field.2 = .ok d

/-- Every value that is bound around the calls can be recorded. -/
def Journal.IsWritable (naming : Naming) (j : Journal) : Prop :=
  ∀ field ∈ j.bound, Field.IsWritable naming field

theorem Field.isWritable_str (naming : Naming) (name s : String) :
    Field.IsWritable naming (name, .str s) := by
  refine .inr ⟨.str s, ?_⟩
  rw [Document.ofValue]

/-- What holds of all fields holds of them after one was overwritten, if it holds of the new one. -/
theorem Document.forall_mem_insert {α : Type} {P : String × α → Prop} {name : String} {a : α}
    {fields : List (String × α)} (ha : P (name, a)) (h : ∀ e ∈ fields, P e) :
    ∀ e ∈ insert name a fields, P e := by
  induction fields with
  | nil =>
    intro e he
    obtain rfl := List.mem_singleton.mp he
    exact ha
  | cons entry fields ih =>
    obtain ⟨hentry, hfields⟩ := List.forall_mem_cons.mp h
    rw [insert]
    by_cases hn : entry.1 = name
    · rw [if_pos hn, List.forall_mem_cons, hn]
      exact ⟨ha, hfields⟩
    · rw [if_neg hn, List.forall_mem_cons]
      exact ⟨hentry, ih hfields⟩

namespace Logger

variable {naming : Naming} {name : String} {v : Value}

/-! ## Documents of fields

The fields that are shown become documents one after the other, and all of them have to. So there is
a record exactly if each of them does, and it has the same names in the same order. -/

/-- Fields have documents if each of them has one: one that has none is enough to keep the record
from being made. -/
theorem exists_documents_iff {fields : List (String × Value)} :
    (∃ record, documents naming fields = .ok record) ↔
      ∀ field ∈ fields, ∃ d, Document.ofValue naming field.2 = .ok d := by
  induction fields with
  | nil => simp [documents]
  | cons field fields ih =>
    rw [List.forall_mem_cons, ← ih]
    constructor
    · rintro ⟨record, h⟩
      obtain ⟨d, hd, h⟩ := Action.except_bind_eq_ok h
      obtain ⟨rest, hrest, -⟩ := Action.except_bind_eq_ok h
      exact ⟨⟨d, hd⟩, rest, hrest⟩
    · rintro ⟨⟨d, hd⟩, rest, hrest⟩
      refine ⟨(field.1, d) :: rest, ?_⟩
      rw [documents, hd, hrest]
      rfl

theorem keys_documents {fields : List (String × Value)} {shown : Record}
    (h : documents naming fields = .ok shown) : shown.map Prod.fst = fields.map Prod.fst := by
  induction fields generalizing shown with
  | nil =>
    cases h
    rfl
  | cons field fields ih =>
    obtain ⟨document, -, h⟩ := Action.except_bind_eq_ok h
    obtain ⟨rest, hrest, h⟩ := Action.except_bind_eq_ok h
    cases h
    rw [List.map_cons, List.map_cons, ih hrest]

theorem lookup_documents {fields : List (String × Value)} {shown : Record}
    (h : documents naming fields = .ok shown) (hname : fields.lookup name = some v) :
    ∃ d, Document.ofValue naming v = .ok d ∧ shown.lookup name = some d := by
  induction fields generalizing shown with
  | nil => cases hname
  | cons field fields ih =>
    obtain ⟨n, u⟩ := field
    obtain ⟨document, hdocument, h⟩ := Action.except_bind_eq_ok h
    obtain ⟨rest, hrest, h⟩ := Action.except_bind_eq_ok h
    cases h
    rw [Document.lookup_cons] at hname ⊢
    by_cases hn : name = n
    · rw [if_pos hn] at hname ⊢
      obtain rfl := Option.some.inj hname
      exact ⟨document, hdocument, rfl⟩
    · rw [if_neg hn] at hname ⊢
      exact ih hrest hname

/-! ## Fields that are rendered

What an event asks for is put into the record under a name of its own, and this name may be one that
the event has as well. Then the field of the event is dropped, and need not become a document. -/

theorem ne_of_isReserved {name reserved : String} (hname : isReserved name = false)
    (hreserved : isReserved reserved = true) : name ≠ reserved := by
  rintro rfl
  cases hname.symm.trans hreserved

/-- **What an event asks for**: an exception, or the stack. -/
theorem lookup_rendered (naming : Naming) (fields : List (String × Value)) (name : String) :
    (rendered naming fields).lookup name =
      if name = "exception" then
        ((fields.lookup "exc_info").bind exceptionOf?).map fun r => .str (exceptionText naming r)
      else if name = "stack" && asksFor "stack_info" fields then some (.str stackText)
      else none := by
  unfold rendered
  rcases (fields.lookup "exc_info").bind exceptionOf? with _ | r
  · rcases asksFor "stack_info" fields with _ | _
    · simp
    · simp only [Option.map_none, Option.toList_none, List.nil_append, if_true,
        Document.lookup_cons, List.lookup_nil, Bool.and_true, decide_eq_true_eq]
      split <;> simp_all
  · rcases asksFor "stack_info" fields with _ | _
    · simp [Document.lookup_cons]
    · simp [Document.lookup_cons]

theorem isTaken_iff {fields : List (String × Value)} :
    isTaken naming fields name = true ↔
      isReserved name = false ∧
        ¬ (name = "exception" ∧ ((fields.lookup "exc_info").bind exceptionOf?).isSome = true) ∧
        ¬ (name = "stack" ∧ asksFor "stack_info" fields = true) := by
  rw [isTaken, lookup_rendered, Bool.and_eq_true, Bool.not_eq_true']
  refine and_congr_right fun _ => ?_
  by_cases hexception : name = "exception"
  · subst hexception
    rcases (fields.lookup "exc_info").bind exceptionOf? with _ | r <;> simp
  · by_cases hstack : name = "stack"
    · subst hstack
      rcases asksFor "stack_info" fields with _ | _ <;> simp
    · simp [hexception, hstack]

/-- A field is taken if its name means nothing to the logger. -/
theorem isTaken_of_free (naming : Naming) (fields : List (String × Value))
    (hfree : isReserved name = false) (hexception : name ≠ "exception") (hstack : name ≠ "stack") :
    isTaken naming fields name = true :=
  isTaken_iff.mpr ⟨hfree, fun h => hexception h.1, fun h => hstack h.1⟩

/-! ## Fields of a record

A record is put together from three parts with different names: the fields that are taken, what was
asked for, and the event with the level. So each name is looked up in the part that it belongs to,
and what is not in that part is not in the record. -/

section

variable {logger : Logger} {level event : String} {bound given : List (String × Value)}
  {r : Record} {d : Document}

/-- The three parts of a record. -/
theorem of_record (h : record naming logger level event bound given = .ok r) :
    ∃ shown, documents naming ((logger.gather bound given).filter fun field =>
        isTaken naming (logger.gather bound given) field.1) = .ok shown ∧
      r = shown ++ rendered naming (logger.gather bound given) ++
        [("event", .str event), ("level", .str level)] := by
  obtain ⟨shown, hshown, h⟩ := Action.except_bind_eq_ok h
  exact ⟨shown, hshown, (Except.ok.inj h).symm⟩

/-- **When an event can be recorded**: what the record takes from it becomes a document. Nothing
else can fail, since what is rendered always has a text. -/
theorem exists_record_iff (logger : Logger) (level event : String)
    (bound given : List (String × Value)) :
    (∃ r, record naming logger level event bound given = .ok r) ↔
      ∀ field ∈ logger.gather bound given,
        isTaken naming (logger.gather bound given) field.1 = true →
          ∃ d, Document.ofValue naming field.2 = .ok d := by
  have hfilter : (∃ shown, documents naming ((logger.gather bound given).filter fun field =>
      isTaken naming (logger.gather bound given) field.1) = .ok shown) ↔
      ∀ field ∈ logger.gather bound given,
        isTaken naming (logger.gather bound given) field.1 = true →
          ∃ d, Document.ofValue naming field.2 = .ok d := by
    rw [exists_documents_iff]
    simp only [List.mem_filter, and_imp]
  rw [← hfilter]
  constructor
  · rintro ⟨r, h⟩
    obtain ⟨shown, hshown, -⟩ := of_record h
    exact ⟨shown, hshown⟩
  · rintro ⟨shown, hshown⟩
    rw [record, hshown]
    exact ⟨_, rfl⟩

/-- What a record does not take from its event it has of its own, or not at all. -/
theorem lookup_shown_eq_none {fields : List (String × Value)} {shown : Record}
    (h : documents naming (fields.filter fun field => isTaken naming fields field.1) = .ok shown)
    (hname : isTaken naming fields name = true → fields.lookup name = none) :
    shown.lookup name = none := by
  rw [Document.lookup_eq_none_iff, keys_documents h, ← Document.lookup_eq_none_iff,
    Document.lookup_filter]
  split
  · exact hname ‹_›
  · rfl

/-- **The event and the level of a record** are not replaced by anything else. -/
theorem lookup_record (h : record naming logger level event bound given = .ok r) :
    r.lookup "event" = some (.str event) ∧ r.lookup "level" = some (.str level) := by
  obtain ⟨shown, hshown, rfl⟩ := of_record h
  have hreserved {name : String} (hname : isReserved name = true) (hexception : name ≠ "exception")
      (hstack : name ≠ "stack") :
      (shown ++ rendered naming (logger.gather bound given)).lookup name = none := by
    have hshown : shown.lookup name = none :=
      lookup_shown_eq_none hshown fun htaken => by
        cases hname.symm.trans (isTaken_iff.mp htaken).1
    rw [List.lookup_append, hshown, lookup_rendered, if_neg hexception]
    simp [hstack]
  constructor
  · rw [List.lookup_append, hreserved (by decide) (by decide) (by decide)]
    rfl
  · rw [List.lookup_append, hreserved (by decide) (by decide) (by decide)]
    rfl

/-- **A field of an event** is in its record, if the record takes it. -/
theorem lookup_record_field (h : record naming logger level event bound given = .ok r)
    (hname : (logger.gather bound given).lookup name = some v)
    (htaken : isTaken naming (logger.gather bound given) name = true) :
    ∃ d, Document.ofValue naming v = .ok d ∧ r.lookup name = some d := by
  obtain ⟨shown, hshown, rfl⟩ := of_record h
  have hfilter : ((logger.gather bound given).filter fun field =>
      isTaken naming (logger.gather bound given) field.1).lookup name = some v := by
    rw [Document.lookup_filter, if_pos htaken, hname]
  obtain ⟨d, hd, hlookup⟩ := lookup_documents hshown hfilter
  refine ⟨d, hd, ?_⟩
  rw [List.append_assoc, List.lookup_append, hlookup]
  rfl

/-- **What an event asks for** is in its record, whatever the event has under that name. -/
theorem lookup_record_rendered (h : record naming logger level event bound given = .ok r)
    (hname : (rendered naming (logger.gather bound given)).lookup name = some d) :
    r.lookup name = some d := by
  obtain ⟨shown, hshown, rfl⟩ := of_record h
  have hshown : shown.lookup name = none :=
    lookup_shown_eq_none hshown fun htaken => by simp [isTaken, hname] at htaken
  rw [List.append_assoc, List.lookup_append, hshown, List.lookup_append, hname]
  rfl

/-- A record has no field that its event has not, but for those that the logger writes. -/
theorem lookup_record_absent (h : record naming logger level event bound given = .ok r)
    (hname : (logger.gather bound given).lookup name = none)
    (htaken : isTaken naming (logger.gather bound given) name = true) : r.lookup name = none := by
  obtain ⟨shown, hshown, rfl⟩ := of_record h
  obtain ⟨hfree, hrendered⟩ : isReserved name = false ∧
      (rendered naming (logger.gather bound given)).lookup name = none := by
    simpa [isTaken] using htaken
  have hevent : name ≠ "event" := ne_of_isReserved hfree (by decide)
  have hlevel : name ≠ "level" := ne_of_isReserved hfree (by decide)
  rw [List.lookup_append, List.lookup_append,
    lookup_shown_eq_none hshown fun _ => hname, hrendered]
  simp [Document.lookup_cons, hevent, hlevel]

end

/-! ## Fields that can be recorded

Which fields a record takes depends on all of them. A condition on each field by itself is simpler
to carry through, and enough: the field is never taken, or it becomes a document. -/

/-- The fields of a record are those that are given or bound, and the name of the logger. -/
theorem forall_mem_gather {P : String × Value → Prop} {logger : Logger}
    {bound given : List (String × Value)} (hname : P ("logger", .str logger.name))
    (hbound : ∀ field ∈ bound, P field) (hgiven : ∀ field ∈ given, P field) :
    ∀ field ∈ logger.gather bound given, P field := by
  have hown {own : List (String × Value)} (h : ∀ field ∈ own, P field) :
      ∀ field ∈ given.foldl (fun fields entry => Document.insert entry.1 entry.2 fields) own,
        P field := by
    induction given generalizing own with
    | nil => exact h
    | cons entry given ih =>
      obtain ⟨hentry, hgiven⟩ := List.forall_mem_cons.mp hgiven
      exact ih hgiven (Document.forall_mem_insert hentry h)
  intro field hfield
  rw [gather] at hfield
  rcases List.mem_append.mp hfield with hfield | hfield
  · refine hown ?_ field hfield
    intro e he
    obtain rfl := List.mem_singleton.mp he
    exact hname
  · exact hbound field (List.mem_filter.mp hfield).1

/-- **An event is recorded** if its fields and what is bound around it can be. This is used where it
does not matter what the record has in the end. -/
theorem exists_record {bound given : List (String × Value)}
    (hbound : ∀ field ∈ bound, Field.IsWritable naming field)
    (hgiven : ∀ field ∈ given, Field.IsWritable naming field)
    (logger : Logger) (level event : String) :
    ∃ r, record naming logger level event bound given = .ok r := by
  refine (exists_record_iff logger level event bound given).mpr fun field hfield htaken => ?_
  have hwritable : Field.IsWritable naming field :=
    forall_mem_gather (Field.isWritable_str naming _ _) hbound hgiven field hfield
  rcases hwritable with hreserved | hdocument
  · cases hreserved.symm.trans (isTaken_iff.mp htaken).1
  · exact hdocument

/-- What has a text is written, if its fields and what is bound around it can be. -/
theorem exists_written {event text : String} {args : List Value}
    (htext : eventText naming event args = .ok text) {bound given : List (String × Value)}
    (hbound : ∀ field ∈ bound, Field.IsWritable naming field)
    (hgiven : ∀ field ∈ given, Field.IsWritable naming field)
    (hname : clash? ["method_name"] given = none) (logger : Logger) (level : String) :
    ∃ r, written naming logger level event args bound given = .ok r := by
  rw [written_of_text htext hname]
  exact exists_record hbound hgiven logger level text

/-- **A report can be written** if its fields and what is bound around it can be. -/
theorem exists_reported {bound given : List (String × Value)}
    (hbound : ∀ field ∈ bound, Field.IsWritable naming field)
    (hgiven : ∀ field ∈ given, Field.IsWritable naming field)
    (hname : clash? ["method_name"] given = none) (part level event : String) :
    ∃ r, reported naming part level event bound given = .ok r :=
  exists_written rfl hbound hgiven hname _ level

/-- A report from a handler can be written as well: the failure is not shown as it is. -/
theorem exists_reported_handled {bound given : List (String × Value)}
    (hbound : ∀ field ∈ bound, Field.IsWritable naming field)
    (hgiven : ∀ field ∈ given, Field.IsWritable naming field)
    (hname : clash? ["method_name"] given = none) (part level event : String) (failure : Raised) :
    ∃ r, reported naming part level event bound (given ++ handled bound failure) = .ok r := by
  refine exists_reported hbound ?_ (clash?_handled (by decide) hname bound failure) part level event
  refine List.forall_mem_append.mpr ⟨hgiven, fun field hfield => ?_⟩
  rw [mem_handled hfield]
  exact .inl rfl

end Logger

end CallLog
