import AccessPolicy.Command.Run
import AccessPolicy.Proofs.Accounting
import AccessPolicy.Proofs.Encoding
import AccessPolicy.Proofs.Refusal

/-! What can be reported of a policy that is accepted. Nothing is asked of roles and contexts when a
policy is read, but a report makes keys of the roles, lists the contexts, and writes the text of what
it shows. -/

namespace AccessPolicy

theorem isOk_mapM {α β : Type} {f : α → Except Fault β} {xs : List α} :
    (xs.mapM f).isOk ↔ ∀ x ∈ xs, (f x).isOk := by
  induction xs with
  | nil => exact ⟨fun _ => nofun, fun _ => rfl⟩
  | cons x xs ih =>
    rw [List.mapM_cons, List.forall_mem_cons, ← ih]
    cases f x with
    | error => simp [bind, Except.bind, Except.isOk, Except.toBool]
    | ok y =>
      cases xs.mapM f <;> simp [bind, Except.bind, pure, Except.pure, Except.isOk, Except.toBool]

/-- What holds of all reports on rules holds of what their summaries are. -/
theorem forall_of_reported {rules : List Rule} {grants : List GrantSummary}
    (reported : List.Forall₂ Rule.Reported rules grants) (P : GrantSummary → Prop) :
    (∀ grant ∈ grants, P grant) ↔
      ∀ rule ∈ rules, ∀ grant, rule.summary = .ok grant → P grant := by
  induction reported with
  | nil => exact ⟨fun _ => nofun, fun _ => nofun⟩
  | cons first _ ih =>
    have summary := Rule.reported_iff.mp first
    simp only [List.forall_mem_cons, ih, summary, Except.ok.injEq, forall_eq']

theorem Rule.summary_isOk (rule : Rule) : rule.summary.isOk = (contextParts rule.context).isOk := by
  unfold summary
  cases contextParts rule.context <;> rfl

namespace Tables

variable {t : Tables}

/-- Roles can be keys, and contexts can be listed, but for what is granted to a role that is not a
number: no comparison finds its rules. -/
structure Reportable (t : Tables) : Prop where
  roles : ∀ role ∈ t.roles, role.keyObstacle? = none
  contexts : ∀ rule ∈ t.rules, ¬ rule.role.isNan → (contextParts rule.context).isOk

theorem grantsTo_isOk {roles : List Value} {entered : Table (List GrantSummary)} :
    (t.grantsTo entered roles).isOk ↔ ∀ role ∈ roles,
      role.keyObstacle? = none ∧ ∀ rule ∈ t.rulesFor role, (contextParts rule.context).isOk := by
  induction roles generalizing entered with
  | nil => exact ⟨fun _ => nofun, fun _ => rfl⟩
  | cons role rest ih =>
    have summaries : ((t.rulesFor role).mapM Rule.summary).isOk ↔
        ∀ rule ∈ t.rulesFor role, (contextParts rule.context).isOk := by
      simp only [isOk_mapM, Rule.summary_isOk]
    rw [grantsTo, List.forall_mem_cons, ← summaries]
    cases (t.rulesFor role).mapM Rule.summary with
    | error => simp [bind, Except.bind, Except.isOk, Except.toBool]
    | ok reports =>
      cases role.keyObstacle? with
      | some => simp [bind, Except.bind, Except.isOk, Except.toBool]
      | none => simpa [bind, Except.bind, Except.isOk, Except.toBool] using ih

/-- A comparison finds a rule for a role if its role is the same, unless that is not a number. -/
theorem mem_rulesFor {role : Value} {rule : Rule} :
    rule ∈ t.rulesFor role ↔ rule ∈ t.rules ∧ ¬ rule.role.isNan ∧ rule.role.same role := by
  rw [rulesFor, List.mem_filter]
  refine and_congr_right fun _ => ?_
  by_cases nan : rule.role.isNan
  · simp [Value.equals_of_isNan nan, nan]
  · simp [Value.equals_eq_same nan, nan]

/-- What is granted to registered roles is what is declared, but for roles that are no numbers. -/
theorem Consistent.forall_granted (consistent : t.Consistent) {P : Rule → Prop} :
    (∀ role ∈ t.roles, ∀ rule ∈ t.rulesFor role, P rule) ↔
      ∀ rule ∈ t.rules, ¬ rule.role.isNan → P rule := by
  constructor
  · intro each rule held number
    obtain ⟨role, registered, like⟩ := Value.within_iff.mp (consistent.rules rule held)
    exact each role registered rule (mem_rulesFor.mpr ⟨held, number, like⟩)
  · intro each role _ rule granted
    obtain ⟨declared, number, -⟩ := mem_rulesFor.mp granted
    exact each rule declared number

/-- Of consistent tables a summary can be made if they are reportable. -/
theorem Consistent.summary_isOk (consistent : t.Consistent) : t.summary.isOk ↔ t.Reportable := by
  have made : t.summary.isOk = (t.grantsTo .empty t.roles).isOk := by
    unfold Tables.summary
    cases t.grantsTo .empty t.roles <;> rfl
  rw [made, grantsTo_isOk, forall₂_and, consistent.forall_granted]
  constructor
  · rintro ⟨roles, contexts⟩
    exact ⟨roles, contexts⟩
  · rintro ⟨roles, contexts⟩
    exact ⟨roles, contexts⟩

end Tables

/-- The text of a value can be made, and be written. -/
def Value.Printable (value : Value) : Prop :=
  ¬ value.holdsLongNumber ∧ Text.isScalar value.plain

namespace Command

/-- All that a report shows can be printed, the name of the file in front. -/
structure Legible (label : String) (t : Tables) : Prop where
  label : Text.isScalar label
  roles : ∀ role ∈ t.roles, role.Printable
  titles : ∀ role ∈ t.roles, ∀ title ∈ shownTitle? t.roleTitles role, title.Printable
  grants : ∀ rule ∈ t.rules, ¬ rule.role.isNan → ∀ grant, rule.summary = .ok grant →
    ∀ value ∈ grant.context :: grant.privileges, value.Printable

/-! ## Lines -/

theorem writtenLine_isOk {values : List Value} {text : String} :
    (writtenLine values text).isOk ↔
      (∀ value ∈ values, ¬ value.holdsLongNumber) ∧ Text.isScalar text := by
  unfold writtenLine
  rw [← Text.EncodingFault.ofText?_eq_none_iff]
  by_cases long : values.any Value.holdsLongNumber
  · rw [if_pos long]
    obtain ⟨value, held, tooLong⟩ := List.any_eq_true.mp long
    exact ⟨nofun, fun each => absurd tooLong (each.1 value held)⟩
  · have short : ∀ value ∈ values, ¬ value.holdsLongNumber := fun value held tooLong =>
      long (List.any_eq_true.mpr ⟨value, held, tooLong⟩)
    rw [if_neg long, and_iff_right short]
    cases Text.EncodingFault.ofText? text with
    | some => exact ⟨nofun, nofun⟩
    | none => exact ⟨fun _ => rfl, fun _ => rfl⟩

theorem writtenLine_eq_error {values : List Value} {text : String} {fault : RunFault}
    (unwritten : writtenLine values text = .error fault) :
    fault = .policy .longNumber ∨ ∃ encoding, fault = .file (.unencodable encoding) := by
  unfold writtenLine at unwritten
  split at unwritten
  · cases unwritten
    exact .inl rfl
  · split at unwritten <;> cases unwritten
    exact .inr ⟨_, rfl⟩

theorem headLine_isOk {label : String} {privileges roles rules : Nat} :
    (writtenLine [] (label ++ ": " ++ toString privileges ++ " privileges, " ++ toString roles ++
      " roles, " ++ toString rules ++ " rules")).isOk ↔ Text.isScalar label := by
  rw [writtenLine_isOk, and_iff_right (List.forall_mem_nil _)]
  simp only [Text.isScalar_append_ascii (Text.isAscii_toString _),
    Text.isScalar_append_ascii (t := ": ") rfl, Text.isScalar_append_ascii (t := " privileges, ") rfl,
    Text.isScalar_append_ascii (t := " roles, ") rfl, Text.isScalar_append_ascii (t := " rules") rfl]

/-- A role and its title are shown with ASCII around them. -/
theorem roleLine_isOk {role : Value} {title? : Option Value} :
    (writtenLine (role :: title?.toList)
      ("  " ++ role.plain ++ ((title?.map fun title => " (" ++ title.plain ++ ")").getD ""))).isOk ↔
      role.Printable ∧ ∀ title ∈ title?, title.Printable := by
  rw [writtenLine_isOk]
  cases title? with
  | none =>
    simp only [Option.map_none, Option.getD_none, String.append_empty, Option.toList_none,
      Text.isScalar_ascii_append (s := "  ") rfl, List.forall_mem_singleton, Value.Printable,
      Option.not_mem_none, false_implies, implies_true, and_true]
  | some title =>
    have text : "  " ++ role.plain ++ (" (" ++ title.plain ++ ")") =
        "  " ++ role.plain ++ " (" ++ title.plain ++ ")" := by
      simp only [String.append_assoc]
    simp only [Option.map_some, Option.getD_some, text, Option.toList_some,
      Text.isScalar_append_ascii (t := ")") rfl,
      Text.isScalar_append_ascii_append " (" rfl (by decide),
      Text.isScalar_ascii_append (s := "  ") rfl, List.forall_mem_cons, Value.Printable,
      Option.mem_some, forall_eq', Bool.and_eq_true]
    tauto

theorem grantLine_isOk {grant : GrantSummary} :
    (grantLine grant).isOk ↔ ∀ value ∈ grant.context :: grant.privileges, value.Printable := by
  have tail : Text.isAscii (if grant.conditions = 0 then "" else
      ", " ++ toString grant.conditions ++ " conditions") := by
    split
    · rfl
    · simp only [Text.isAscii_append, Text.isAscii_toString, Bool.and_true]
      rfl
  rw [grantLine, writtenLine_isOk, Text.isScalar_append_ascii tail,
    Text.isScalar_append_ascii_append ": " rfl (by decide),
    Text.isScalar_ascii_append (s := "    ") rfl,
    Text.isScalar_intercalate ", " rfl (by decide)]
  simp only [Value.Printable, List.forall_mem_cons, forall₂_and, Bool.and_eq_true, List.all_map,
    List.all_eq_true, Function.comp]
  tauto

theorem roleLines_isOk {titles : Table Value} {role : Value} {grants : List GrantSummary} :
    (∀ line ∈ roleLines titles role grants, line.isOk) ↔
      (role.Printable ∧ ∀ title ∈ shownTitle? titles role, title.Printable) ∧
        ∀ grant ∈ grants, ∀ value ∈ grant.context :: grant.privileges, value.Printable := by
  simp only [roleLines, List.forall_mem_cons, List.forall_mem_map, roleLine_isOk, grantLine_isOk]

/-- The lines of a report can be written if what it shows is legible. -/
theorem reportLines_isOk {t : Tables} {summary : Summary} (consistent : t.Consistent)
    (summarised : t.summary = .ok summary) {label : String} :
    (∀ line ∈ reportLines label t.roleTitles summary, line.isOk) ↔ Legible label t := by
  obtain ⟨names, each⟩ := consistent.entries_of_summary summarised
  have entries (Q : Value → Prop) :
      (∀ entry ∈ summary.grants.entries, Q entry.1) ↔ ∀ role ∈ t.roles, Q role := by
    rw [← names, Table.keys, List.forall_mem_map]
  have grants (P : GrantSummary → Prop) :
      (∀ entry ∈ summary.grants.entries, ∀ grant ∈ entry.2, P grant) ↔
        ∀ rule ∈ t.rules, ¬ rule.role.isNan → ∀ grant, rule.summary = .ok grant → P grant := by
    rw [← consistent.forall_granted, ← entries]
    exact forall₂_congr fun entry held => forall_of_reported (each entry held) P
  have lines : (∀ line ∈ reportLines label t.roleTitles summary, line.isOk) ↔
      Text.isScalar label ∧ ∀ entry ∈ summary.grants.entries,
        ∀ line ∈ roleLines t.roleTitles entry.1 entry.2, line.isOk := by
    rw [reportLines, List.forall_mem_cons, headLine_isOk, List.forall_mem_flatMap]
  simp only [lines, roleLines_isOk, forall₂_and, entries fun role => role.Printable,
    entries fun role => ∀ title ∈ shownTitle? t.roleTitles role, title.Printable,
    grants fun grant => ∀ value ∈ grant.context :: grant.privileges, value.Printable]
  constructor
  · rintro ⟨label, ⟨roles, titles⟩, grants⟩
    exact ⟨label, roles, titles, grants⟩
  · rintro ⟨label, roles, titles, grants⟩
    exact ⟨label, ⟨roles, titles⟩, grants⟩

/-- A line of a report fails for a number that is too long, or for a surrogate. -/
theorem fault_of_mem_reportLines {label : String} {titles : Table Value} {summary : Summary}
    {fault : RunFault} (held : .error fault ∈ reportLines label titles summary) :
    fault = .policy .longNumber ∨ ∃ encoding, fault = .file (.unencodable encoding) := by
  rw [reportLines, List.mem_cons, List.mem_flatMap] at held
  rcases held with first | ⟨entry, -, held⟩
  · exact writtenLine_eq_error first.symm
  · rcases List.mem_cons.mp held with first | held
    · exact writtenLine_eq_error first.symm
    · obtain ⟨grant, -, line⟩ := List.mem_map.mp held
      exact writtenLine_eq_error line

/-! ## Print -/

/-- Lines that can be written are printed, and then those after them. -/
theorem printed_append (lines : List String) (rest : List (Except RunFault String)) :
    printed (lines.map .ok ++ rest) =
      (lines.foldr (· ++ ·) "" ++ (printed rest).1, (printed rest).2) := by
  induction lines with
  | nil => exact Prod.ext String.empty_append.symm rfl
  | cons line lines ih =>
    simp only [List.map_cons, List.cons_append, printed, ih, List.foldr_cons, String.append_assoc]

theorem exists_map_ok {lines : List (Except RunFault String)} (written : ∀ line ∈ lines, line.isOk) :
    ∃ texts : List String, lines = texts.map .ok := by
  induction lines with
  | nil => exact ⟨[], rfl⟩
  | cons line rest ih =>
    obtain ⟨first, others⟩ := List.forall_mem_cons.mp written
    obtain ⟨texts, rfl⟩ := ih others
    cases line with
    | error => cases first
    | ok text => exact ⟨text :: texts, rfl⟩

theorem exists_first_error {lines : List (Except RunFault String)}
    (unwritten : ¬ ∀ line ∈ lines, line.isOk) :
    ∃ (texts : List String) (fault : RunFault) (rest : List (Except RunFault String)),
      lines = texts.map .ok ++ .error fault :: rest := by
  induction lines with
  | nil => exact absurd nofun unwritten
  | cons line rest ih =>
    cases line with
    | error fault => exact ⟨[], fault, rest, rfl⟩
    | ok text =>
      obtain ⟨texts, fault, after, rfl⟩ :=
        ih fun each => unwritten (List.forall_mem_cons.mpr ⟨rfl, each⟩)
      exact ⟨text :: texts, fault, after, rfl⟩

section Presentation

variable {t : Tables} {label : String} (consistent : t.Consistent)

theorem present_of_summarised {summary : Summary} (summarised : t.summary = .ok summary) :
    present label false t = printed (reportLines label t.roleTitles summary) := by
  simp only [present, summarised, Bool.false_eq_true, if_false]

include consistent

theorem exists_summary (reportable : t.Reportable) : ∃ summary, t.summary = .ok summary := by
  have made := consistent.summary_isOk.mpr reportable
  cases summarised : t.summary with
  | error => rw [summarised] at made; cases made
  | ok summary => exact ⟨summary, rfl⟩

/-- Tables that are reportable and legible are presented by all lines of their report. -/
theorem present_of_legible (reportable : t.Reportable) (legible : Legible label t) :
    ∃ (summary : Summary) (lines : List String), t.summary = .ok summary ∧
      reportLines label t.roleTitles summary = lines.map .ok ∧
      present label false t = (lines.foldr (· ++ ·) "", none) := by
  obtain ⟨summary, summarised⟩ := exists_summary consistent reportable
  obtain ⟨lines, all⟩ := exists_map_ok ((reportLines_isOk consistent summarised).mpr legible)
  refine ⟨summary, lines, summarised, all, ?_⟩
  have whole := printed_append lines []
  rw [List.append_nil] at whole
  rw [present_of_summarised summarised, all, whole]
  exact Prod.ext String.append_empty rfl

/-- Of those that are not legible the lines are presented before the first that cannot be printed. -/
theorem present_of_not_legible (reportable : t.Reportable) (illegible : ¬ Legible label t) :
    ∃ (summary : Summary) (lines : List String) (fault : RunFault)
      (rest : List (Except RunFault String)), t.summary = .ok summary ∧
      reportLines label t.roleTitles summary = lines.map .ok ++ .error fault :: rest ∧
      present label false t = (lines.foldr (· ++ ·) "", some fault) := by
  obtain ⟨summary, summarised⟩ := exists_summary consistent reportable
  obtain ⟨lines, fault, rest, all⟩ := exists_first_error fun written =>
    illegible ((reportLines_isOk consistent summarised).mp written)
  refine ⟨summary, lines, fault, rest, summarised, all, ?_⟩
  rw [present_of_summarised summarised, all, printed_append]
  exact Prod.ext String.append_empty rfl

/-- Of other tables there is no summary to present. -/
theorem present_of_not_reportable (unreportable : ¬ t.Reportable) :
    ∃ fault, present label false t = ("", some (.policy fault)) := by
  cases summarised : t.summary with
  | error fault => exact ⟨fault, by simp only [present, summarised]⟩
  | ok summary =>
    exact absurd (consistent.summary_isOk.mp (by rw [summarised]; rfl)) unreportable

end Presentation

end Command

namespace Document

open Course

variable {documents : Yaml.Documents} {label : Option String} {m n : Moment}

/-- The event for the stream can always be written. -/
theorem takesAll_course (ends : documents.fault? = none)
    (walked : (Program.course (documents.values.flatMap program)).Completes m n) {sink : Sink} :
    sink.TakesAll (course documents label m).journal.events ↔
      sink.TakesAll (Program.course (documents.values.flatMap program) m).journal.events := by
  have whole : (course documents label m).journal =
      (Program.course (documents.values.flatMap program) m).journal ++
        (readCourse label n).journal := by
    simp only [course, andThen, streamCourse_eq label ends walked, walked.result, walked.moment]
  have read : sink.TakesAll (readCourse label n).journal.events :=
    takesAll_emit n (Sink.obstacle?_sourceRead ..)
  rw [whole, Journal.events_append, Sink.takesAll_append]
  exact and_iff_left read

end Document

namespace Action

variable {source : Yaml.Source} {label : Option String} {s t : Session}

/-- A source that is read leads from where its serials have been used up, and logs what its course
does. -/
theorem completes_of_parse (intact : s.Intact) (read : (parse source label).run s = (.ok (), t)) :
    let documents := source.documents s.serial
    let start : Moment := ⟨s.reader, documents.serial, s.sink⟩
    (Document.course documents label).Completes start t.moment ∧
      t.log = s.log ++ (Document.course documents label start).journal.events := by
  intro documents start
  have ran : (readDocuments documents label).run { s with serial := documents.serial } =
    (.ok (), t) := read
  obtain ⟨result, advance⟩ := (readDocuments_follows documents label).yields _
    (intact.withSerial documents.serial)
  rw [ran] at result advance
  exact ⟨⟨result.symm, advance.moment.symm⟩, advance.log⟩

theorem parse_of_completes {n : Moment} (intact : s.Intact)
    (completes : (Document.course (source.documents s.serial) label).Completes
      ⟨s.reader, (source.documents s.serial).serial, s.sink⟩ n) :
    ∃ t, (parse source label).run s = (.ok (), t) ∧ t.moment = n := by
  have result := parse_result source label intact
  rw [← (Document.course_eq ..).1, completes.result] at result
  obtain ⟨t, read⟩ : ∃ t, (parse source label).run s = (.ok (), t) := ⟨_, Prod.ext result rfl⟩
  have ran := (completes_of_parse intact read).1
  exact ⟨t, read, ran.moment.symm.trans completes.moment⟩

theorem intact_of_parse (intact : s.Intact) (ran : ((parse source label).run s).2 = t) :
    t.Intact :=
  ran ▸ ((readDocuments_follows _ label).yields _ (intact.withSerial _)).advance.intact

/-- A source whose documents come to a fault is refused, with a code. -/
theorem parse_refuses (label : Option String) {fault : Fault} (intact : s.Intact)
    (walked : (Program.course ((source.documents s.serial).values.flatMap Document.program)
      ⟨s.reader, (source.documents s.serial).serial, s.sink⟩).result = .error fault) :
    ∃ told code t, (parse source label).run s = (.error told, t) ∧ told.code? = some code ∧
      t.Intact := by
  have refusal := (Document.documents_composed source s.serial).isRefusal walked
  have result := parse_result source label intact
  rcases Document.streamCourse_of_refusal label refusal walked with
    ⟨problem, -, told⟩ | ⟨-, told⟩ <;> rw [told] at result
  · exact ⟨_, _, _, Prod.ext result rfl, rfl, intact_of_parse intact rfl⟩
  · exact ⟨_, _, _, Prod.ext result rfl, rfl, intact_of_parse intact rfl⟩

end Action

/-- The tables of an accepted policy are what its documents come to, told from a moment at which
nothing has been read; the log has what they log, as far as a sink may not take it. -/
theorem compile_completes {source : Yaml.Source} {label : Option String} {tables : Tables}
    {log : List LogEvent} (accepted : compile source label = (.ok tables, log)) :
    let documents := source.documents 0
    let walk := Program.course (documents.values.flatMap Document.program)
    let start : Moment := ⟨{}, documents.serial, .memory⟩
    documents.fault? = none ∧ ∃ n, walk.Completes start n ∧ n.reader.tables.sealed = tables ∧
      n.reader.tables.Consistent ∧
      ∀ sink : Sink, sink.TakesAll log ↔ sink.TakesAll (walk start).journal.events := by
  rcases ran : (Action.parse source label).run {} with ⟨fault | _, t⟩
  · simp [compile, ran, Except.map] at accepted
  · simp only [compile, ran, Except.map, Prod.mk.injEq, Except.ok.injEq] at accepted
    obtain ⟨rfl, rfl⟩ := accepted
    obtain ⟨completes, logged⟩ := Action.completes_of_parse Session.fresh_default.intact ran
    obtain ⟨ends, walked⟩ := Document.completes_course.mp completes
    have reached : t.Reached := by
      have act : ((Act.turn (.parse source label)).action.run {}).2.Reached :=
        ⟨{}, .fresh Session.fresh_default, .turn (.parse source label), _,
          Act.leads_run _ Session.fresh_default.intact⟩
      rwa [show (Act.turn (.parse source label)).action.run {} = _ from ran] at act
    refine ⟨ends, _, walked, rfl, reached.tables_consistent, fun sink => ?_⟩
    rw [logged]
    exact Document.takesAll_course ends walked

namespace Command

open Course

theorem refuse_ending (label : String) {s : Session} (intact : s.Intact) (fault : Fault)
    (code : String) : (refuse label false s fault code).ending = .ok 1 := by
  have takes : s.sink.obstacle? (.policyRejected label code) = none := by
    cases s.sink <;> rfl
  have result := ((Action.follows_emit (.policyRejected label code)).yields s intact).result
  rw [(completes_emit (m := s.moment) fun _ => takes).result] at result
  unfold refuse
  rcases ran : (Action.emit (.policyRejected label code)).run s with ⟨_ | _, t⟩
  · rw [ran] at result
    cases result
  · rfl

/-- What reading the content of a file comes to where its text is accepted. -/
theorem readPolicy_of_accepted {text : String} {label : Option String} {tables : Tables}
    {log : List LogEvent} (accepted : compile (.text text) label = (.ok tables, log))
    {content : List UInt8} (encoded : File.textOf content = .ok text) (file : String) (rank : Nat) :
    (¬ (Sink.text rank).TakesAll log → (readPolicy file false rank content).ending = .ok 1) ∧
    ((Sink.text rank).TakesAll log → ∃ log, readPolicy file false rank content =
      ⟨match (present file false tables).2 with
        | none => .ok 0
        | some fault => .error fault, (present file false tables).1, "", log⟩) := by
  obtain ⟨ends, n, walked, rfl, -, takes⟩ := compile_completes accepted
  have composed := Document.documents_composed (.text text) 0
  have intact : Session.Intact { sink := .text rank } := ⟨rfl, rfl⟩
  have parses : Action.parseFile content file = Action.parse (.text text) (some file) := by
    simp only [Action.parseFile, encoded]
  unfold readPolicy
  rw [parses, takes]
  constructor
  · intro refused
    -- Walked for this sink, the documents come to a refusal.
    cases heard : (Program.course (((Yaml.Source.text text).documents 0).values.flatMap
        Document.program) (Moment.heardBy ⟨{}, _, .memory⟩ (.text rank))).result with
    | ok => exact absurd (composed.takesAll rfl ⟨heard, rfl⟩) refused
    | error fault =>
      obtain ⟨told, code, t, read, coded, intact⟩ := Action.parse_refuses (some file) intact heard
      simp only [read, coded]
      exact refuse_ending file intact told code
  · intro taken
    obtain ⟨heard, moment⟩ := composed.heardBy rfl taken
    rw [walked.result] at heard
    rw [walked.moment] at moment
    have completes :=
      (@Document.completes_course _ _ _ (some file)).mpr ⟨ends, heard, moment⟩
    obtain ⟨t, read, came⟩ := Action.parse_of_completes intact completes
    have tables : t.reader.tables = n.reader.tables := congrArg (·.reader.tables) came
    simp only [read, tables]
    exact ⟨_, rfl⟩

/-- A run that reports in print on a file with the given text. -/
structure Printing (environment : List (String × String)) (directory : File.Directory)
    (arguments : List String) (text : String) where
  settings : EnvFile
  configured : EnvFile.find environment directory = .ok settings
  given : Arguments
  asked : readArguments arguments = .ok (.run given)
  plain : given.json = false
  rank : Nat
  level : threshold (given.logLevel.getD (Settings.read environment settings).logLevel) = .ok rank
  file : String
  named : (given.file <|>
    (Settings.read environment settings).policyFile.filter (!·.isEmpty)) = some file
  content : List UInt8
  readable : directory.read (File.Path.parse file) = .ok content
  encoded : File.textOf content = .ok text

namespace Printing

variable {environment : List (String × String)} {directory : File.Directory}
  {arguments : List String} {text : String}
  (printing : Printing environment directory arguments text)

def label : String := (File.Path.parse printing.file).text

theorem run_eq : run environment directory arguments =
    let result := readPolicy printing.label false printing.rank printing.content
    { result with errors := printing.settings.warnings ++ result.errors } := by
  simp only [run, Plan.make, printing.configured, Plan.ofSettings, printing.asked, Plan.forFile,
    printing.level, printing.named, Plan.preceded, Plan.afterReading, printing.readable,
    printing.plain, label]

end Printing

/-- An accepted policy is summarised if its roles can be keys and its contexts be listed. It is
reported, and the run ends well, if besides all that is shown can be printed and all that is logged
from the asked rank on can be written. A policy that cannot be logged is refused. Otherwise the run
ends with a fault that nothing catches: that of the summary, or that of the first line that holds
a number that is too long or a surrogate, after the lines before it. -/
theorem compile_reported {text : String} {label : Option String} {tables : Tables}
    {log : List LogEvent} (accepted : compile (.text text) label = (.ok tables, log)) :
    (tables.summary.isOk ↔ tables.Reportable) ∧
    ∀ (environment : List (String × String)) (directory : File.Directory) (arguments : List String)
      (printing : Printing environment directory arguments text),
      let logged := (Sink.text printing.rank).TakesAll log
      let result := run environment directory arguments
      (logged → tables.Reportable → Legible printing.label tables →
        ∃ (summary : Summary) (lines : List String), tables.summary = .ok summary ∧
        reportLines printing.label tables.roleTitles summary = lines.map .ok ∧
        result.ending = .ok 0 ∧ result.output = lines.foldr (· ++ ·) "" ∧
        result.errors = printing.settings.warnings) ∧
      (logged → tables.Reportable → ¬ Legible printing.label tables →
        ∃ (summary : Summary) (lines : List String) (fault : RunFault)
          (rest : List (Except RunFault String)), tables.summary = .ok summary ∧
        reportLines printing.label tables.roleTitles summary =
          lines.map .ok ++ .error fault :: rest ∧
        (fault = .policy .longNumber ∨ ∃ encoding, fault = .file (.unencodable encoding)) ∧
        result.ending = .error fault ∧ result.output = lines.foldr (· ++ ·) "") ∧
      (logged → ¬ tables.Reportable →
        ∃ fault, result.ending = .error (.policy fault) ∧ result.output = "") ∧
      (¬ logged → result.ending = .ok 1) := by
  have consistent : tables.Consistent := by
    obtain ⟨-, n, -, rfl, consistent, -⟩ := compile_completes accepted
    exact consistent.sealed
  refine ⟨consistent.summary_isOk, fun environment directory arguments printing => ?_⟩
  obtain ⟨refused, presented⟩ := readPolicy_of_accepted accepted printing.encoded printing.label
    printing.rank
  simp only [printing.run_eq]
  refine ⟨fun logged reportable legible => ?_, fun logged reportable illegible => ?_,
    fun logged unreportable => ?_, refused⟩ <;> obtain ⟨log, came⟩ := presented logged
  · obtain ⟨summary, lines, summarised, all, present⟩ :=
      present_of_legible consistent reportable legible
    rw [came, present]
    exact ⟨summary, lines, summarised, all, rfl, rfl, String.append_empty⟩
  · obtain ⟨summary, lines, fault, rest, summarised, all, present⟩ :=
      present_of_not_legible consistent reportable illegible
    rw [came, present]
    have held : .error fault ∈ reportLines printing.label tables.roleTitles summary := by
      rw [all]
      exact List.mem_append_right _ List.mem_cons_self
    exact ⟨summary, lines, fault, rest, summarised, all, fault_of_mem_reportLines held, rfl, rfl⟩
  · obtain ⟨fault, present⟩ := present_of_not_reportable consistent unreportable
    rw [came, present]
    exact ⟨fault, rfl, rfl⟩

def numberedPolicy : String :=
  "authorization:\n- role: keeper\n  body:\n  - has_permission_on: 5\n    to: read\n"

def policyDirectory (text : String) : File.Directory := ⟨[(["policy.yml"], text.toUTF8.toList)]⟩

def numberedPrinting :
    Printing [] (policyDirectory numberedPolicy) ["policy.yml"] numberedPolicy where
  settings := {}
  configured := by decide +kernel
  given := { file := some "policy.yml" }
  asked := by decide +kernel
  plain := rfl
  rank := Level.info.rank
  level := by with_unfolding_all rfl
  file := "policy.yml"
  named := by decide +kernel
  content := numberedPolicy.toUTF8.toList
  readable := by decide +kernel
  encoded := by decide +kernel

/-- It is accepted, and there is no summary of it. -/
theorem numberedPolicy_unsummarised :
    ∃ tables log, compile (.text numberedPolicy) none = (.ok tables, log) ∧
      ¬ tables.summary.isOk := by
  rcases ran : compile (.text numberedPolicy) none with ⟨fault | tables, log⟩
  · have ok : (compile (.text numberedPolicy) none).1.isOk := by decide +kernel
    rw [ran] at ok
    cases ok
  · have fails : (compile (.text numberedPolicy) none).1.toOption.any (·.summary.isOk) = false := by
      decide +kernel
    rw [ran] at fails
    exact ⟨tables, log, rfl, by simpa [Except.toOption] using fails⟩

/-- The run that is to report on it ends with a fault. -/
theorem compile_reported_numbered :
    ∃ tables log, compile (.text numberedPolicy) none = (.ok tables, log) ∧
      ¬ tables.summary.isOk ∧
      ∃ fault, (run [] (policyDirectory numberedPolicy) ["policy.yml"]).ending =
        .error (.policy fault) := by
  obtain ⟨tables, log, accepted, unsummarised⟩ := numberedPolicy_unsummarised
  obtain ⟨summarised, reported⟩ := compile_reported accepted
  have quiet : (Sink.text numberedPrinting.rank).Takes := Sink.text_takes (by decide)
  obtain ⟨-, -, fails, -⟩ := reported _ _ _ numberedPrinting
  obtain ⟨fault, ending, -⟩ :=
    fails (fun event _ => quiet event) fun reportable => unsummarised (summarised.mpr reportable)
  exact ⟨tables, log, accepted, unsummarised, fault, ending⟩

example : (run [] (policyDirectory "authorization:\n- role: \"\\ud800\"\n") ["policy.yml"]).ending
    matches .error (.file (.unencodable ⟨2, 1, 0xd800⟩)) := by
  decide +kernel

/-- Not all that is accepted can be reported. -/
theorem compile_unreported :
    ¬ ∀ (text : String) (label : Option String) (tables : Tables) (log : List LogEvent),
      compile (.text text) label = (.ok tables, log) → tables.summary.isOk ∧
        ∀ (environment : List (String × String)) (directory : File.Directory)
          (arguments : List String), Printing environment directory arguments text →
          (run environment directory arguments).ending = .ok 0 := by
  intro every
  obtain ⟨tables, log, accepted, unsummarised⟩ := numberedPolicy_unsummarised
  exact unsummarised (every _ _ _ _ accepted).1

end Command

end AccessPolicy
