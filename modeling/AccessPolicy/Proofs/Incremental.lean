import AccessPolicy.Proofs.Lexical
import AccessPolicy.Proofs.Shift

/-! Reading on top of what has been read. A stream that is accepted leaves no block open, and no
operation asks what is in the tables, so that the next stream comes to what it comes to on its own,
and its tables are merged into the earlier ones. -/

namespace AccessPolicy

open Course

namespace Document

variable {documents : Yaml.Documents} {label : Option String}

theorem blameCourse_moves {count : Nat} (fault : Fault) :
    Moves count (blameCourse label fault) (blameCourse label fault) := by
  unfold blameCourse
  split
  · exact (Moves.emit _).andThen (.refuse _)
  · exact .refuse _

theorem streamCourse_moves {count : Nat} :
    Moves count (streamCourse documents label) (streamCourse documents label) :=
  (Program.course_moves _ (streamProgram_isOperational documents)).recover blameCourse_moves

end Document

/-- An accepted stream leaves no block open. -/
theorem frame_of_accepted {documents : Yaml.Documents} {label : Option String} {s t s' : Session}
    (fresh : s.Fresh) (fresh' : s'.Fresh) (sinks : s'.sink = s.sink)
    (accepted : (Action.readDocuments documents label).run s = (.ok (), t)) :
    t.moment.frame = s'.moment.frame.moved t.reader.tables.rules.length := by
  have follows := Action.readDocuments_follows documents label
  have completes := follows.completes fresh.intact accepted
  have covers := ((Lexical.documents_denote documents label).reaches none _ _ fresh.covers
    completes).covers
  have privilege : t.reader.privilege = none := Option.eq_none_iff_forall_ne_some.mpr
    fun name isOpen => nomatch covers.privilege name isOpen
  have role : t.reader.role = none := Option.eq_none_iff_forall_ne_some.mpr
    fun name isOpen => nomatch covers.role name isOpen
  have rule : t.reader.rule = none := Option.eq_none_iff_forall_ne_some.mpr
    fun name isOpen => nomatch covers.rule name isOpen
  have sink : t.sink = s.sink := by
    have kept := follows.sink fresh.intact
    rwa [accepted] at kept
  simp [Moment.frame, Session.moment, Frame.moved, privilege, role, rule, fresh'.reader, sink, sinks]

/-- Reading a stream on top of an accepted one has the outcome that it has on its own, and the
tables afterwards are those of the one merged with those of the other. Bare values in conditions
are compared by what they are. -/
theorem readDocuments_merge (a b : Yaml.Documents) (aLabel bLabel : Option String)
    {s t s' : Session} (fresh : s.Fresh) (fresh' : s'.Fresh) (sinks : s'.sink = s.sink)
    (accepted : (Action.readDocuments a aLabel).run s = (.ok (), t)) :
    let upon := (Action.readDocuments b bLabel).run t
    let own := (Action.readDocuments b bLabel).run s'
    upon.1 = own.1 ∧
      upon.2.reader.tables.unnumbered = (t.reader.tables.merge own.2.reader.tables).unnumbered := by
  have frame := frame_of_accepted fresh fresh' sinks accepted
  obtain ⟨-, read⟩ := (Action.readDocuments_follows a aLabel).yields s fresh.intact
  rw [accepted] at read
  have distinct : t.reader.tables.Distinct := by
    rw [read.tables, fresh.reader]
    exact Journal.tables_distinct Tables.distinct_default _
  obtain ⟨uponResult, uponTables⟩ := readDocuments_run read.intact b bLabel
  obtain ⟨ownResult, ownTables⟩ := readDocuments_run fresh'.intact b bLabel
  obtain ⟨result, journal⟩ := Document.streamCourse_moves.moves s'.moment t.moment frame
  intro upon own
  refine ⟨by rw [uponResult, ownResult, result], ?_⟩
  rw [uponTables, ownTables, fresh'.reader, ← Journal.tables_moved distinct Tables.distinct_default,
    Tables.merge_default, Journal.tables_unnumbered, Journal.tables_unnumbered, journal]

def failingPolicy : Yaml.Documents where
  values := [.map [(.text "authorization", .list [
    .map [(.text "role", .text "admin"), (.text "description", .text "all staff"),
      (.text "body", .list [
        .map [(.text "has_permission_on", .text "offices"), (.text "body", .list [
          .map [(.text "to", .text "read")],
          .map [(.text "if_attribute", .map [(.text "floor", .int 2)])]])]])],
    .map [(.text "includes", .text "guest")]])]]
  fault? := none
  serial := 0

/-- A second stream that fails is merged as far as it was read. -/
theorem readDocuments_merge_failing :
    ∃ t : Session, (Action.readDocuments nestedPolicy none).run {} = (.ok (), t) ∧
      ((Action.readDocuments failingPolicy none).run t).1 =
        ((Action.readDocuments failingPolicy none).run {}).1 ∧
      ((Action.readDocuments failingPolicy none).run t).2.reader.tables.unnumbered =
        (t.reader.tables.merge
          ((Action.readDocuments failingPolicy none).run {}).2.reader.tables).unnumbered ∧
      ¬ ((Action.readDocuments failingPolicy none).run {}).1.isOk := by
  have accepted := Action.run_eq_of_isOk
    (show ((Action.readDocuments nestedPolicy none).run {}).1.isOk by decide +kernel)
  have merged := readDocuments_merge nestedPolicy failingPolicy none none Session.fresh_default
    Session.fresh_default rfl accepted
  exact ⟨_, accepted, merged.1, merged.2, by decide +kernel⟩

end AccessPolicy
