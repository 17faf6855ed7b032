import AccessPolicy.Proofs.Declaration
import AccessPolicy.Proofs.Demands
import AccessPolicy.Proofs.Lexical
import AccessPolicy.Proofs.Widening

/-! Declarations in parts. A body that leaves out its last statements can be followed by a second
declaration of the same name with these in its body: the name stays registered as it is, and the
statements are run with the same block open. -/

namespace AccessPolicy

open Course

namespace Course

variable {m n : Moment} {event : LogEvent} {c : Course}

/-- What can be written is told by where it goes. -/
theorem Completes.emit_congr (logged : (emit event).Completes m m) (sink : n.sink = m.sink) :
    (emit event).Completes n n := by
  refine ⟨?_, moment_after_emit event n⟩
  rw [← logged.result]
  simp only [emit, sink]
  split
  · split <;> rfl
  · rfl

theorem Completes.sink (completes : c.Completes m n) : n.sink = m.sink := by
  rw [← completes.moment, Moment.sink_after]

end Course

variable {m n : Moment} {first second : Course}

namespace Role

/-- A role that is known is registered again without a change. -/
theorem completes_registerCourse_of_known {role : Value}
    (known : role.within m.reader.tables.roles) :
    (registerCourse role .null .null).Completes m m := by
  have again : (Update.role role).moment m = m := by
    simp only [Update.moment, Update.reader, Update.tables, Value.register_of_within known]
  have registered := completes_registerCourse role m
  rwa [again] at registered

/-- Once it has been left and is entered again, a role is open where it was, and perhaps in other
places. -/
theorem narrower_reentered {role : Value}
    (blocks : n.reader.Narrower ((Update.enterRole role).moment m).reader) :
    n.Narrower ((Update.enterRole role).moment (Update.leaveRole.moment n)) where
  blocks := ⟨fun _ isOpen => ⟨isOpen, rfl⟩, blocks.role⟩
  rule _ isOpen := isOpen
  tables := rfl
  serial := rfl
  sink := rfl

/-- What the body of a role does in one declaration, it does in two. -/
theorem completes_split {role title description : Value} (traced : first.Traced Program.anyName)
    (widens : Widens second)
    (completes : (course role title description (some (first.andThen second))).Completes m n) :
    ∃ l, ((course role title description (some first)).andThen
        (course role .null .null (some second))).Completes m l ∧
      l.reader.tables = n.reader.tables := by
  obtain ⟨start, registered, declared⟩ := completes_andThen.mp completes
  obtain ⟨logged, _, body, rfl⟩ := completes_blockCourse.mp declared
  obtain ⟨between, before, after⟩ := completes_andThen.mp body
  have known : role.within start.reader.tables.roles :=
    registered.moment ▸ within_registerCourse role title description m
  have stays : role.within between.reader.tables.roles :=
    before.moment ▸ within_after (m := (Update.enterRole role).moment start) known _
  -- A role nested in the first part has closed this one; undivided, the rest runs outside of it.
  let left := Update.leaveRole.moment between
  obtain ⟨l, after', narrower⟩ := widens.completes _ ((Update.enterRole role).moment left) _
    (narrower_reentered (before.narrower traced)) after
  have logged' := logged.emit_congr (n := (Update.enterRole role).moment left) before.sink
  refine ⟨Update.leaveRole.moment l, completes_andThen.mpr ⟨left, ?_, ?_⟩, narrower.tables⟩
  · exact completes_andThen.mpr ⟨start, registered,
      completes_blockCourse.mpr ⟨logged, between, before, rfl⟩⟩
  · exact completes_andThen.mpr ⟨left, completes_registerCourse_of_known stays,
      completes_blockCourse.mpr ⟨logged', l, after', rfl⟩⟩

end Role

namespace Privilege

theorem within_begun (name context : Value) (m : Moment) (journal : Journal) :
    name.within ((begun name context m).after journal).reader.tables.privileges := by
  rw [Moment.tables_after]
  exact Value.within_of_prefix (Journal.tables_grow journal _).privileges
    (Value.within_register m.reader.tables.privileges name)

/-- Once it has been left and is declared again, a privilege is open where it was, and perhaps in
other places. -/
theorem narrower_begun {name context : Value} (known : name.within n.reader.tables.privileges)
    (blocks : n.reader.Narrower (begun name context m).reader) :
    n.Narrower (begun name context (Update.leavePrivilege.moment n)) where
  blocks := ⟨blocks.privilege, fun _ isOpen => isOpen⟩
  rule _ isOpen := isOpen
  tables := congrArg (fun names => { n.reader.tables with privileges := names })
    (Value.register_of_within known)
  serial := rfl
  sink := rfl

/-- What the body of a privilege does in one declaration, it does in two, the names that are
included being given with the second. -/
theorem completes_split {name context included : Value} (notMap : ¬ context.isMap)
    (traced : first.Traced Program.anyName) (widens : Widens second)
    (completes : (course name context .null [("includes", included)]
      (some (first.andThen second))).Completes m n) :
    ∃ l, ((course name context .null [] (some first)).andThen
        (course name context .null [("includes", included)] (some second))).Completes m l ∧
      l.reader.tables = n.reader.tables := by
  have noOptions : includeGivenCourse (mergedOptions .empty []) = done := rfl
  have known : (unknownOptions (mergedOptions .empty [("includes", included)])).isEmpty :=
    (unknownOptions_isEmpty_iff (by simp)).mpr (by simp)
  rw [course_of_known notMap known] at completes
  rw [course_of_known notMap rfl, course_of_known notMap known]
  obtain ⟨logged, _, body, rfl⟩ := completes_blockCourse.mp completes
  rw [Option.getD_some, andThen_assoc] at body
  obtain ⟨between, before, after⟩ := completes_andThen.mp body
  have stays : name.within between.reader.tables.privileges :=
    before.moment ▸ within_begun name context m _
  let left := Update.leavePrivilege.moment between
  obtain ⟨l, after', narrower⟩ := (widens.andThen (includeGivenCourse_widens _)).completes _
    (begun name context left) _ (narrower_begun stays (before.narrower traced)) after
  have logged' := logged.emit_congr (n := begun name context left) before.sink
  refine ⟨Update.leavePrivilege.moment l, completes_andThen.mpr ⟨left, ?_, ?_⟩, narrower.tables⟩
  · refine completes_blockCourse.mpr ⟨logged, between, ?_, rfl⟩
    rw [noOptions, andThen_done]
    exact before
  · exact completes_blockCourse.mpr ⟨logged', l, after', rfl⟩

end Privilege

namespace Statement

open Program

variable {block : Block} {s t : Session}

theorem completes_of_run (intact : s.Intact) {statements : List Value}
    (ran : (run (program block (.list statements))).run s = (.ok (), t)) :
    (Program.course (program block (.list statements))).Completes s.moment t.moment :=
  (run_follows _ (program_isOperational block _)).completes intact ran

/-- Where one statement may be replaced by two, running these leads to the same tables. -/
theorem run_split (intact : s.Intact) {whole one two : Value}
    (split : ∀ m n, (stepCourse (stepOf block whole)).Completes m n →
      ∃ l, ((stepCourse (stepOf block one)).andThen (stepCourse (stepOf block two))).Completes m l ∧
        l.reader.tables = n.reader.tables)
    (ran : (run (program block (.list [whole]))).run s = (.ok (), t)) :
    ∃ t', (run (program block (.list [one, two]))).run s = (.ok (), t') ∧
      t'.reader.tables = t.reader.tables := by
  have completes := completes_of_run intact ran
  rw [course_list_singleton] at completes
  obtain ⟨l, parts, tables⟩ := split _ _ completes
  rw [← course_list_singleton block two, ← course_list_cons] at parts
  obtain ⟨t', ran', moment⟩ :=
    (run_follows _ (program_isOperational block _)).run_of_completes intact parts
  refine ⟨t', ran', ?_⟩
  rw [← moment] at tables
  exact tables

theorem role_split {role : Value} {options : List (Value × Value)} {before after : List Value}
    (completes : (stepCourse (stepOf .authorization
      (withBody "role" role options (before ++ after)))).Completes m n) :
    ∃ l, ((stepCourse (stepOf .authorization (withBody "role" role options before))).andThen
        (stepCourse (stepOf .authorization (withBody "role" role [] after)))).Completes m l ∧
      l.reader.tables = n.reader.tables := by
  obtain ⟨named, keyed, fits⟩ := fits_of_role_completes completes
  have none : textKeyed? [] = some [] := rfl
  have alone : roleSignature.Fits ["role"] [] ["body"] := by
    constructor <;> simp [roleSignature, Signature.parameters]
  rw [course_role_withBody keyed role fits, course_list_append] at completes
  rw [course_role_withBody keyed role fits, course_role_withBody none role alone]
  exact Role.completes_split (course_traced _) (program_widens ..) completes

theorem privilege_split {name context included : Value} (notMap : ¬ context.isMap)
    {before after : List Value}
    (completes : (stepCourse (stepOf .privileges (withBody "privilege" name
      [(.text "context", context), (.text "includes", included)]
      (before ++ after)))).Completes m n) :
    ∃ l, ((stepCourse (stepOf .privileges
          (withBody "privilege" name [(.text "context", context)] before))).andThen
        (stepCourse (stepOf .privileges (withBody "privilege" name
          [(.text "context", context), (.text "includes", included)] after)))).Completes m l ∧
      l.reader.tables = n.reader.tables := by
  have keyed : textKeyed? [(.text "context", context)] = some [("context", context)] := rfl
  have keyed' : textKeyed? [(.text "context", context), (.text "includes", included)] =
      some [("context", context), ("includes", included)] := rfl
  have fits : privilegeSignature.Fits ["privilege"] [] ["context", "body"] := by
    constructor <;> simp [privilegeSignature, Signature.parameters]
  have fits' : privilegeSignature.Fits ["privilege"] [] ["context", "includes", "body"] := by
    constructor <;> simp [privilegeSignature, Signature.parameters]
  have extra : extraOptions [("context", context), ("includes", included)] =
      [("includes", included)] := by simp [extraOptions, privilegeSignature, Signature.parameters]
  rw [course_privilege_withBody keyed' name fits', course_list_append, extra] at completes
  rw [course_privilege_withBody keyed name fits, course_privilege_withBody keyed' name fits', extra]
  simp only [option_cons, option_nil] at completes ⊢
  exact Privilege.completes_split notMap (course_traced _) (program_widens ..) completes

end Statement

open Statement

/-- A declaration that is accepted may be made in two parts. -/
theorem declarations_split {s : Session} (intact : s.Intact) (before after : List Value) :
    (∀ role options t,
      (Program.run (program .authorization
        (.list [withBody "role" role options (before ++ after)]))).run s = (.ok (), t) →
      ∃ t', (Program.run (program .authorization
          (.list [withBody "role" role options before, withBody "role" role [] after]))).run s =
            (.ok (), t') ∧
        t'.reader.tables = t.reader.tables) ∧
    (∀ name context included t, ¬ context.isMap →
      (Program.run (program .privileges (.list [withBody "privilege" name
        [(.text "context", context), (.text "includes", included)] (before ++ after)]))).run s =
          (.ok (), t) →
      ∃ t', (Program.run (program .privileges
          (.list [withBody "privilege" name [(.text "context", context)] before,
            withBody "privilege" name
              [(.text "context", context), (.text "includes", included)] after]))).run s =
            (.ok (), t') ∧
        t'.reader.tables = t.reader.tables) :=
  ⟨fun _ _ _ ran => run_split intact (fun _ _ => role_split) ran,
    fun _ _ _ _ notMap ran => run_split intact (fun _ _ => privilege_split notMap) ran⟩

/-- The role "user" within a body ends the role around it, so that what follows is declared outside
of it; the second part of the body is declared within it again. -/
theorem declarations_split_nested :
    let guest : Value := .map [(.text "includes", .text "guest")]
    let user : Value := withBody "role" (.text "user") [] [.map [(.text "title", .text "Users")]]
    let auditor : Value := withBody "role" (.text "auditor") [] [guest]
    let options := [(Value.text "description", Value.text "all staff")]
    (∃ t t', (Program.run (program .authorization (.list
          [withBody "role" (.text "admin") options ([guest, user] ++ [auditor])]))).run {} =
        (.ok (), t) ∧
      (Program.run (program .authorization (.list
          [withBody "role" (.text "admin") options [guest, user],
            withBody "role" (.text "admin") [] [auditor]]))).run {} = (.ok (), t') ∧
      t'.reader.tables = t.reader.tables ∧ t.reader.tables.roles.length = 3) ∧
    ∃ t t', (Program.run (program .privileges (.list
          [withBody "privilege" (.text "manage")
            [(.text "context", .text "offices"), (.text "includes", .text "open")]
            ([guest] ++ [guest])]))).run {} = (.ok (), t) ∧
      (Program.run (program .privileges (.list
          [withBody "privilege" (.text "manage") [(.text "context", .text "offices")] [guest],
            withBody "privilege" (.text "manage")
              [(.text "context", .text "offices"), (.text "includes", .text "open")]
              [guest]]))).run {} = (.ok (), t') ∧
      t'.reader.tables = t.reader.tables ∧ t.reader.tables.privileges.length = 3 := by
  intro guest user auditor options
  have roles := Action.run_eq_of_isOk (show ((Program.run (program .authorization (.list
    [withBody "role" (.text "admin") options ([guest, user] ++ [auditor])]))).run {}).1.isOk by
      decide +kernel)
  have privileges := Action.run_eq_of_isOk (show ((Program.run (program .privileges (.list
    [withBody "privilege" (.text "manage")
      [(.text "context", .text "offices"), (.text "includes", .text "open")]
      ([guest] ++ [guest])]))).run {}).1.isOk by decide +kernel)
  obtain ⟨t, ran, tables⟩ :=
    (declarations_split Session.fresh_default.intact [guest, user] [auditor]).1 _ _ _ roles
  obtain ⟨t', ran', tables'⟩ :=
    (declarations_split Session.fresh_default.intact [guest] [guest]).2 _ _ _ _ (by decide)
      privileges
  exact ⟨⟨_, t, roles, ran, tables, by decide +kernel⟩,
    _, t', privileges, ran', tables', by decide +kernel⟩

end AccessPolicy
