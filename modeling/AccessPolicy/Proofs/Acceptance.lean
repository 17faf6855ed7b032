import AccessPolicy.Proofs.Demands

/-! A fresh reader accepts the documents of the grammar, and refuses any other for its first flaw:
what the statements of the text demand, one kind of statement after the other. -/

namespace AccessPolicy

open Course

variable {blocks : Blocks} {flaws : List Flaw}

namespace Grammar

open Statement Program

/-- Options are as they should be if they fit a call that takes no others. -/
theorem hasOptions_iff {first : String} {optional : List String} {options : List (Value × Value)}
    (other : first ∉ optional) (plain : "self" ∉ optional) :
    hasOptions optional options ↔ Fits ⟨[first], optional, false, false⟩ first options := by
  unfold hasOptions Fits
  cases textKeyed? options with
  | none => simp
  | some named =>
    simp only [Bool.and_eq_true, decide_eq_true_eq, List.all_eq_true, List.contains_iff_mem,
      Option.some.injEq, exists_eq_left']
    constructor
    · rintro ⟨once, allowed⟩
      refine ⟨fun held => plain (allowed _ held), once, fun name held _ isFirst => ?_,
        fun name held strange => ?_⟩
      · rw [List.mem_singleton.mp isFirst] at held
        exact other (allowed _ held)
      · exact absurd (List.mem_append_right _ (allowed name held)) strange
    · intro fits
      refine ⟨fits.once, fun name held => ?_⟩
      by_cases parameter : name ∈ (Signature.mk [first] optional false false).parameters
      · rcases List.mem_append.mp parameter with isFirst | among
        · exact absurd isFirst (fits.parameter name held parameter)
        · exact among
      · exact absurd (fits.other name held parameter).1 (by simp)

section Bodies

variable {block : Block} {found : Value → List Flaw} {holds : Value → Bool}

theorem body_meets {body : Value} (plain : each holds body)
    (meets : ∀ s, holds s → Meets (stepCourse (stepOf block s)) blocks (found s)) :
    Meets (course (program block body)) blocks (bodyFlaws found body) := by
  unfold bodyFlaws
  cases form : statementsOf? body with
  | none =>
    rw [program_of_none form]
    exact .refused rfl
  | some statements =>
    rw [program_of_statements form]
    have within := of_each plain form
    clear form plain
    induction statements with
    | nil => exact .done
    | cons s rest ih =>
      exact (meets s (within s (by simp))).andThen (ih fun s held => within s (by simp [held]))

theorem optionBody_meets {options : List (Value × Value)}
    (plain : each holds (option "body" options))
    (meets : ∀ s, holds s → Meets (stepCourse (stepOf block s)) blocks (found s)) :
    Meets ((optionBody block options).getD done) blocks
      (bodyFlaws found (option "body" options)) := by
  unfold optionBody
  unfold option at plain ⊢
  cases given : option? "body" options with
  | none => exact .done
  | some body =>
    rw [given] at plain
    exact body_meets plain meets

end Bodies

variable {block : Block} {keyword : String} {argument : Value} {options : List (Value × Value)}

theorem unwanted_meets {shape : StatementShape} {flaws : List Flaw}
    (known : block.statements.lookup keyword = some shape) (plain : shape ≠ .block)
    (unwanted : ¬ options.isEmpty) :
    Meets (stepCourse (step block (.text keyword) argument (arguments block options))) blocks
      (.form :: flaws) := by
  obtain ⟨fault, same⟩ := step_unwanted known plain argument (mt List.isEmpty_iff.mpr unwanted)
  rw [same]
  exact .refuse (Flaw.form_tells rfl)

theorem unfit_meets {first : String} {optional : List String} {others : Bool}
    {make : Arguments → Step} {flaws : List Flaw}
    (operation : block.operation? keyword = some (⟨[first], optional, false, others⟩, make))
    (shape : block.statements.lookup keyword = some .block)
    (unfit : ¬ Fits ⟨[first], optional, false, others⟩ first options) :
    Meets (stepCourse (step block (.text keyword) argument (arguments block options))) blocks
      (.form :: flaws) := by
  obtain ⟨fault, same⟩ := stepCourse_of_not_fits operation shape unfit argument
  rw [same]
  exact .refuse (Flaw.form_tells rfl)

/-- A statement under none of the names of its block is refused. -/
theorem otherwise_meets {statement : Value}
    (other : ∀ name ∈ block.statements.map Prod.fst, without name statement) :
    Meets (stepCourse (stepOf block statement)) blocks [.form] := by
  cases form : partsOf? statement with
  | none =>
    rw [stepOf_of_none form]
    exact .refuse (Flaw.form_tells rfl)
  | some parts =>
    obtain ⟨key, argument, options⟩ := parts
    have unknown : keyword? block key = none := by
      cases known : keyword? block key with
      | none => rfl
      | some found =>
        obtain ⟨rfl, shaped⟩ := keyword?_eq_some known
        have member := List.mem_map_of_mem (f := Prod.fst) (Given.mem_of_lookup shaped)
        exact (without_iff.mp (other _ member) _ _ form).elim
    rw [stepOf_of_parts form, stepCourse_unknown unknown]
    exact .refuse (Flaw.form_tells rfl)

/-- The form of a statement of names is looked at before anything else. -/
theorem names_meets {make : Arguments → Step} {inScope : Bool}
    (operation : block.operation? keyword = some (⟨[], [], true, false⟩, make))
    (shape : block.statements.lookup keyword = some .names)
    (meets : Meets (stepCourse (make ⟨[], (names argument).map .value, []⟩)) blocks
      (demand inScope .scope)) :
    Meets (stepCourse (step block (.text keyword) argument (arguments block options))) blocks
      (namesFlaws inScope argument options) := by
  refine Meets.demand (fun bare => ?_) fun unwanted => ?_
  · rw [List.isEmpty_iff] at bare
    subst bare
    refine Meets.demand (fun proper => ?_) fun improper => ?_
    · rwa [arguments, stepCourse_names operation shape proper]
    · rw [arguments, stepCourse_notNames shape improper]
      exact .refuse (Flaw.form_tells rfl)
  · exact unwanted_meets shape (by simp) unwanted

theorem value_meets {flaws : List Flaw} (shape : block.statements.lookup keyword = some .value)
    (meets : Meets (stepCourse (step block (.text keyword) argument [])) blocks flaws) :
    Meets (stepCourse (step block (.text keyword) argument (arguments block options))) blocks
      (demand options.isEmpty .form ++ flaws) := by
  refine Meets.demand (fun bare => ?_) fun unwanted => ?_
  · rw [List.isEmpty_iff] at bare
    subst bare
    exact meets
  · exact unwanted_meets shape (by simp) unwanted

/-- A statement that opens no block, within what is open around it. -/
theorem inner_meets {statement : Value} (noRole : without "role" statement)
    (noGrant : without "has_permission_on" statement) :
    Meets (stepCourse (stepOf .authorization statement)) blocks
      (innerFlaws blocks.role.isSome blocks.grant statement) := by
  unfold innerFlaws
  split
  · rename_i form
    rw [stepOf_of_parts form]
    refine names_meets rfl rfl ?_
    rw [stepCourse, moreValues_names]
    exact Role.keyedCourse_meets fun _ => rfl
  · rename_i form
    rw [stepOf_of_parts form]
    exact value_meets rfl (Role.keyedCourse_meets fun _ => rfl)
  · rename_i form
    rw [stepOf_of_parts form]
    exact value_meets rfl (Role.keyedCourse_meets fun _ => rfl)
  · rename_i form
    rw [stepOf_of_parts form]
    refine names_meets rfl rfl ?_
    rw [stepCourse, moreValues_names]
    exact Grant.addPrivilegesCourse_meets _
  · rename_i form
    rw [stepOf_of_parts form, valueFlaws, List.append_assoc]
    exact value_meets rfl (Grant.restrictCourse_meets _)
  · rename_i noIncludes noTitle noDescription noTo noCondition
    exact otherwise_meets (by
      simpa [Block.statements, noRole, noGrant] using ⟨without_iff.mpr noIncludes,
        without_iff.mpr noTitle, without_iff.mpr noDescription, without_iff.mpr noTo,
        without_iff.mpr noCondition⟩)

theorem gives_iff (noTuple : ¬ isTuple (option "to" options)) :
    gives options ↔ ¬ ((option? "body" options).isNone &&
      (Grant.given (option "to" options)).isEmpty) := by
  unfold gives Grant.given
  cases option? "body" options with
  | some body => simp
  | none =>
    cases opened : (option "to" options).opened with
    | list names => cases names <;> simp
    | tuple names => exact absurd (by simp [isTuple, opened]) noTuple
    | _ => simp

/-- What a grant gives is asked for before its body is run. -/
theorem given_meets {name : String}
    (noTuple : ¬ isTuple (option "to" options))
    (within : each (fun s => without "role" s && without "has_permission_on" s)
      (option "body" options)) (role context : Value) :
    Meets (if (optionBody .authorization options).isNone &&
          (Grant.given (option "to" options)).isEmpty then
        refuse (.scope (.emptyGrant role context))
      else Grant.ruleCourse ⟨role, Grant.given (option "to" options), context, []⟩
        (optionBody .authorization options)) { role := some name }
      (demand (gives options) .scope ++
        bodyFlaws (innerFlaws true true) (option "body" options)) := by
  have given : gives options ↔ ¬ ((optionBody .authorization options).isNone &&
      (Grant.given (option "to" options)).isEmpty) := by
    rw [gives_iff noTuple, optionBody, Option.isNone_map]
  refine Meets.demand (fun gives => ?_) fun gives => ?_
  · rw [if_neg (given.mp gives)]
    have inner : Meets ((optionBody .authorization options).getD done)
        { role := some name, grant := true }
        (bodyFlaws (innerFlaws true true) (option "body" options)) :=
      optionBody_meets within fun s plain =>
        have plain := Bool.and_eq_true_iff.mp plain
        inner_meets plain.1 plain.2
    cases found : option? "body" options with
    | none =>
      have absent : option "body" options = .null := by rw [option, found]; rfl
      rw [absent, optionBody, found]
      exact Grant.ruleCourse_none_meets _
    | some body =>
      rw [optionBody, found] at inner ⊢
      exact Grant.ruleCourse_meets inner _
  · rw [if_pos (Decidable.not_not.mp (mt given.mpr gives))]
    exact .refuse (Flaw.scope_tells _)

/-- A grant asks for its form, for the role around it, and for what it gives, before its body. -/
theorem grant_meets {role : Option String} {statement : Value} (noRole : without "role" statement)
    (plain : role.isSome → plainGrant statement) :
    Meets (stepCourse (stepOf .authorization statement)) { role := role }
      (grantFlaws role.isSome statement) := by
  unfold grantFlaws
  split
  · rename_i options form
    rw [stepOf_of_parts form]
    refine Meets.demand (fun proper => ?_) fun improper => ?_
    · obtain ⟨named, keyed, fits⟩ : Fits grantSignature "context" options :=
        (hasOptions_iff (by simp) (by simp)).mp proper
      rw [stepCourse_grant keyed fits]
      refine Role.currentCourse_meets fun name around => ?_
      obtain rfl : role = some name := around
      obtain ⟨noTuple, within⟩ := Bool.and_eq_true_iff.mp (of_whenever (plain rfl) form)
      exact given_meets (by simpa using noTuple) within ..
    · have unfit : ¬ Fits grantSignature "context" options :=
        mt (hasOptions_iff (by simp) (by simp)).mpr improper
      exact unfit_meets rfl rfl unfit
  · rename_i noGrant
    exact inner_meets noRole (without_iff.mpr noGrant)

theorem role_meets {statement : Value} (plain : plainRole statement) :
    Meets (stepCourse (stepOf .authorization statement)) {} (roleFlaws statement) := by
  unfold roleFlaws
  split
  · rename_i argument options form
    rw [stepOf_of_parts form]
    obtain ⟨named, within⟩ := Bool.and_eq_true_iff.mp (of_whenever plain form)
    obtain ⟨name, rfl⟩ := isText_iff.mp named
    refine Meets.demand (fun proper => ?_) fun improper => ?_
    · obtain ⟨named, keyed, fits⟩ : Fits roleSignature "role" options :=
        (hasOptions_iff (by simp) (by simp)).mp proper
      rw [stepCourse_role keyed fits]
      refine Role.course_meets (optionBody_meets within fun s plain => ?_) ..
      obtain ⟨noRole, plain⟩ := Bool.and_eq_true_iff.mp plain
      exact grant_meets noRole fun _ => plain
    · have unfit : ¬ Fits roleSignature "role" options :=
        mt (hasOptions_iff (by simp) (by simp)).mpr improper
      exact unfit_meets rfl rfl unfit
  · rename_i noRole
    exact grant_meets (without_iff.mpr noRole) nofun

theorem includes_meets {statement : Value} (noPrivilege : without "privilege" statement) :
    Meets (stepCourse (stepOf .privileges statement)) blocks
      (includesFlaws blocks.privilege.isSome statement) := by
  unfold includesFlaws
  split
  · rename_i form
    rw [stepOf_of_parts form]
    refine names_meets rfl rfl ?_
    rw [stepCourse, moreValues_names]
    exact Privilege.includesCourse_meets _
  · rename_i noIncludes
    exact otherwise_meets (by simpa [Block.statements, noPrivilege] using without_iff.mpr noIncludes)

theorem privilege_meets {statement : Value} (plain : plainPrivilege statement) :
    Meets (stepCourse (stepOf .privileges statement)) {} (privilegeFlaws statement) := by
  unfold privilegeFlaws
  split
  · rename_i argument options form
    rw [stepOf_of_parts form]
    have holds := of_whenever plain form
    simp only [Bool.and_eq_true, Option.isNone_iff_eq_none, Bool.not_eq_true', isText_iff,
      and_assoc] at holds
    obtain ⟨⟨name, rfl⟩, noOptions, isMap, within⟩ := holds
    have notMap : ¬ (option "context" options).isMap := by simp [isMap]
    have noGiven : option "options" options = .null := by rw [option, noOptions]; rfl
    by_cases fits : Fits privilegeSignature "privilege" options
    · obtain ⟨named, keyed, fits⟩ := fits
      rw [stepCourse_privilege keyed fits, noGiven]
      refine Meets.demand (fun proper => ?_) fun improper => ?_
      · obtain ⟨named', keyed', -, known⟩ := (Privilege.hasOptions_iff noOptions).mp proper
        obtain rfl : named' = named := Option.some.inj (keyed'.symm.trans keyed)
        exact Privilege.course_meets notMap known (optionBody_meets within fun s => includes_meets)
      · exact Privilege.course_unknown notMap fun known =>
          improper ((Privilege.hasOptions_iff noOptions).mpr ⟨named, keyed, fits, known⟩)
    · have improper : ¬ hasOptions ["context", "includes", "body"] options := by
        intro proper
        obtain ⟨named, keyed, fits', -⟩ := (Privilege.hasOptions_iff noOptions).mp proper
        exact fits ⟨named, keyed, fits'⟩
      exact Meets.demand (fun proper => absurd proper improper) fun _ => unfit_meets rfl rfl fits
  · rename_i noPrivilege
    exact includes_meets (without_iff.mpr noPrivilege)

/-! ## Documents -/

theorem block_meets {name statements : Value} (plain : plainBlock name statements) :
    Meets (course (Document.blockProgram name statements)) {} (blockFlaws name statements) := by
  unfold Document.blockProgram
  split
  · exact body_meets plain fun s => privilege_meets
  · exact body_meets plain fun s => role_meets
  · exact .done
  · have unknown : blockFlaws name statements = [.form] := by
      unfold blockFlaws
      split <;> simp_all
    rw [unknown]
    exact .refused rfl

/-- A document is refused for its first flaw. -/
theorem document_meets {document : Value} (plain : isPlain document) :
    Meets (course (Document.program document)) {} (Grammar.flaws document) := by
  unfold Grammar.flaws
  cases form : Document.blocksOf? document with
  | none =>
    rw [Document.program_of_none form]
    exact .refused rfl
  | some blocks =>
    rw [Document.program_of_blocks form]
    rw [isPlain, form] at plain
    have each := List.all_eq_true.mp plain
    clear form plain
    dsimp only
    induction blocks with
    | nil => exact .done
    | cons b rest ih =>
      rw [List.flatMap_cons, List.flatMap_cons, course_append]
      exact (block_meets (each b (by simp))).andThen
        (ih fun b held => each b (by simp [held]))

end Grammar

/-- A fault of scope is told as it is, and one of form as that of an illegal source. -/
theorem Document.blameCourse_result (label : Option String) {m : Moment} (takes : m.sink.Takes)
    {fault : Fault} {flaw : Flaw} (tells : flaw.Tells fault) :
    (flaw = .scope ∧ ∃ problem, (blameCourse label fault m).result = .error (.scope problem)) ∨
      (flaw = .form ∧ ∃ cause, (blameCourse label fault m).result = .error (.illegal label cause)) := by
  cases flaw with
  | scope =>
    obtain ⟨problem, rfl⟩ := tells
    exact .inl ⟨rfl, problem, rfl⟩
  | form =>
    have illegal : fault.makesIllegal := tells
    refine .inr ⟨rfl, fault, ?_⟩
    simp only [blameCourse, illegal, if_true]
    exact result_andThen (completes_emit (takes _))

/-- What comes of a stream is told by the first flaw of its documents. -/
theorem Document.streamCourse_result {documents : Yaml.Documents} {flaws : List Flaw}
    (meets : Meets (Program.course (streamProgram documents)) {} flaws) (label : Option String)
    {m : Moment} (stand : Blocks.Stand {} m) :
    (flaws = [] ∧ (streamCourse documents label m).result = .ok ()) ∨
      (flaws.head? = some .scope ∧
        ∃ problem, (streamCourse documents label m).result = .error (.scope problem)) ∨
      (flaws.head? = some .form ∧
        ∃ cause, (streamCourse documents label m).result = .error (.illegal label cause)) := by
  cases flaws with
  | nil =>
    obtain ⟨n, completes, -⟩ := meets.completes rfl m stand
    exact .inl ⟨rfl, by simp only [streamCourse, recover, completes.result]⟩
  | cons flaw rest =>
    obtain ⟨fault, failed, tells⟩ := meets.fails flaw rest rfl m stand
    let k := m.after (Program.course (streamProgram documents) m).journal
    have writes : k.sink.Takes := by
      rw [Moment.sink_after]
      exact stand.takes
    have refused : (streamCourse documents label m).result = (blameCourse label fault k).result := by
      simp only [streamCourse, recover, failed, k]
    rw [refused]
    rcases blameCourse_result label writes tells with ⟨rfl, told⟩ | ⟨rfl, told⟩
    · exact .inr (.inl ⟨rfl, told⟩)
    · exact .inr (.inr ⟨rfl, told⟩)

/-- A fresh reader accepts a plain document if it is of the grammar. Any other it refuses for its
first flaw: for one of scope by a fault of scope, for one of form as an illegal source. What it
declares on the way has to be something that can be logged. -/
theorem readDocuments_grammar {document : Value} (plain : Grammar.isPlain document) (serial : Nat)
    (label : Option String) {s : Session} (fresh : s.Fresh) (takes : s.sink.Takes) :
    let came := ((Action.readDocuments ⟨[document], none, serial⟩ label).run s).1
    (came = .ok () ↔ Grammar.IsDocument document) ∧
      (¬ Grammar.IsDocument document →
        ((Grammar.flaws document).head? = some .scope ∧ ∃ problem, came = .error (.scope problem)) ∨
        ((Grammar.flaws document).head? = some .form ∧
          ∃ cause, came = .error (.illegal label cause))) := by
  intro came
  have stand : Blocks.Stand {} s.moment := by
    have empty : s.moment.reader = {} := fresh.reader
    constructor
    · exact takes
    all_goals
      rw [empty]
      rfl
  have meets : Meets (Program.course (Document.streamProgram ⟨[document], none, serial⟩)) {}
      (Grammar.flaws document) := by
    simpa [Document.streamProgram] using Grammar.document_meets plain
  have result : came = _ := (readDocuments_run fresh.intact _ label).1
  have told := Document.streamCourse_result meets label stand
  rw [← result] at told
  rw [← Grammar.flaws_eq_nil document]
  rcases told with ⟨none, accepted⟩ | refused
  · exact ⟨⟨fun _ => none, fun _ => accepted⟩, fun some => absurd none some⟩
  · refine ⟨⟨fun accepted => ?_, fun none => ?_⟩, fun _ => refused⟩
    · rcases refused with ⟨-, _, same⟩ | ⟨-, _, same⟩ <;> rw [accepted] at same <;> cases same
    · rcases refused with ⟨first, -⟩ | ⟨first, -⟩ <;> rw [none] at first <;> cases first

def lateAddition : Value :=
  .map [(.text "authorization", .list [
    .map [(.text "role", .text "admin"), (.text "body", .list [
      .map [(.text "has_permission_on", .text "offices"),
        (.text "body", .list [.map [(.text "to", .text "read")]])],
      .map [(.text "to", .text "update")],
      .map [(.text "title", .text "Administrator"), (.text "short", .text "admin")]])]])]

/-- The first flaw decides. -/
theorem readDocuments_lateAddition :
    Grammar.isPlain lateAddition ∧ Grammar.flaws lateAddition = [.scope, .form] ∧
      ∃ problem, ((Action.readDocuments ⟨[lateAddition], none, 0⟩ none).run {}).1 =
        .error (.scope problem) := by
  have plain : Grammar.isPlain lateAddition := by decide +kernel
  have flaws : Grammar.flaws lateAddition = [.scope, .form] := by decide +kernel
  have notInGrammar : ¬ Grammar.IsDocument lateAddition := by
    rw [← Grammar.flaws_eq_nil, flaws]
    exact nofun
  refine ⟨plain, flaws, ?_⟩
  rcases (readDocuments_grammar plain 0 none Session.fresh_default Sink.memory_takes).2 notInGrammar
    with ⟨-, told⟩ | ⟨first, -⟩
  · exact told
  · rw [flaws] at first
    cases first

end AccessPolicy
