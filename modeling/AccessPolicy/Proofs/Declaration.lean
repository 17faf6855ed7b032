import AccessPolicy.Proofs.Statement
import AccessPolicy.Proofs.Trace

/-! Declarations of roles and privileges. Where their blocks complete is told by their bodies; as
statements they are written out with options and a body behind these, and whether the options fit
does not depend on what stands in the body. -/

namespace AccessPolicy

namespace Course

variable {m n : Moment} {event : LogEvent} {c : Course}

theorem completes_emit_andThen :
    ((emit event).andThen c).Completes m n ↔ (emit event).Completes m m ∧ c.Completes m n := by
  rw [completes_andThen]
  constructor
  · rintro ⟨k, logged, rest⟩
    obtain rfl := logged.of_emit
    exact ⟨logged, rest⟩
  · rintro ⟨logged, rest⟩
    exact ⟨m, logged, rest⟩

end Course

open Course

variable {m n : Moment} {body : Option Course}

theorem Role.completes_blockCourse {role : Value} :
    (blockCourse role body).Completes m n ↔
      (emit (.roleDeclared role)).Completes ((Update.enterRole role).moment m)
          ((Update.enterRole role).moment m) ∧
        ∃ k, (body.getD done).Completes ((Update.enterRole role).moment m) k ∧
          n = Update.leaveRole.moment k := by
  simp only [blockCourse, completes_andThen (c := make _), completes_make, Moment.after_cons,
    Moment.after_nil, exists_eq_left, completes_ending, completes_emit_andThen, and_assoc,
    exists_and_left]

/-- A role that is given no title and no description is registered, and nothing else is done. -/
theorem Role.completes_registerCourse (role : Value) (m : Moment) :
    (registerCourse role .null .null).Completes m ((Update.role role).moment m) := by
  have registered : (make [.role role]).Completes m ((Update.role role).moment m) :=
    completes_make.mpr rfl
  have untitled : (done.andThen done).Completes ((Update.role role).moment m)
      ((Update.role role).moment m) := by
    rw [andThen_done]
    exact completes_done.mpr rfl
  exact completes_andThen.mpr ⟨_, registered, untitled⟩

namespace Privilege

def begun (name context : Value) (m : Moment) : Moment :=
  m.after [.enterPrivilege name context, .privilege name]

theorem completes_blockCourse {name context : Value} {options : Table Value} :
    (blockCourse name context options body).Completes m n ↔
      (emit (.privilegeDeclared name context)).Completes (begun name context m)
          (begun name context m) ∧
        ∃ k, ((body.getD done).andThen (includeGivenCourse options)).Completes
            (begun name context m) k ∧
          n = Update.leavePrivilege.moment k := by
  simp only [blockCourse, completes_andThen (c := make _), completes_make, Moment.after_cons,
    Moment.after_nil, exists_eq_left, completes_ending, completes_emit_andThen, and_assoc,
    exists_and_left, begun]

end Privilege

namespace Statement

open Program

def withBody (keyword : String) (argument : Value) (options : List (Value × Value))
    (body : List Value) : Value :=
  .map ((.text keyword, argument) :: (options ++ [(.text "body", .list body)]))

theorem stepOf_withBody (block : Block) (keyword : String) (argument : Value)
    (options : List (Value × Value)) (body : List Value) :
    stepOf block (withBody keyword argument options body) =
      step block (.text keyword) argument
        (arguments block (options ++ [(.text "body", .list body)])) := stepOf_of_parts rfl

theorem course_list_append (block : Block) (first second : List Value) :
    course (program block (.list (first ++ second))) =
      (course (program block (.list first))).andThen (course (program block (.list second))) := by
  simp only [program, steps_eq_map, List.map_append, Program.course_append]

theorem course_list_cons (block : Block) (first : Value) (rest : List Value) :
    course (program block (.list (first :: rest))) =
      (stepCourse (stepOf block first)).andThen (course (program block (.list rest))) := by
  rw [program, steps, course, program]

theorem course_list_singleton (block : Block) (statement : Value) :
    course (program block (.list [statement])) = stepCourse (stepOf block statement) := by
  rw [course_list_cons, program, steps, course, Course.andThen_done]

@[simp] theorem option_nil (name : String) : option name [] = .null := rfl

@[simp] theorem option_cons (key name : String) (value : Value) (rest : List (Value × Value)) :
    option name ((.text key, value) :: rest) = if key = name then value else option name rest := by
  by_cases same : key = name <;>
    simp [option, option?, Table.get?_cons, Value.same_text_iff, same]

section Options

variable {options : List (Value × Value)} {named : List (String × Value)} {body : List Value}

theorem textKeyed?_withBody (keyed : textKeyed? options = some named) (value : Value) :
    textKeyed? (options ++ [(.text "body", value)]) = some (named ++ [("body", value)]) := by
  rw [textKeyed?_eq_some] at keyed ⊢
  simp [keyed, asEntries]

/-- Where all keys are text, so are those before the body. -/
theorem exists_textKeyed? {value : Value}
    (keyed : textKeyed? (options ++ [(.text "body", value)]) = some named) :
    ∃ before, textKeyed? options = some before ∧ named = before ++ [("body", value)] := by
  obtain ⟨before, last, rfl, same, isLast⟩ :=
    List.map_eq_append_iff.mp (textKeyed?_eq_some.mp keyed).symm
  obtain ⟨o, rfl, here⟩ := List.map_eq_singleton_iff.mp isLast
  refine ⟨before, textKeyed?_eq_some.mpr same.symm, ?_⟩
  obtain ⟨name, given⟩ := o
  cases here
  rfl

theorem option?_withBody (value : Value) {name : String} (plain : name ≠ "body") :
    option? name (options ++ [(.text "body", value)]) = option? name options := by
  have absent : (Table.mk [(.text "body", value)]).get? (.text name) = none := by
    rw [Table.get?_cons, if_neg (by simpa [Value.same_text_iff] using Ne.symm plain)]
    rfl
  rw [option?, Table.get?_append, absent, option?]
  cases (Table.mk options).get? (.text name) <;> rfl

theorem option_withBody (value : Value) {name : String} (plain : name ≠ "body") :
    option name (options ++ [(.text "body", value)]) = option name options := by
  rw [option, option, option?_withBody value plain]

/-- The body is the one behind the options, as no other can be among them. -/
theorem optionBody_withBody (block : Block) (keyed : textKeyed? options = some named)
    (once : (named.map Prod.fst ++ ["body"]).Nodup) :
    optionBody block (options ++ [(.text "body", .list body)]) =
      some (course (program block (.list body))) := by
  have absent : named.lookup "body" = none := by
    refine Option.not_isSome_iff_eq_none.mp fun found => ?_
    exact (List.nodup_append.mp once).2.2 _ (Given.lookup_isSome_iff.mp found) _ (by simp) rfl
  have found : option? "body" (options ++ [(.text "body", .list body)]) = some (.list body) := by
    rw [← lookup_of_textKeyed? (textKeyed?_withBody keyed (.list body)), List.lookup_append, absent]
    rfl
  rw [optionBody, found]
  rfl

/-- Where a role with a body is accepted, its options fit whatever body. -/
theorem fits_of_role_completes {argument : Value} {m n : Moment}
    (completes : (stepCourse (stepOf .authorization
      (withBody "role" argument options body))).Completes m n) :
    ∃ named, textKeyed? options = some named ∧
      roleSignature.Fits ["role"] [] (named.map Prod.fst ++ ["body"]) := by
  rw [stepOf_withBody] at completes
  by_cases fits : Fits roleSignature "role" (options ++ [(.text "body", .list body)])
  · obtain ⟨_, keyed, fits⟩ := fits
    obtain ⟨named, before, rfl⟩ := exists_textKeyed? keyed
    exact ⟨named, before, by simpa using fits⟩
  · obtain ⟨fault, same⟩ : ∃ fault, stepCourse (step .authorization (.text "role") argument
        (arguments .authorization (options ++ [(.text "body", .list body)]))) =
          Course.refuse (.usage fault) := stepCourse_of_not_fits rfl rfl fits argument
    rw [same] at completes
    exact (Course.not_completes_refuse completes).elim

section Course

variable (keyed : textKeyed? options = some named) (argument : Value)

include keyed

theorem course_role_withBody
    (fits : roleSignature.Fits ["role"] [] (named.map Prod.fst ++ ["body"])) :
    stepCourse (stepOf .authorization (withBody "role" argument options body)) =
      Role.course argument (option "title" options) (option "description" options)
        (some (course (program .authorization (.list body)))) := by
  have keyed' := textKeyed?_withBody keyed (.list body)
  rw [stepOf_withBody, stepCourse_role keyed' (by simpa using fits),
    optionBody_withBody _ keyed fits.once, option_withBody _ (by simp), option_withBody _ (by simp)]

theorem course_grant_withBody
    (fits : grantSignature.Fits ["context"] [] (named.map Prod.fst ++ ["body"])) :
    stepCourse (stepOf .authorization (withBody "has_permission_on" argument options body)) =
      Grant.course argument (option "to" options)
        (some (course (program .authorization (.list body)))) := by
  have keyed' := textKeyed?_withBody keyed (.list body)
  rw [stepOf_withBody, stepCourse_grant keyed' (by simpa using fits),
    optionBody_withBody _ keyed fits.once, option_withBody _ (by simp)]

theorem course_privilege_withBody
    (fits : privilegeSignature.Fits ["privilege"] [] (named.map Prod.fst ++ ["body"])) :
    stepCourse (stepOf .privileges (withBody "privilege" argument options body)) =
      Privilege.course argument (option "context" options) (option "options" options)
        (extraOptions named) (some (course (program .privileges (.list body)))) := by
  have keyed' := textKeyed?_withBody keyed (.list body)
  have extra : extraOptions (named ++ [("body", .list body)]) = extraOptions named := by
    simp [extraOptions, Signature.parameters, privilegeSignature]
  rw [stepOf_withBody, stepCourse_privilege keyed' (by simpa using fits), extra,
    optionBody_withBody _ keyed fits.once, option_withBody _ (by simp), option_withBody _ (by simp)]

end Course

end Options

end Statement

end AccessPolicy
