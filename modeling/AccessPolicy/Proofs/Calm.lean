import AccessPolicy.Proofs.Reading

/-! Runs that tell of their faults. A body that fails may leave the rule of its grant open; but the
fault then comes out of the run, or is noted as caught. A run in which nothing of this kind happens
leaves no rule open. -/

namespace AccessPolicy

def Outcome.fault? : Outcome → Option Fault
  | .caught fault => some fault
  | .returned _ => none

def Session.caught (s : Session) : List Fault := s.outcomes.filterMap Outcome.fault?

namespace Action

variable {α β : Type}

/-- Where a run does not fail and nothing is caught in it, it leaves no rule open anew. -/
structure CalmAt (s : Session) (run : Except Fault α × Session) : Prop where
  intact : run.2.Intact
  caught : s.caught <+: run.2.caught
  closed : run.1.isOk → run.2.caught = s.caught → s.reader.rule = none → run.2.reader.rule = none

structure Calm (action : Action α) : Prop where
  calm : ∀ s : Session, s.Intact → CalmAt s (action.run s)

/-- What catches nothing and lets the open rule be. -/
theorem Calm.of_run {action : Action α}
    (quiet : ∀ s : Session, s.Intact → (action.run s).2.Intact ∧
      (action.run s).2.caught = s.caught ∧ (action.run s).2.reader.rule = s.reader.rule) :
    action.Calm := by
  constructor
  intro s intact
  obtain ⟨kept, caught, rule⟩ := quiet s intact
  exact ⟨kept, caught ▸ List.prefix_refl _, fun _ _ closed => rule.trans closed⟩

theorem calm_pure (a : α) : (pure a : Action α).Calm := .of_run fun _ intact => ⟨intact, rfl, rfl⟩

theorem calm_refuse (fault : Fault) : (refuse fault : Action α).Calm :=
  .of_run fun _ intact => ⟨intact, rfl, rfl⟩

theorem calm_modifyTables (f : Tables → Tables) : (modifyTables f).Calm :=
  .of_run fun _ intact => ⟨⟨intact.changes, intact.stray⟩, rfl, rfl⟩

theorem calm_returned (answer : Answer) : (report (.returned answer)).Calm := by
  refine .of_run fun s intact => ⟨⟨intact.changes, intact.stray⟩, ?_, rfl⟩
  change (s.outcomes ++ [Outcome.returned answer]).filterMap Outcome.fault? = s.caught
  simp [Session.caught, Outcome.fault?]

theorem Calm.congr {a b : Action α} (calm : a.Calm)
    (same : ∀ s : Session, s.Intact → b.run s = a.run s) : b.Calm := by
  constructor
  intro s intact
  rw [same s intact]
  exact calm.calm s intact

theorem Calm.bind {a : Action α} {f : α → Action β} (first : a.Calm) (second : ∀ x, (f x).Calm) :
    (a >>= f).Calm := by
  constructor
  intro s intact
  have led := first.calm s intact
  rw [run_bind]
  rcases ran : a.run s with ⟨fault | x, t⟩
  · rw [ran] at led
    exact ⟨led.intact, led.caught, nofun⟩
  · rw [ran] at led
    have next := (second x).calm t led.intact
    refine ⟨next.intact, led.caught.trans next.caught, fun ok same closed => ?_⟩
    have between : t.caught = s.caught := by
      have shorter : t.caught <+: s.caught := same ▸ next.caught
      exact shorter.eq_of_length_le led.caught.length_le
    exact next.closed ok (same.trans between.symm) (led.closed rfl between closed)

theorem calm_get {f : Session → Action α} (calm : ∀ s, (f s).Calm) : (get >>= f).Calm :=
  Calm.bind (.of_run fun _ intact => ⟨intact, rfl, rfl⟩) calm

theorem calm_reader {f : Reader → Action α} (calm : ∀ r, (f r).Calm) : (reader >>= f).Calm :=
  Calm.bind (.of_run fun _ intact => ⟨intact, rfl, rfl⟩) calm

theorem calm_requireField (block : Block) (name : String) : (requireField block name).Calm :=
  (calm_pure ()).congr fun _ intact => run_requireField intact block name

theorem calm_requireKey (key : Value) : (requireKey key).Calm := by
  unfold requireKey
  split
  · exact calm_refuse _
  · exact calm_pure ()

theorem calm_emit (event : LogEvent) : (emit event).Calm := by
  refine .of_run fun s intact => ?_
  have stays : ∃ result log, (emit event).run s = (result, { s with log := log }) := by
    simp only [emit, run_bind, run_get, intact.loggerFault?]
    split
    · split
      · exact ⟨_, _, rfl⟩
      · exact ⟨_, _, rfl⟩
    · exact ⟨_, _, rfl⟩
  obtain ⟨result, log, ran⟩ := stays
  rw [ran]
  exact ⟨⟨intact.changes, intact.stray⟩, rfl, rfl⟩

theorem calm_modifyFields (block : Block) (names : List String) {f : Reader → Reader}
    (same : ∀ r, (f r).rule = r.rule) : (modifyFields block names f).Calm := by
  refine .of_run fun s intact => ?_
  rw [run_modifyFields intact]
  exact ⟨⟨intact.changes, intact.stray⟩, rfl, same s.reader⟩

theorem Calm.ensuring {a : Action α} (calm : a.Calm) (block : Block) (names : List String)
    {f : Reader → Reader} (same : ∀ r, (f r).rule = r.rule) :
    (ensuring a block names f).Calm := by
  constructor
  intro s intact
  have led := calm.calm s intact
  rw [run_ensuring, led.intact.withFields]
  exact ⟨⟨led.intact.changes, led.intact.stray⟩, led.caught, fun ok caught closed =>
    (same _).trans (led.closed ok caught closed)⟩

theorem Calm.onField {usual : Action Unit} (calm : usual.Calm) (block : Block) (name : String)
    (other : Value → Except Fault Value) : (onField block name other usual).Calm :=
  calm.congr fun _ intact => run_onField intact block name other usual

theorem Calm.operate {operation : Action Unit} (calm : operation.Calm) (block : Block)
    (name : String) (positional : List Value) :
    (operate block name positional operation).Calm :=
  calm.congr fun _ intact => run_operate intact block name positional operation

/-- Whoever catches a fault tells of it: another fault comes of it, or it is noted as caught. -/
theorem Calm.tryCatch {a : Action α} {handle : Fault → Action α} (calm : a.Calm)
    (handles : ∀ fault (s : Session), s.Intact → ((handle fault).run s).2.Intact ∧
      s.caught <+: ((handle fault).run s).2.caught ∧
      (((handle fault).run s).1.isOk → ((handle fault).run s).2.caught ≠ s.caught)) :
    (tryCatch a handle).Calm := by
  constructor
  intro s intact
  have led := calm.calm s intact
  rw [run_tryCatch]
  rcases ran : a.run s with ⟨fault | x, t⟩
  · rw [ran] at led
    obtain ⟨kept, caught, told⟩ := handles fault t led.intact
    refine ⟨kept, led.caught.trans caught, fun ok same => ?_⟩
    have shorter : ((handle fault).run t).2.caught <+: t.caught := by
      rw [same]
      exact led.caught
    exact absurd (shorter.eq_of_length_le caught.length_le) (told ok)
  · rw [ran] at led
    exact led

end Action

open AccessPolicy.Action

theorem calm_getD {body : Option (Action Unit)} (inner : ∀ a ∈ body, a.Calm) :
    (body.getD (pure ())).Calm := by
  cases body with
  | none => exact calm_pure ()
  | some a => exact inner a rfl

variable {body : Option (Action Unit)}

namespace Privilege

theorem register_calm (name : Value) : (register name).Calm := (calm_modifyTables _).onField ..

theorem enterEdge_calm (name : Value) (edge : PrivilegeEdge) : (enterEdge name edge).Calm := by
  refine Calm.onField ((calm_requireKey name).bind fun _ => calm_get fun s => ?_) ..
  split
  · exact (calm_modifyTables _).bind fun _ =>
      (calm_requireField ..).bind fun _ => calm_modifyTables _
  · exact (calm_requireField ..).bind fun _ => calm_modifyTables _

theorem includeEach_calm (name context : Value) (names : List Value) :
    (includeEach name context names).Calm := by
  induction names with
  | nil => exact calm_pure ()
  | cons lower rest ih =>
    exact ((register_calm lower).operate ..).bind fun _ => (enterEdge_calm ..).bind fun _ => ih

theorem includes_calm (names : List Value) : (includes names).Calm := by
  refine (calm_requireField ..).bind fun _ => calm_reader fun r => ?_
  split
  · exact calm_refuse _
  · exact includeEach_calm ..

theorem includeGiven_calm (options : Table Value) : (includeGiven options).Calm := by
  unfold includeGiven
  split
  · exact (includes_calm _).operate ..
  · exact calm_pure ()

theorem block_calm (inner : ∀ a ∈ body, a.Calm) (name context : Value) (options : Table Value) :
    (block name context options body).Calm := by
  have enters : (modifyFields .privileges openFields (opened name context)).Calm :=
    calm_modifyFields _ _ fun _ => rfl
  refine enters.bind fun _ => Calm.ensuring ?_ _ _ (f := closed) fun _ => rfl
  refine ((register_calm name).operate ..).bind fun _ => (calm_emit _).bind fun _ => ?_
  exact (calm_getD inner).bind fun _ => includeGiven_calm options

theorem declareIn_calm (inner : ∀ a ∈ body, a.Calm) (name context options : Value)
    (extra : List (String × Value)) : (declareIn name context options extra body).Calm := by
  have table : (optionTable options extra).Calm := by
    unfold optionTable
    split
    · exact calm_pure _
    · exact calm_refuse _
  refine table.bind fun _ => ?_
  split
  · exact block_calm inner ..
  · exact calm_refuse _

theorem declare_calm (inner : ∀ a ∈ body, a.Calm) (name context options : Value)
    (extra : List (String × Value)) : (declare name context options extra body).Calm := by
  unfold declare
  split
  · exact declareIn_calm inner ..
  · exact declareIn_calm inner ..

end Privilege

namespace Role

theorem setTitle_calm (role text : Value) : (setTitle role text).Calm :=
  ((calm_requireKey role).bind fun _ => calm_modifyTables _).onField ..

theorem setDescription_calm (role text : Value) : (setDescription role text).Calm :=
  ((calm_requireKey role).bind fun _ => calm_modifyTables _).onField ..

theorem whereGiven_calm {set : Action Unit} (calm : set.Calm) (text : Value) :
    (whereGiven text set).Calm := by
  unfold whereGiven
  split
  · exact calm_pure ()
  · exact calm

theorem register_calm (role title description : Value) :
    (register role title description).Calm := by
  refine ((calm_modifyTables _).onField ..).bind fun _ => ?_
  exact (whereGiven_calm (setTitle_calm ..) title).bind fun _ =>
    whereGiven_calm (setDescription_calm ..) description

theorem declare_calm (inner : ∀ a ∈ body, a.Calm) (role title description : Value) :
    (declare role title description body).Calm := by
  refine ((register_calm role title description).operate ..).bind fun _ => ?_
  have enters : (modifyFields .authorization ["_current_role"] (opened role)).Calm :=
    calm_modifyFields _ _ fun _ => rfl
  refine enters.bind fun _ => Calm.ensuring ?_ _ _ (f := closed) fun _ => rfl
  exact (calm_emit _).bind fun _ => calm_getD inner

theorem current_calm (fault : ScopeFault) : (current fault).Calm := by
  refine (calm_requireField ..).bind fun _ => calm_reader fun r => ?_
  split
  · exact calm_refuse _
  · exact calm_pure _

theorem includes_calm (names : List Value) : (includes names).Calm :=
  (current_calm _).bind fun role =>
    ((calm_requireKey role).bind fun _ => calm_modifyTables _).onField ..

theorem title_calm (text : Value) : (title text).Calm :=
  (current_calm _).bind fun role => setTitle_calm role text

theorem description_calm (text : Value) : (description text).Calm :=
  (current_calm _).bind fun role => setDescription_calm role text

end Role

namespace Grant

theorem run_write {s : Session} (intact : s.Intact) (f : Reader → Reader) :
    (write f).run s = (.ok (), { s with reader := f s.reader }) := by
  simp only [write, run_bind, run_modifyFields intact, run_modify]
  rw [← intact.stray]

/-- A body that completes closes its rule, and a body that does not tells so. -/
theorem block_calm (inner : ∀ a ∈ body, a.Calm) (place : Nat) : (block place body).Calm := by
  cases body with
  | none => exact calm_pure ()
  | some a =>
    constructor
    intro s intact
    let entered : Session := { s with reader := opened place s.reader }
    have led := (inner a rfl).calm entered ⟨intact.changes, intact.stray⟩
    have ran : (block place (some a)).run s = (do a; write closed : Action Unit).run entered := by
      simp only [block, run_bind, run_write intact, entered]
    rw [ran, run_bind]
    rcases came : a.run entered with ⟨fault | _, t⟩
    · rw [came] at led
      exact ⟨led.intact, led.caught, nofun⟩
    · rw [came] at led
      simp only [run_write led.intact]
      exact ⟨⟨led.intact.changes, led.intact.stray⟩, led.caught, fun _ _ _ => rfl⟩

theorem appendRule_calm (rule : Rule) : (appendRule rule).Calm :=
  calm_reader fun _ => ((calm_pure ()).onField ..).bind fun _ =>
    (calm_modifyTables _).bind fun _ => calm_pure _

theorem declare_calm (inner : ∀ a ∈ body, a.Calm) (context privileges : Value) :
    (declare context privileges body).Calm := by
  refine (Role.current_calm _).bind fun role => ?_
  split
  · exact calm_refuse _
  · refine calm_get fun s => (appendRule_calm _).bind fun place => (calm_emit _).bind fun _ => ?_
    exact (block_calm inner place).bind fun _ => calm_get fun _ => calm_pure _

theorem current_calm (fault : ScopeFault) : (current fault).Calm := by
  refine (calm_requireField ..).bind fun _ => calm_get fun s => ?_
  split
  · exact calm_pure _
  · exact calm_pure _
  · exact calm_pure _
  · exact calm_refuse _

theorem change_calm (rule : OpenRule) (member : String) (argument : Value) (f : Rule → Rule) :
    (rule.change member argument f).Calm := by
  cases rule with
  | placed place => exact calm_modifyTables fun t => { t with rules := t.rules.modify place f }
  | stray turn place => exact .of_run fun _ intact => ⟨⟨intact.changes, intact.stray⟩, rfl, rfl⟩
  | substitute value =>
    simp only [OpenRule.change]
    split
    · exact calm_pure ()
    · exact calm_refuse _

theorem conditions_calm (given : Value) : (Action.conditions given).Calm := by
  refine calm_get fun s => ?_
  split
  · exact calm_refuse _
  · exact Calm.bind (.of_run fun _ intact => ⟨⟨intact.changes, intact.stray⟩, rfl, rfl⟩)
      fun _ => calm_pure _

theorem addPrivileges_calm (names : List Value) : (addPrivileges names).Calm :=
  (current_calm _).bind fun rule => change_calm rule ..

theorem restrict_calm (given : Value) (extra : List (String × Value)) :
    (restrict given extra).Calm :=
  (current_calm _).bind fun rule => (conditions_calm _).bind fun _ => change_calm rule ..

theorem placeOf_calm (number : Int) : (placeOf number).Calm := by
  refine calm_reader fun r => ?_
  split
  · exact calm_pure _
  · exact calm_refuse _

theorem extendPrivileges_calm (number : Int) (names : Value) :
    (extendPrivileges number names).Calm := by
  refine (placeOf_calm number).bind fun place => ?_
  split
  · exact calm_modifyTables _
  · exact calm_refuse _

theorem attach_calm (number : Int) (conditions : Conditions) : (attach number conditions).Calm :=
  (placeOf_calm number).bind fun _ => calm_modifyTables _

theorem addConditions_calm (number : Int) (given : Value) : (addConditions number given).Calm :=
  (placeOf_calm number).bind fun _ => (conditions_calm given).bind fun _ => calm_modifyTables _

end Grant

theorem Access.placeOf_calm (block : Block) (path : List String) : (placeOf block path).Calm := by
  refine calm_get fun s => ?_
  split
  · exact calm_pure _
  · exact calm_refuse _

namespace Program

theorem noting_calm {α : Type} {answer : α → Answer} {a : Action α} (calm : a.Calm) :
    (noting answer a).Calm := calm.bind fun _ => calm_returned _

variable {paths : Bool}

mutual

theorem runStep_calm : ∀ step : Step, step.isOperational paths → (runStep step).Calm
  | .registerPrivilege name, _ => noting_calm (Privilege.register_calm name)
  | .privilege _ _ _ _ body, operational =>
    noting_calm (Privilege.declare_calm (runBody_calm body operational) ..)
  | .includePrivileges names, _ => noting_calm (Privilege.includes_calm names)
  | .registerRole .., _ => noting_calm (Role.register_calm ..)
  | .role _ _ _ body, operational =>
    noting_calm (Role.declare_calm (runBody_calm body operational) ..)
  | .includeRoles names, _ => noting_calm (Role.includes_calm names)
  | .title text, _ => noting_calm (Role.title_calm text)
  | .description text, _ => noting_calm (Role.description_calm text)
  | .grant _ _ body, operational =>
    noting_calm (Grant.declare_calm (runBody_calm body operational) ..)
  | .addPrivileges names, _ => noting_calm (Grant.addPrivileges_calm names)
  | .restrict .., _ => noting_calm (Grant.restrict_calm ..)
  | .condition _ _, _ => noting_calm (calm_pure _)
  | .attempt steps, operational => by
    refine (run_calm steps operational).tryCatch fun fault s intact => ?_
    have longer : (s.outcomes ++ [Outcome.caught fault]).filterMap Outcome.fault? =
        s.caught ++ [fault] := by simp [Session.caught, Outcome.fault?]
    refine ⟨⟨intact.changes, intact.stray⟩, ⟨[fault], longer.symm⟩, fun _ same => ?_⟩
    exact absurd (longer.symm.trans same) (by simp)
  | .follow block path, _ => (Access.placeOf_calm block _).bind fun _ => calm_pure ()
  | .overridable block access operation, operational => by
    refine (runStep_calm operation operational).congr fun s intact => ?_
    simp only [runStep, run_bind, run_get, intact.change?]
  | .refuse fault, _ => calm_refuse fault

theorem runBody_calm : ∀ body : Option (List Step), Step.bodyIsOperational paths body →
    ∀ a ∈ runBody body, a.Calm
  | none, _, _, member => nomatch member
  | some steps, operational, _, rfl => run_calm steps operational

/-- A program that leaves a rule open fails, or notes a fault as caught. -/
theorem run_calm : ∀ steps : List Step, Step.isOperationalProgram paths steps → (run steps).Calm
  | [], _ => calm_pure ()
  | step :: rest, operational => by
    obtain ⟨first, others⟩ := Bool.and_eq_true_iff.mp operational
    exact (runStep_calm step first).bind fun _ => run_calm rest others

end

end Program

/-- A fault of a source is told again. -/
theorem blameSource_fails (label : Option String) (fault : Fault) (s : Session) :
    ¬ ((blameSource label fault).run s).1.isOk := by
  unfold blameSource
  split
  · rw [run_bind]
    rcases (emit _).run s with ⟨_ | _, t⟩ <;> exact nofun
  · exact nofun

theorem readDocuments_calm (documents : Yaml.Documents) (label : Option String) :
    (readDocuments documents label).Calm := by
  have blame (fault : Fault) : (blameSource label fault).Calm := by
    unfold blameSource
    split
    · exact (calm_emit _).bind fun _ => calm_refuse _
    · exact calm_refuse _
  have program := Program.run_calm _ (Document.streamProgram_isOperational documents)
  refine (program.tryCatch fun fault s intact => ?_).bind fun _ => calm_get fun s => ?_
  · have led := (blame fault).calm s intact
    exact ⟨led.intact, led.caught, fun ok => absurd ok (blameSource_fails label fault s)⟩
  · split
    · exact calm_emit _
    · exact calm_refuse _

end AccessPolicy
