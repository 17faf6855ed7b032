import AccessPolicy.Proofs.Calm
import AccessPolicy.Proofs.Composition
import AccessPolicy.Proofs.Scopes

/-! Where faults of scope come up. The first fault of a run, caught or not, is one of scope just
where a statement stands outside of what is open where it runs. -/

namespace AccessPolicy

def Fault.isOutside : Fault → Bool
  | .scope (.emptyGrant ..) | .scope (.conditionsNotMapping _) => false
  | .scope _ => true
  | _ => false

theorem Fault.isOutside_told (fault : Fault) : fault.told.isOutside = fault.isOutside := by
  cases fault with
  | scope => rfl
  | _ =>
    unfold told
    split <;> rfl

theorem Fault.not_isOutside_of_makesIllegal {fault : Fault} (illegal : fault.makesIllegal) :
    ¬ fault.isOutside := by
  cases fault with
  | scope => cases illegal
  | _ => exact nofun

def Reader.scopes (r : Reader) : Scopes
  | .privilege => r.privilege.isSome
  | .role => r.role.isSome
  | .grant => r.rule.isSome

/-- The faults that come up in a run: those that bodies catch, and the one that comes out. -/
def Session.raised {α : Type} (s : Session) (run : Except Fault α × Session) : List Fault :=
  run.2.caught.drop s.caught.length ++ faultsOf run.1

/-- An outcome tells what is open after a run in which no fault comes up; there is none where the
first fault is one of scope. Of other faults nothing is told. -/
def Explains (faults : List Fault) (scopes : Scopes) (outcome : Option Scopes) : Prop :=
  match faults with
  | [] => outcome = some scopes
  | fault :: _ => fault.isOutside → outcome = none

section Explains

variable {faults more : List Fault} {σ τ : Scopes} {outcome : Option Scopes}

/-- What comes after the first fault explains nothing more. -/
theorem Explains.append {g : Scopes → Option Scopes} (first : Explains faults σ outcome)
    (second : Explains more τ (g σ)) : Explains (faults ++ more) τ (outcome.bind g) := by
  cases faults with
  | nil =>
    rw [show outcome = some σ from first]
    exact second
  | cons fault rest =>
    intro out
    rw [show outcome = none from first out]
    rfl

theorem Explains.bind {g : Scopes → Option Scopes} (first : Explains faults σ outcome)
    (faulty : faults ≠ []) : Explains faults τ (outcome.bind g) := by
  cases faults with
  | nil => exact absurd rfl faulty
  | cons fault rest =>
    intro out
    rw [show outcome = none from first out]
    rfl

/-- If all faults are of scope, there is one where none other is told. -/
theorem Explains.iff (explains : Explains faults σ outcome)
    (only : ∀ fault ∈ faults, fault.isOutside) :
    (∃ fault ∈ faults, fault.isOutside) ↔ outcome = none := by
  cases faults with
  | nil =>
    rw [show outcome = some σ from explains]
    exact ⟨nofun, nofun⟩
  | cons fault rest =>
    have out : fault.isOutside := only fault List.mem_cons_self
    exact ⟨fun _ => explains out, fun _ => ⟨fault, List.mem_cons_self, out⟩⟩

end Explains

namespace Action

variable {α β : Type}

structure WalksAt (s : Session) (run : Except Fault α × Session) (outcome : Option Scopes) :
    Prop where
  intact : run.2.Intact
  faults : ∃ caught, run.2.caught = s.caught ++ caught ∧
    Explains (caught ++ faultsOf run.1) run.2.reader.scopes outcome

/-- From what is open where it starts, an action comes to a fault of scope, or to other blocks. -/
structure Walks (action : Action α) (effect : Scopes → Option Scopes) : Prop where
  walks : ∀ s : Session, s.Intact → WalksAt s (action.run s) (effect s.reader.scopes)

/-- The faults of the run are those that the session has more, and the one that comes out. -/
theorem WalksAt.raised {s : Session} {run : Except Fault α × Session} {outcome : Option Scopes}
    (walks : WalksAt s run outcome) : Explains (s.raised run) run.2.reader.scopes outcome := by
  obtain ⟨-, caught, more, explains⟩ := walks
  rwa [Session.raised, more, List.drop_left]

variable {a : Action α} {f g : Scopes → Option Scopes}

theorem walksAt_of_run {s t : Session} {run : Except Fault α × Session} {x : α}
    {outcome : Option Scopes} (ran : run = (.ok x, t)) (intact : t.Intact)
    (caught : t.caught = s.caught) (came : outcome = some t.reader.scopes) :
    WalksAt s run outcome :=
  ran ▸ ⟨intact, [], by simp [caught], came⟩

theorem walks_pure (x : α) : (pure x : Action α).Walks some :=
  ⟨fun _ intact => walksAt_of_run rfl intact rfl rfl⟩

theorem walksAt_refuse {s : Session} (intact : s.Intact) {fault : Fault} {outcome : Option Scopes}
    (told : fault.isOutside → outcome = none) :
    WalksAt s ((refuse fault : Action α).run s) outcome := by
  rw [run_refuse]
  exact ⟨intact, [], by simp, fun out => told (by rwa [Fault.isOutside_told] at out)⟩

/-- What fails for another reason may have any effect. -/
theorem walks_refuse {fault : Fault} (other : ¬ fault.isOutside) :
    (refuse fault : Action α).Walks f :=
  ⟨fun _ intact => walksAt_refuse intact fun out => absurd out other⟩

theorem Walks.congr {b : Action α} (walks : a.Walks f)
    (same : ∀ s : Session, s.Intact → b.run s = a.run s) : b.Walks f :=
  ⟨fun s intact => same s intact ▸ walks.walks s intact⟩

theorem Walks.bind {next : α → Action β} (first : a.Walks f) (second : ∀ x, (next x).Walks g) :
    (a >>= next).Walks fun σ => (f σ).bind g := by
  constructor
  intro s intact
  obtain ⟨kept, caught, more, explains⟩ := first.walks s intact
  rw [run_bind]
  rcases ran : a.run s with ⟨fault | x, t⟩ <;> rw [ran] at kept more explains
  · exact ⟨kept, caught, more, explains.bind (by simp [faultsOf])⟩
  · obtain ⟨kept', caught', more', explains'⟩ := (second x).walks t kept
    refine ⟨kept', caught ++ caught', by rw [more', more, List.append_assoc], ?_⟩
    rw [faultsOf, List.append_nil] at explains
    rw [List.append_assoc]
    exact explains.append explains'

/-- What opens and closes nothing may come first. -/
theorem Walks.then {next : α → Action β} (first : a.Walks some) (second : ∀ x, (next x).Walks f) :
    (a >>= next).Walks f := first.bind second

/-- What opens and closes nothing may come last. -/
theorem Walks.last {next : α → Action β} (first : a.Walks f) (second : ∀ x, (next x).Walks some) :
    (a >>= next).Walks f := by
  have both := first.bind second
  simpa only [Option.bind_fun_some] using both

/-- What depends on the session it starts in. -/
theorem walks_get {next : Session → Action α}
    (each : ∀ s : Session, s.Intact → WalksAt s ((next s).run s) (f s.reader.scopes)) :
    (get >>= next).Walks f :=
  ⟨fun s intact => by
    rw [run_bind, run_get]
    exact each s intact⟩

theorem walks_reader {next : Reader → Action α}
    (each : ∀ s : Session, s.Intact → WalksAt s ((next s.reader).run s) (f s.reader.scopes)) :
    (reader >>= next).Walks f :=
  ⟨fun s intact => by
    rw [run_bind, run_reader]
    exact each s intact⟩

theorem walks_modifyTables (change : Tables → Tables) : (modifyTables change).Walks some :=
  ⟨fun _ intact => walksAt_of_run rfl ⟨intact.changes, intact.stray⟩ rfl rfl⟩

theorem walks_returned (answer : Answer) : (report (.returned answer)).Walks some := by
  refine ⟨fun s intact => walksAt_of_run rfl ⟨intact.changes, intact.stray⟩ ?_ rfl⟩
  change (s.outcomes ++ [Outcome.returned answer]).filterMap Outcome.fault? = s.caught
  simp [Session.caught, Outcome.fault?]

theorem walks_requireField (block : Block) (name : String) :
    (requireField block name).Walks some :=
  (walks_pure ()).congr fun _ intact => run_requireField intact block name

theorem walks_requireKey (key : Value) : (requireKey key).Walks some := by
  unfold requireKey
  split
  · exact walks_refuse nofun
  · exact walks_pure ()

theorem walks_emit (event : LogEvent) : (emit event).Walks some := by
  refine ⟨fun s intact => ?_⟩
  simp only [emit, run_bind, run_get, intact.loggerFault?]
  split
  · split
    · rename_i obstacle
      exact walksAt_refuse intact fun out => absurd out
        (Fault.not_isOutside_of_makesIllegal (Sink.blamed_of_obstacle? obstacle).1)
    · exact walksAt_of_run rfl ⟨intact.changes, intact.stray⟩ rfl rfl
  · exact walksAt_of_run rfl intact rfl rfl

theorem walks_modifyFields (block : Block) (names : List String) {change : Reader → Reader}
    {moved : Scopes → Scopes} (same : ∀ r, (change r).scopes = moved r.scopes) :
    (modifyFields block names change).Walks fun σ => some (moved σ) := by
  refine ⟨fun s intact => ?_⟩
  exact walksAt_of_run (run_modifyFields intact ..) ⟨intact.changes, intact.stray⟩ rfl
    (congrArg some (same s.reader).symm)

theorem Walks.ensuring (walks : a.Walks f) (block : Block) (names : List String)
    {change : Reader → Reader} {moved : Scopes → Scopes}
    (same : ∀ r, (change r).scopes = moved r.scopes) :
    (ensuring a block names change).Walks fun σ => (f σ).map moved := by
  constructor
  intro s intact
  obtain ⟨kept, caught, more, explains⟩ := walks.walks s intact
  rw [run_ensuring, kept.withFields]
  refine ⟨⟨kept.changes, kept.stray⟩, caught, more, ?_⟩
  rw [same, Option.map_eq_bind]
  rw [← List.append_nil (caught ++ _)]
  exact explains.append rfl

theorem Walks.onField {usual : Action Unit} (walks : usual.Walks f) (block : Block) (name : String)
    (other : Value → Except Fault Value) : (onField block name other usual).Walks f :=
  walks.congr fun _ intact => run_onField intact block name other usual

theorem Walks.operate {operation : Action Unit} (walks : operation.Walks f) (block : Block)
    (name : String) (positional : List Value) :
    (operate block name positional operation).Walks f :=
  walks.congr fun _ intact => run_operate intact block name positional operation

/-- A fault that is caught has come up all the same. -/
theorem Walks.attempt {a : Action Unit} (walks : a.Walks f) :
    (tryCatch a fun fault => report (.caught fault)).Walks f := by
  constructor
  intro s intact
  obtain ⟨kept, caught, more, explains⟩ := walks.walks s intact
  rw [run_tryCatch]
  rcases ran : a.run s with ⟨fault | _, t⟩ <;> rw [ran] at kept more explains
  · have longer : (t.outcomes ++ [Outcome.caught fault]).filterMap Outcome.fault? =
        t.caught ++ [fault] := by simp [Session.caught, Outcome.fault?]
    refine ⟨⟨kept.changes, kept.stray⟩, caught ++ [fault], ?_, ?_⟩
    · exact longer.trans (by rw [more, List.append_assoc])
    · have faulty : Explains (caught ++ [fault]) t.reader.scopes (f s.reader.scopes) := explains
      rw [show faultsOf ((report (.caught fault)).run t).1 = [] from rfl, List.append_nil]
      exact faulty
  · exact ⟨kept, caught, more, explains⟩

end Action

open AccessPolicy.Action

inductive BodyWalks : Option (Action Unit) → (Scopes → Option Scopes) → Prop
  | none : BodyWalks none some
  | some {a : Action Unit} {f : Scopes → Option Scopes} : a.Walks f → BodyWalks (some a) f

variable {body : Option (Action Unit)} {f : Scopes → Option Scopes}

theorem BodyWalks.getD (inner : BodyWalks body f) : (body.getD (pure ())).Walks f := by
  cases inner with
  | none => exact walks_pure ()
  | some walks => exact walks

namespace Privilege

theorem register_walks (name : Value) : (register name).Walks some :=
  (walks_modifyTables _).onField ..

theorem enterEdge_walks (name : Value) (edge : PrivilegeEdge) :
    (enterEdge name edge).Walks some := by
  refine Walks.onField ((walks_requireKey name).then fun _ => walks_get fun s intact => ?_) ..
  rw [intact.change?]
  exact ((walks_requireField ..).then fun _ => walks_modifyTables _).walks s intact

theorem includeEach_walks (name context : Value) (names : List Value) :
    (includeEach name context names).Walks some := by
  induction names with
  | nil => exact walks_pure ()
  | cons lower rest ih =>
    exact ((register_walks lower).operate ..).then fun _ => (enterEdge_walks ..).then fun _ => ih

theorem includes_walks (names : List Value) : (includes names).Walks (·.need .privilege) := by
  refine (walks_requireField ..).then fun _ => walks_reader fun s intact => ?_
  cases isOpen : s.reader.privilege with
  | none =>
    rw [Scopes.need_of_closed (by simp [Reader.scopes, isOpen])]
    exact walksAt_refuse intact fun _ => rfl
  | some name =>
    rw [Scopes.need_of_open (by simp [Reader.scopes, isOpen])]
    exact (includeEach_walks ..).walks s intact

/-- What including by options does to what is open. -/
theorem includeGiven_walks (options : Table Value) : (includeGiven options).Walks fun σ =>
    if (includedBy options).isSome then σ.need .privilege else some σ := by
  unfold includeGiven
  cases includedBy options with
  | none => exact walks_pure ()
  | some names => exact (includes_walks names).operate ..

theorem scopes_opened {name : Value} (named : name ≠ .null) (context : Value) (r : Reader) :
    (opened name context r).scopes = r.scopes.opened .privilege := by
  have isOpen : (opened name context r).privilege.isSome := by
    cases name <;> first | rfl | exact absurd rfl named
  funext kind
  cases kind with
  | privilege => exact isOpen
  | role | grant => rfl

theorem scopes_closed (r : Reader) : (closed r).scopes = r.scopes.closed .privilege := by
  funext kind
  cases kind <;> rfl

theorem block_walks (inner : BodyWalks body f) {name : Value} (named : name ≠ .null)
    (context : Value) (options : Table Value) : (block name context options body).Walks fun σ =>
      ((f (σ.opened .privilege)).bind fun inside =>
        if (includedBy options).isSome then inside.need .privilege
        else some inside).map (·.closed .privilege) := by
  have inside := ((register_walks name).operate .privileges "append_privilege" [name]).then fun _ =>
    (walks_emit (.privilegeDeclared name context)).then fun _ =>
      inner.getD.bind fun _ => includeGiven_walks options
  exact (walks_modifyFields _ _ (scopes_opened named context)).bind fun _ =>
    inside.ensuring _ _ scopes_closed

theorem not_isOutside_of_computed {computation user : Value} {fault : Fault}
    (failed : computation.computed user = .error fault) : ¬ fault.isOutside := by
  unfold Value.computed at failed
  split at failed
  · cases failed
  · split at failed <;> cases failed
    exact nofun
  · cases failed
    exact nofun

theorem not_isOutside_of_keyedEntries? {record : Value} {fault : Fault}
    (keyed : record.keyedEntries? = some (.error fault)) : ¬ fault.isOutside := by
  unfold Value.keyedEntries? at keyed
  split at keyed
  · obtain ⟨keys, -, failed⟩ := Option.map_eq_some_iff.mp keyed
    cases came : keys.computed .null with
    | error =>
      rw [came] at failed
      cases failed
      exact not_isOutside_of_computed came
    | ok found =>
      rw [came] at failed
      simp only [bind, Except.bind] at failed
      split at failed <;> cases failed <;> exact nofun
  · cases keyed

theorem not_isOutside_of_optionEntries {options : Value} {fault : Fault}
    (failed : optionEntries options = .error fault) : ¬ fault.isOutside := by
  unfold optionEntries at failed
  split at failed
  · cases failed
  · cases failed
    exact nofun
  · cases failed
    exact nofun
  · subst failed
    exact not_isOutside_of_keyedEntries? (by assumption)
  · split at failed <;> cases failed
    exact nofun

theorem declareIn_walks (inner : BodyWalks body f) {name : Value} (named : name ≠ .null)
    (context options : Value) (extra : List (String × Value)) :
    (declareIn name context options extra body).Walks fun σ =>
      ((f (σ.opened .privilege)).bind fun inside =>
        if optionsInclude options extra then inside.need .privilege
        else some inside).map (·.closed .privilege) := by
  unfold declareIn optionTable optionsInclude
  cases given : optionEntries options with
  | error fault => exact walks_refuse (not_isOutside_of_optionEntries given)
  | ok entries =>
    simp only [pure_bind]
    split
    · exact block_walks inner named ..
    · exact walks_refuse nofun

theorem declare_walks (inner : BodyWalks body f) {name : Value} (named : name ≠ .null)
    (context options : Value) (extra : List (String × Value)) :
    (declare name context options extra body).Walks fun σ =>
      ((f (σ.opened .privilege)).bind fun inside =>
        if optionsInclude (if context.isMap then context else options) extra then
          inside.need .privilege
        else some inside).map (·.closed .privilege) := by
  unfold declare
  split
  · exact declareIn_walks inner named ..
  · exact declareIn_walks inner named ..

end Privilege

namespace Role

theorem setTitle_walks (role text : Value) : (setTitle role text).Walks some :=
  ((walks_requireKey role).then fun _ => walks_modifyTables _).onField ..

theorem setDescription_walks (role text : Value) : (setDescription role text).Walks some :=
  ((walks_requireKey role).then fun _ => walks_modifyTables _).onField ..

theorem whereGiven_walks {set : Action Unit} (walks : set.Walks some) (text : Value) :
    (whereGiven text set).Walks some := by
  unfold whereGiven
  split
  · exact walks_pure ()
  · exact walks

theorem register_walks (role title description : Value) :
    (register role title description).Walks some := by
  refine ((walks_modifyTables _).onField ..).then fun _ => ?_
  exact (whereGiven_walks (setTitle_walks ..) title).then fun _ =>
    whereGiven_walks (setDescription_walks ..) description

theorem scopes_opened {role : Value} (named : role ≠ .null) (r : Reader) :
    (opened role r).scopes = r.scopes.opened .role := by
  have isOpen : (opened role r).role.isSome := by
    cases role <;> first | rfl | exact absurd rfl named
  funext kind
  cases kind with
  | role => exact isOpen
  | privilege | grant => rfl

theorem scopes_closed (r : Reader) : (closed r).scopes = r.scopes.closed .role := by
  funext kind
  cases kind <;> rfl

theorem declare_walks (inner : BodyWalks body f) {role : Value} (named : role ≠ .null)
    (title description : Value) : (declare role title description body).Walks fun σ =>
      (f (σ.opened .role)).map (·.closed .role) := by
  have inside := (walks_emit (.roleDeclared role)).then fun _ => inner.getD
  exact ((register_walks role title description).operate ..).then fun _ =>
    (walks_modifyFields _ _ (scopes_opened named)).bind fun _ => inside.ensuring _ _ scopes_closed

theorem current_walks (fault : ScopeFault) : (current fault).Walks (·.need .role) := by
  refine (walks_requireField ..).then fun _ => walks_reader fun s intact => ?_
  cases isOpen : s.reader.role with
  | none =>
    rw [Scopes.need_of_closed (by simp [Reader.scopes, isOpen])]
    exact walksAt_refuse intact fun _ => rfl
  | some role =>
    rw [Scopes.need_of_open (by simp [Reader.scopes, isOpen])]
    exact (walks_pure role).walks s intact

theorem includes_walks (names : List Value) : (includes names).Walks (·.need .role) :=
  (current_walks _).last fun role =>
    ((walks_requireKey role).then fun _ => walks_modifyTables _).onField ..

theorem title_walks (text : Value) : (title text).Walks (·.need .role) :=
  (current_walks _).last fun role => setTitle_walks role text

theorem description_walks (text : Value) : (description text).Walks (·.need .role) :=
  (current_walks _).last fun role => setDescription_walks role text

end Role

namespace Grant

theorem write_walks {change : Reader → Reader} {moved : Scopes → Scopes}
    (same : ∀ r, (change r).scopes = moved r.scopes) :
    (write change).Walks fun σ => some (moved σ) :=
  ⟨fun s intact => walksAt_of_run (run_write intact change) ⟨intact.changes, intact.stray⟩ rfl
    (congrArg some (same s.reader).symm)⟩

theorem scopes_opened (place : Nat) (r : Reader) :
    (opened place r).scopes = r.scopes.opened .grant := by
  funext kind
  cases kind <;> rfl

theorem scopes_closed (r : Reader) : (closed r).scopes = r.scopes.closed .grant := by
  funext kind
  cases kind <;> rfl

/-- A body that fails leaves its rule open, but then there is a fault. -/
theorem block_walks (inner : BodyWalks body f) (place : Nat) : (block place body).Walks fun σ =>
    if body.isSome then (f (σ.opened .grant)).map (·.closed .grant) else some σ := by
  cases inner with
  | none => exact walks_pure ()
  | some walks =>
    have leaves : (write closed).Walks fun σ => some (σ.closed .grant) :=
      write_walks scopes_closed
    have within := walks.bind fun _ => leaves
    simp only [Option.isSome_some, if_true, Option.map_eq_bind]
    exact (write_walks (scopes_opened place)).bind fun _ => within

theorem appendRule_walks (rule : Rule) : (appendRule rule).Walks some :=
  walks_reader fun s intact => (((walks_pure ()).onField ..).then fun _ =>
    (walks_modifyTables _).then fun _ => walks_pure _).walks s intact

theorem ruleAt_walks (turn place : Nat) : (ruleAt turn place).Walks some :=
  walks_get fun s intact => (walks_pure _).walks s intact

theorem declareRule_walks (inner : BodyWalks body f) (rule : Rule) :
    (declareRule rule body).Walks fun σ =>
      if body.isSome then (f (σ.opened .grant)).map (·.closed .grant) else some σ :=
  walks_get fun s intact => ((appendRule_walks rule).then fun place =>
    (walks_emit (.permissionGranted rule.role rule.context rule.privileges)).then fun _ =>
      (block_walks inner place).last fun _ => ruleAt_walks s.retired.length place).walks s intact

theorem declare_walks (inner : BodyWalks body f) (context privileges : Value) :
    (declare context privileges body).Walks fun σ => (σ.need .role).bind fun σ =>
      if body.isSome then (f (σ.opened .grant)).map (·.closed .grant) else some σ := by
  refine (Role.current_walks _).bind fun role => ?_
  split
  · exact walks_refuse nofun
  · exact declareRule_walks inner _

/-- Of a reader whose fields stand nothing is open but a rule at its place. -/
theorem walks_current {fault : ScopeFault} {next : OpenRule → Action Unit}
    (each : ∀ place, (next (.placed place)).Walks some) :
    (current fault >>= next).Walks (·.need .grant) := by
  refine ⟨fun s intact => ?_⟩
  cases isOpen : s.reader.rule with
  | none =>
    have ran : (current fault >>= next).run s = (refuse (.scope fault) : Action Unit).run s := by
      simp only [current, run_bind, run_requireField intact, run_get, intact.change?,
        intact.stray, isOpen, run_refuse]
    rw [ran, Scopes.need_of_closed (by simp [Reader.scopes, isOpen])]
    exact walksAt_refuse intact fun _ => rfl
  | some place =>
    have ran : (current fault >>= next).run s = (next (.placed place)).run s := by
      simp only [current, run_bind, run_requireField intact, run_get, intact.change?,
        intact.stray, isOpen, run_pure]
    rw [ran, Scopes.need_of_open (by simp [Reader.scopes, isOpen])]
    exact (each place).walks s intact

theorem conditions_walks (given : Value) : (Action.conditions given).Walks some := by
  refine walks_get fun s intact => ?_
  split
  · rename_i failed
    refine walksAt_refuse intact fun out => ?_
    unfold Conditions.read at failed
    split at failed <;> cases failed
    cases out
  · exact walksAt_of_run rfl ⟨intact.changes, intact.stray⟩ rfl rfl

theorem change_walks (place : Nat) (member : String) (argument : Value) (change : Rule → Rule) :
    ((OpenRule.placed place).change member argument change).Walks some :=
  walks_modifyTables fun tables => { tables with rules := tables.rules.modify place change }

theorem addPrivileges_walks (names : List Value) : (addPrivileges names).Walks (·.need .grant) :=
  walks_current fun _ => change_walks ..

theorem restrict_walks (given : Value) (extra : List (String × Value)) :
    (restrict given extra).Walks (·.need .grant) :=
  walks_current fun _ => (conditions_walks _).then fun _ => change_walks ..

end Grant

theorem Access.placeOf_walks (block : Block) (path : List String) :
    (placeOf block path).Walks some := by
  refine walks_get fun s intact => ?_
  split
  · exact (walks_pure _).walks s intact
  · exact walksAt_refuse intact nofun

namespace Program

open Step

theorem noting_walks {α : Type} {answer : α → Answer} {a : Action α} (walks : a.Walks f) :
    (noting answer a).Walks f := walks.last fun _ => walks_returned _

theorem not_isOutside_of_isProper {fault : Fault} (proper : (Step.refuse fault).isProper) :
    ¬ fault.isOutside := by
  cases fault with
  | scope => cases proper
  | _ => exact nofun

variable {paths : Bool}

mutual

theorem runStep_walks : ∀ step : Step, step.isOperational paths → step.isProper →
    (runStep step).Walks step.effect
  | .registerPrivilege name, _, _ => by
    rw [effect_of_plain (fun _ => rfl) rfl]
    exact noting_walks (Privilege.register_walks name)
  | .privilege name context options extra body, operational, proper => by
    obtain ⟨named, inner⟩ := Bool.and_eq_true_iff.mp proper
    rw [effect_privilege]
    exact noting_walks (Privilege.declare_walks (runBody_walks body operational inner)
      (fun same => by rw [same] at named; cases named) ..)
  | .includePrivileges names, _, _ => by
    rw [effect_of_needs (fun _ => rfl) rfl]
    exact noting_walks (Privilege.includes_walks names)
  | .registerRole .., _, _ => by
    rw [effect_of_plain (fun _ => rfl) rfl]
    exact noting_walks (Role.register_walks ..)
  | .role name _ _ body, operational, proper => by
    obtain ⟨named, inner⟩ := Bool.and_eq_true_iff.mp proper
    rw [effect_role]
    exact noting_walks (Role.declare_walks (runBody_walks body operational inner)
      (fun same => by rw [same] at named; cases named) ..)
  | .includeRoles names, _, _ => by
    rw [effect_of_needs (fun _ => rfl) rfl]
    exact noting_walks (Role.includes_walks names)
  | .title text, _, _ => by
    rw [effect_of_needs (fun _ => rfl) rfl]
    exact noting_walks (Role.title_walks text)
  | .description text, _, _ => by
    rw [effect_of_needs (fun _ => rfl) rfl]
    exact noting_walks (Role.description_walks text)
  | .grant context privileges body, operational, proper => by
    have inner := Grant.declare_walks (runBody_walks body operational proper) context privileges
    rw [effect_grant]
    rw [show (runBody body).isSome = body.isSome by cases body <;> rfl] at inner
    exact noting_walks inner
  | .addPrivileges names, _, _ => by
    rw [effect_of_needs (fun _ => rfl) rfl]
    exact noting_walks (Grant.addPrivileges_walks names)
  | .restrict .., _, _ => by
    rw [effect_of_needs (fun _ => rfl) rfl]
    exact noting_walks (Grant.restrict_walks ..)
  | .condition .., _, _ => by
    rw [effect_of_plain (fun _ => rfl) rfl]
    exact noting_walks (walks_pure _)
  | .attempt steps, operational, proper => (run_walks steps operational proper).attempt
  | .follow block path, _, _ => by
    rw [effect_of_plain (fun _ => rfl) rfl]
    exact (Access.placeOf_walks block _).then fun _ => walks_pure ()
  | .overridable block access operation, operational, proper => by
    refine (runStep_walks operation operational proper).congr fun s intact => ?_
    simp only [runStep, run_bind, run_get, intact.change?]
  | .refuse fault, _, proper => walks_refuse (not_isOutside_of_isProper proper)

theorem runBody_walks : ∀ body : Option (List Step), bodyIsOperational paths body →
    bodyIsProper body → BodyWalks (runBody body) (bodyEffect body)
  | none, _, _ => bodyEffect_none ▸ .none
  | some steps, operational, proper => .some (run_walks steps operational proper)

/-- A program comes to a fault of scope where a statement in it strays. -/
theorem run_walks : ∀ steps : List Step, isOperationalProgram paths steps →
    programIsProper steps → (run steps).Walks (programEffect steps)
  | [], _, _ => programEffect_nil ▸ walks_pure ()
  | step :: rest, operational, proper => by
    obtain ⟨first, others⟩ := Bool.and_eq_true_iff.mp operational
    obtain ⟨here, later⟩ := Bool.and_eq_true_iff.mp proper
    rw [programEffect_cons]
    exact (runStep_walks step first here).bind fun _ => run_walks rest others later

end

end Program

open Step in
/-- In a run on a fresh reader in which no faults come up but that statements are out of scope, such
a fault comes up just where a statement stands outside of the block that it needs, or after another
of the same kind within it. By the text alone, a statement outside of such a block is always out of
scope, and where no block stands within one of its kind, nothing else is. Statements of documents
make such programs, too. -/
theorem run_raises_outside {program : Program} {paths : Bool}
    (operational : isOperationalProgram paths program) (proper : programIsProper program)
    {s : Session} (fresh : s.Fresh)
    (only : ∀ fault ∈ s.raised ((Program.run program).run s), fault.isOutside) :
    let raises := ∃ fault ∈ s.raised ((Program.run program).run s), fault.isOutside
    (raises ↔ programStrays false .none program) ∧
      (programStrays true .none program → raises) ∧
      (¬ programNests program → (raises ↔ programStrays true .none program)) := by
  intro raises
  have start : s.reader.scopes = .none := by
    rw [fresh.reader]
    funext kind
    cases kind <;> rfl
  have explains := ((Program.run_walks program operational proper).walks s fresh.intact).raised
  rw [start] at explains
  have runs : raises ↔ programStrays false .none program :=
    (explains.iff only).trans programEffect_eq_none
  refine ⟨runs, fun out => ?_, fun flat => ?_⟩
  · exact runs.mpr (programStrays_of_lexical program (fun _ => id) out)
  · have same : programStrays false .none program = programStrays true .none program :=
      programStrays_eq_lexical program (fun _ isOpen => absurd isOpen Bool.false_ne_true) flat
    rw [runs, same]

def nestedRoles : Program :=
  [.role (.text "keeper") .null .null (some
    [.role (.text "guest") .null .null none, .title (.text "Keeper")])]

/-- The title stands in the text of a role, and where it is given no role is open. -/
theorem run_raises_outside_nested :
    (∃ fault ∈ ({} : Session).raised ((Program.run nestedRoles).run {}), fault.isOutside) ∧
      Step.programNests nestedRoles ∧ ¬ Step.programStrays true .none nestedRoles := by
  have only : ∀ fault ∈ ({} : Session).raised ((Program.run nestedRoles).run {}),
      fault.isOutside := by decide +kernel
  have operational : Step.isOperationalProgram false nestedRoles := rfl
  obtain ⟨raises, -, -⟩ := run_raises_outside operational rfl Session.fresh_default only
  exact ⟨raises.mpr rfl, rfl, Bool.false_ne_true⟩

def nestedPrivileges : Program :=
  [.privilege (.text "manage") .null .null [("includes", .text "read")] (some
    [.privilege (.text "audit") .null .null [] none])]

/-- Faults of scope are not only those that the text tells of. -/
theorem run_raises_inside : ¬ ∀ (program : Program) (paths : Bool) (s : Session),
    Step.isOperationalProgram paths program → Step.programIsProper program → s.Fresh →
    (∀ fault ∈ s.raised ((Program.run program).run s), fault.isOutside) →
      ((∃ fault ∈ s.raised ((Program.run program).run s), fault.isOutside) ↔
        Step.programStrays true .none program) := by
  intro every
  have only : ∀ fault ∈ ({} : Session).raised ((Program.run nestedPrivileges).run {}),
      fault.isOutside := by decide +kernel
  have raises : ∃ fault ∈ ({} : Session).raised ((Program.run nestedPrivileges).run {}),
      fault.isOutside := by decide +kernel
  have strays := (every nestedPrivileges false {} rfl rfl Session.fresh_default only).mp raises
  have within : Step.programStrays true .none nestedPrivileges = false := by decide +kernel
  exact Bool.false_ne_true (within.symm.trans strays)

end AccessPolicy
