import AccessPolicy.Proofs.Custody
import AccessPolicy.Proofs.Trace

/-! Everything that callers do on a reader, one act after the other, and the sessions that they come
to, between two acts and inside of one. No act takes anything out of the tables. -/

namespace AccessPolicy

theorem Value.lt_of_indexIn {length place : Nat} {number : Int} {absence : IndexFault}
    (found : indexIn length number absence = .ok place) : place < length := by
  simp only [indexIn] at found
  split at found
  · cases found
  · generalize (if number < 0 then number + length else number) = counted at found
    by_cases outside : (counted < 0 || (length : Int) ≤ counted) = true
    · rw [if_pos outside] at found
      cases found
    · rw [if_neg outside] at found
      simp only [Bool.or_eq_true, decide_eq_true_eq, not_or] at outside
      have counts : counted.toNat = place := Except.ok.inj found
      omega

open Course

namespace Grant

open AccessPolicy.Action

def numberedCourse (number : Int) (next : Nat → Course) : Course := fun m =>
  match Value.indexIn m.reader.tables.rules.length number .absent with
  | .error fault => refuse fault m
  | .ok place => next place m

def extendCourse (names : Value) (place : Nat) : Course :=
  match names.elements? with
  | some names => make [.privileges place names]
  | none => refuse (.usage (.notCollection names))

theorem placeOf_follows (number : Int) {α : Type} {f : Nat → Action α} {next : Nat → Course}
    (follows : ∀ place, (f place).Follows (next place)) :
    (placeOf number >>= f).Follows (numberedCourse number next) := by
  constructor
  intro s intact
  cases found : Value.indexIn s.reader.tables.rules.length number .absent with
  | error fault =>
    refine (follows_refuse fault).yields_of intact ?_ ?_
    · simp only [placeOf, run_bind, run_reader, found, run_refuse]
    · simp only [numberedCourse, Session.moment, found]
  | ok place =>
    refine (follows place).yields_of intact ?_ ?_
    · simp only [placeOf, run_bind, run_reader, found, run_pure]
    · simp only [numberedCourse, Session.moment, found]

theorem extendPrivileges_follows (number : Int) (names : Value) :
    (extendPrivileges number names).Follows (numberedCourse number (extendCourse names)) := by
  refine placeOf_follows number fun place => ?_
  unfold extendCourse
  cases names.elements? with
  | some names => exact follows_make (.privileges place names) rfl (fun _ => rfl) fun _ _ => rfl
  | none => exact follows_refuse _

theorem attach_follows (number : Int) (conditions : Conditions) :
    (attach number conditions).Follows
      (numberedCourse number fun place => make [.conditions place conditions]) :=
  placeOf_follows number fun place =>
    follows_make (.conditions place conditions) rfl (fun _ => rfl) fun _ _ => rfl

theorem addConditions_follows (number : Int) (given : Value) :
    (addConditions number given).Follows (numberedCourse number (conditionsCourse given)) :=
  placeOf_follows number fun place => conditions_follows given place _ fun _ => rfl

variable {good : Value → Prop}

/-- A number is that of a rule, or it is refused. -/
theorem numberedCourse_traced {number : Int} {next : Nat → Course}
    (each : ∀ place (m : Moment), place < m.reader.tables.rules.length →
      (next place).TracedAt good m) : (numberedCourse number next).Traced good := by
  constructor
  intro m
  unfold TracedAt numberedCourse
  split
  · exact .refused _
  · exact each _ m (Value.lt_of_indexIn ‹_›)

theorem extendCourse_tracedAt {names : Value} {place : Nat} {m : Moment}
    (known : place < m.reader.tables.rules.length)
    (fine : ∀ elements, names.elements? = some elements → ∀ name ∈ elements, good name) :
    (extendCourse names place).TracedAt good m := by
  unfold TracedAt extendCourse
  cases parts : names.elements? with
  | some elements => exact .privileges (.inr known) (fine elements parts)
  | none => exact .refused _

end Grant

/-- One act of callers on a reader: a turn, statements for one of its blocks, or an addition to the
rule with a number, past all blocks. Conditions are added as a tree, or as a map that is read. -/
inductive Act where
  | turn (turn : Turn)
  | statements (block : Block) (given : Value)
  | extend (rule : Int) (names : Value)
  | attach (rule : Int) (conditions : Conditions)
  | attachMap (rule : Int) (given : Value)

namespace Turn

open Program (anyName)

theorem course_traced : ∀ turn : Turn, turn.course.Traced anyName
  | .parse _ label => ⟨fun _ => Trace.append (.serial _)
    ((Document.course_traced (Program.course_traced _) label).at_ _)⟩
  | .build program _ => Program.course_traced program

end Turn

namespace Act

def action : Act → Action Unit
  | .turn t => t.action
  | .statements block given => Program.run (Statement.program block given)
  | .extend rule names => Grant.extendPrivileges rule names
  | .attach rule conditions => Grant.attach rule conditions
  | .attachMap rule given => Grant.addConditions rule given

def course : Act → Course
  | .turn t => t.course
  | .statements block given => Program.course (Statement.program block given)
  | .extend rule names => Grant.numberedCourse rule (Grant.extendCourse names)
  | .attach rule conditions =>
    Grant.numberedCourse rule fun place => make [.conditions place conditions]
  | .attachMap rule given => Grant.numberedCourse rule (Grant.conditionsCourse given)

theorem action_follows : ∀ act : Act, act.action.Follows act.course
  | .turn t => t.action_follows
  | .statements block given => Program.run_follows _ (Statement.program_isOperational block given)
  | .extend rule names => Grant.extendPrivileges_follows rule names
  | .attach rule conditions => Grant.attach_follows rule conditions
  | .attachMap rule given => Grant.addConditions_follows rule given

/-- Every act comes to a trace. -/
theorem course_traced : ∀ act : Act, act.course.Traced Program.anyName
  | .turn t => t.course_traced
  | .statements .. => Program.course_traced _
  | .extend .. => Grant.numberedCourse_traced fun _ _ known =>
    Grant.extendCourse_tracedAt known fun _ _ _ _ => trivial
  | .attach _ conditions => Grant.numberedCourse_traced fun _ _ known =>
    .conditions conditions (.inr known)
  | .attachMap _ given => Grant.numberedCourse_traced fun _ _ known =>
    Grant.conditionsCourse_tracedAt given (.inr known)

/-- A session inside an act or after it: what has happened up to there are the first of the updates
of the act. -/
structure Leads (act : Act) (s u : Session) (past : Journal) : Prop where
  first : past <+: (act.course s.moment).journal
  advance : s.Advances u past

/-- The act itself comes to the end of its updates. -/
theorem leads_run (act : Act) {s : Session} (intact : s.Intact) :
    act.Leads s (act.action.run s).2 (act.course s.moment).journal :=
  ⟨List.prefix_refl _, (act.action_follows.yields s intact).advance⟩

end Act

namespace Session

/-- The sessions between acts, if every act meets a condition in the session it starts in. -/
inductive ReachableBy (condition : Act → Session → Prop) : Session → Prop
  | fresh {s : Session} : s.Fresh → ReachableBy condition s
  | act {s : Session} (act : Act) : ReachableBy condition s → condition act s →
    ReachableBy condition (act.action.run s).2

abbrev Reachable (s : Session) : Prop := ReachableBy (fun _ _ => True) s

/-- The sessions between acts and inside of them. -/
def Reached (u : Session) : Prop := ∃ s, Reachable s ∧ ∃ act past, Act.Leads act s u past

theorem ReachableBy.intact {condition : Act → Session → Prop} {s : Session}
    (reachable : ReachableBy condition s) : s.Intact := by
  induction reachable with
  | fresh fresh => exact fresh.intact
  | act act _ _ ih => exact (act.leads_run ih).advance.intact

theorem ReachableBy.reachable {condition : Act → Session → Prop} {s : Session}
    (reachable : ReachableBy condition s) : s.Reachable := by
  induction reachable with
  | fresh fresh => exact .fresh fresh
  | act act _ _ ih => exact .act act ih trivial

/-- What holds of the reader at first and after every act that started from where it held, holds
between all acts. -/
theorem Reachable.reader {holds : Reader → Prop} (first : holds {})
    (each : ∀ (act : Act) (m : Moment), holds m.reader →
      holds (m.after (act.course m).journal).reader) {s : Session} (reachable : s.Reachable) :
    holds s.reader := by
  induction reachable with
  | fresh fresh => rwa [fresh.reader]
  | act act before _ ih =>
    rw [(act.leads_run (ReachableBy.intact before)).advance.reader]
    exact each act _ ih

theorem Reached.intact {u : Session} (reached : u.Reached) : u.Intact := by
  obtain ⟨s, -, act, past, leads⟩ := reached
  exact leads.advance.intact

/-- A session inside an act that is the first one, when it has come through so many updates. -/
def midway (act : Act) (count : Nat) (sink : Sink) : Session :=
  let past := (act.course (Session.moment { sink })).journal.take count
  let now := (Session.moment { sink }).after past
  { sink, reader := now.reader, serial := now.serial, log := Journal.events past }

theorem reached_midway (act : Act) (count : Nat) (sink : Sink) :
    (midway act count sink).Reached := by
  have fresh : Session.Fresh { sink } := ⟨⟨rfl, rfl⟩, rfl⟩
  exact ⟨{ sink }, .fresh fresh, act, _, List.take_prefix .., fresh.intact.advances _⟩

def keeping (sink : Sink) : Session :=
  midway (.turn (.build [.role (.text "keeper") .null .null none] rfl)) 2 sink

theorem reached_keeping (sink : Sink) : (keeping sink).Reached := reached_midway ..

end Session

/-- Whatever has been reached, an act that starts there only adds to the tables: at its end, whether
it fails or not, and everywhere inside of it. -/
theorem acts_grow_tables {s : Session} (reached : s.Reached) (act : Act) :
    s.reader.tables.Grows (act.action.run s).2.reader.tables ∧
      ∀ u past, act.Leads s u past → s.reader.tables.Grows u.reader.tables := by
  have each (u : Session) (past : Journal) (leads : act.Leads s u past) :
      s.reader.tables.Grows u.reader.tables := by
    rw [leads.advance.tables]
    exact Journal.tables_grow past _
  exact ⟨each _ _ (act.leads_run reached.intact), each⟩

def untimelyTurn : Turn := .build [.addPrivileges [.text "read"], .title (.text "Keepers")] rfl

/-- An act that fails has added to a rule that a fault had left open, and has kept its place. -/
theorem acts_grow_tables_failing :
    ∃ s t : Session, s.Reached ∧
      (Act.turn untimelyTurn).action.run s = (.error (.scope .titleOutsideRole), t) ∧
      s.reader.tables.rules = [⟨.text "keeper", [], .text "rooms", []⟩] ∧
      t.reader.tables.rules = [⟨.text "keeper", [.text "read"], .text "rooms", []⟩] ∧
      s.reader.tables.Grows t.reader.tables := by
  have start : Session.Reachable {} := .fresh Session.fresh_default
  have reached : ((Act.turn failingTurn).action.run {}).2.Reached :=
    ⟨{}, start, .turn failingTurn, _, Act.leads_run _ start.intact⟩
  exact ⟨_, _, reached, rfl, rfl, rfl, (acts_grow_tables reached (.turn untimelyTurn)).1⟩

end AccessPolicy
