import AccessPolicy.Proofs.Incremental

/-! The two kinds of blocks do not meet. What the statements of a block do is decided by the part of
the reader that belongs to its kind, and changes no other part, so that the order between the kinds
and the grouping into documents do not matter. -/

namespace AccessPolicy

open Course

/-- The part of a moment that belongs to a kind of block. Where events go is shared; serials are
taken by conditions only. -/
def Moment.part (m : Moment) : Block → Moment
  | .privileges =>
    { reader :=
        { tables :=
            { privileges := m.reader.tables.privileges
              privilegeHierarchy := m.reader.tables.privilegeHierarchy }
          privilege := m.reader.privilege
          context := m.reader.context }
      sink := m.sink }
  | .authorization =>
    { reader :=
        { tables := { m.reader.tables with privileges := [], privilegeHierarchy := {} }
          role := m.reader.role
          rule := m.reader.rule }
      serial := m.serial
      sink := m.sink }

/-- A moment is made of its two parts. -/
theorem Moment.ext_parts {m n : Moment} (parts : ∀ block, m.part block = n.part block) : m = n := by
  obtain ⟨⟨⟨⟩, _, _, _, _⟩, _, _⟩ := m
  obtain ⟨⟨⟨⟩, _, _, _, _⟩, _, _⟩ := n
  have privileges := parts .privileges
  have authorization := parts .authorization
  simp only [part, Moment.mk.injEq, Reader.mk.injEq, Tables.mk.injEq] at privileges authorization
  simp_all

namespace Update

def isOf : Block → Update → Bool
  | .privileges, .enterPrivilege .. | .privileges, .leavePrivilege | .privileges, .privilege _
  | .privileges, .edge .. | _, .event _ => true
  | .authorization, .enterPrivilege .. | .authorization, .leavePrivilege
  | .authorization, .privilege _ | .authorization, .edge .. => false
  | .authorization, _ => true
  | .privileges, _ => false

theorem part_moment (block : Block) (u : Update) (m : Moment) :
    (u.moment (m.part block)).part block = (u.moment m).part block := by
  cases block <;> cases u <;> rfl

theorem part_moment_other {block other : Block} (apart : other ≠ block) {u : Update}
    (own : u.isOf block) (m : Moment) : (u.moment m).part other = m.part other := by
  cases block <;> cases other <;> first | exact absurd rfl apart | skip
  all_goals cases u <;> cases own <;> rfl

end Update

namespace Journal

variable {block : Block}

/-- What updates make of the part of a kind of block is told from this part. -/
theorem part_after (journal : Journal) (m : Moment) :
    ((m.part block).after journal).part block = (m.after journal).part block := by
  have each {n : Moment} (same : n.part block = m.part block) :
      (n.after journal).part block = (m.after journal).part block := by
    induction journal generalizing m n with
    | nil => exact same
    | cons u rest ih =>
      rw [Moment.after_cons, Moment.after_cons]
      exact ih _ (by rw [← Update.part_moment, same, Update.part_moment])
  exact each (by cases block <;> rfl)

theorem part_after_other {other : Block} (apart : other ≠ block) {journal : Journal}
    (own : ∀ u ∈ journal, u.isOf block) (m : Moment) :
    (m.after journal).part other = m.part other := by
  induction journal generalizing m with
  | nil => rfl
  | cons u rest ih =>
    obtain ⟨first, others⟩ := List.forall_mem_cons.mp own
    rw [Moment.after_cons, ih others, Update.part_moment_other apart first]

end Journal

/-- A course that reads and changes the part of one kind of block only. -/
structure Separate (block : Block) (c : Course) : Prop where
  reads : ∀ m : Moment, c (m.part block) = c m
  changes : ∀ m : Moment, ∀ u ∈ (c m).journal, u.isOf block

namespace Separate

variable {block : Block} {c d : Course}

theorem congr (separate : Separate block c) {m n : Moment} (same : m.part block = n.part block) :
    c m = c n := by
  rw [← separate.reads m, same, separate.reads n]

theorem done : Separate block done := ⟨fun _ => rfl, fun _ => nofun⟩

theorem refuse (fault : Fault) : Separate block (refuse fault) := ⟨fun _ => rfl, fun _ => nofun⟩

theorem make {journal : Journal} (own : ∀ u ∈ journal, u.isOf block) :
    Separate block (make journal) := ⟨fun _ => rfl, fun _ => own⟩

theorem single {u : Update} (own : u.isOf block) : Separate block (Course.make [u]) :=
  make fun _ held => List.mem_singleton.mp held ▸ own

theorem emit (event : LogEvent) : Separate block (emit event) := by
  constructor
  · intro m
    cases block <;> rfl
  · intro m u held
    rcases emit_cases event m with same | same | ⟨fault, same⟩ <;> rw [same] at held
    · cases held
    · cases List.mem_singleton.mp held
      cases block <;> rfl
    · cases held

theorem andThen (first : Separate block c) (second : Separate block d) :
    Separate block (c.andThen d) := by
  have next (m : Moment) :
      d ((m.part block).after (c m).journal) = d (m.after (c m).journal) :=
    second.congr (Journal.part_after _ m)
  constructor
  · intro m
    simp only [Course.andThen, first.reads, next]
  · intro m u held
    cases came : (c m).result with
    | error =>
      simp only [Course.andThen, came] at held
      exact first.changes m u held
    | ok =>
      simp only [Course.andThen, came] at held
      exact (List.mem_append.mp held).elim (first.changes m u) (second.changes _ u)

theorem ending (separate : Separate block c) {last : Update} (own : last.isOf block) :
    Separate block (c.ending last) := by
  constructor
  · intro m
    simp only [Course.ending, separate.reads]
  · intro m u held
    rcases List.mem_append.mp held with before | isLast
    · exact separate.changes m u before
    · exact List.mem_singleton.mp isLast ▸ own

/-- The next course is chosen by the part of the kind of block. -/
theorem chosen (next : Moment → Course) (each : ∀ m, Separate block (next m))
    (same : ∀ m, c m = next (m.part block) m) : Separate block c := by
  constructor
  · intro m
    have twice : (m.part block).part block = m.part block := by cases block <;> rfl
    rw [same, same m, twice, (each _).reads]
  · intro m
    rw [same]
    exact (each _).changes m

/-- A course for what is open in the part, if anything is. -/
theorem of_open {α : Type} (isOpen : Moment → Option α) (fault : ScopeFault)
    (next : Moment → α → Course) (each : ∀ m a, Separate block (next m a))
    (without : ∀ m, isOpen (m.part block) = none → c m = Course.refuse (.scope fault) m)
    (within : ∀ m a, isOpen (m.part block) = some a → c m = next (m.part block) a m) :
    Separate block c := by
  refine chosen (fun m => (isOpen m).elim (Course.refuse (.scope fault)) (next m)) (fun m => ?_)
    fun m => ?_
  · cases isOpen m with
    | none => exact refuse _
    | some a => exact each m a
  · cases found : isOpen (m.part block) with
    | none => exact without m found
    | some a => exact within m a found

theorem keyed (key : Value) {u : Update} (own : u.isOf block) : Separate block (keyed key u) := by
  unfold Course.keyed
  split
  · exact refuse _
  · exact single own

/-- Where it completes is told from the part, and its end has the same part. -/
theorem completes (separate : Separate block c) {m n k : Moment}
    (same : m.part block = n.part block) (completes : c.Completes m k) :
    ∃ l, c.Completes n l ∧ l.part block = k.part block := by
  obtain ⟨result, rfl⟩ := completes
  have runs := separate.congr same
  refine ⟨_, ⟨runs ▸ result, rfl⟩, ?_⟩
  rw [← Journal.part_after, ← same, ← runs, Journal.part_after]

/-- It keeps the part of the other kind. -/
theorem part_other (separate : Separate block c) {other : Block} (apart : other ≠ block)
    {m k : Moment} (completes : c.Completes m k) : k.part other = m.part other :=
  completes.moment ▸ Journal.part_after_other apart (separate.changes m) m

end Separate

abbrev BodySeparate (block : Block) (body : Option Course) : Prop := ∀ c ∈ body, Separate block c

theorem BodySeparate.getD {block : Block} {body : Option Course} (inner : BodySeparate block body) :
    Separate block (body.getD done) := of_getD .done inner

variable {body : Option Course}

namespace Privilege

open Separate

theorem includeCourse_separate (name context : Value) (names : List Value) :
    Separate .privileges (includeCourse name context names) := by
  induction names with
  | nil => exact done
  | cons lower rest ih => exact (single rfl).andThen ((keyed name rfl).andThen ih)

theorem includesCourse_separate (names : List Value) :
    Separate .privileges (includesCourse names) := by
  refine of_open (·.reader.privilege) (.includesOutsidePrivilege names)
    (fun m name => includeCourse name m.reader.context (Value.leavesOf names))
    (fun m name => includeCourse_separate ..) (fun m none => ?_) fun m name some => ?_
  · simp only [includesCourse, show m.reader.privilege = _ from none]
  · simp only [includesCourse, show m.reader.privilege = _ from some]
    rfl

theorem blockCourse_separate (inner : BodySeparate .privileges body) (name context : Value)
    (options : Table Value) : Separate .privileges (blockCourse name context options body) := by
  refine (single rfl).andThen (ending ?_ rfl)
  refine (single rfl).andThen ((Separate.emit _).andThen ?_)
  exact inner.getD.andThen (of_includeGivenCourse done includesCourse_separate options)

theorem course_separate (inner : BodySeparate .privileges body) (name context options : Value)
    (extra : List (String × Value)) :
    Separate .privileges (course name context options extra body) := by
  obtain ⟨fault, same⟩ | ⟨within, known, same⟩ := course_cases name context options extra
  · rw [same]
    exact refuse fault
  · rw [same]
    exact blockCourse_separate inner ..

end Privilege

namespace Role

open Separate

theorem givenCourse_separate {set : Course} (separate : Separate .authorization set) (text : Value) :
    Separate .authorization (givenCourse text set) := of_givenCourse done separate text

theorem course_separate (inner : BodySeparate .authorization body) (role title description : Value) :
    Separate .authorization (course role title description body) := by
  have registers : Separate .authorization (registerCourse role title description) :=
    (single rfl).andThen ((givenCourse_separate (keyed role rfl) title).andThen
      (givenCourse_separate (keyed role rfl) description))
  exact registers.andThen
    ((single rfl).andThen (((Separate.emit _).andThen inner.getD).ending rfl))

theorem currentCourse_separate {fault : ScopeFault} {next : Value → Course}
    (each : ∀ role, Separate .authorization (next role)) :
    Separate .authorization (currentCourse fault next) := by
  refine of_open (·.reader.role) fault (fun _ => next) (fun _ => each) (fun m none => ?_) fun m role some => ?_
  · simp only [currentCourse, show m.reader.role = _ from none]
  · simp only [currentCourse, show m.reader.role = _ from some]

end Role

namespace Grant

open Separate

theorem closing_separate {c : Course} (inner : Separate .authorization c) :
    Separate .authorization (closing c) := by
  constructor
  · intro m
    simp only [closing, inner.reads]
  · intro m u held
    unfold closing at held
    split at held <;> rcases List.mem_append.mp held with before | isLast
    · exact inner.changes m u before
    · exact List.mem_singleton.mp isLast ▸ rfl
    · exact inner.changes m u before
    · exact List.mem_singleton.mp isLast ▸ rfl

theorem blockCourse_separate (inner : BodySeparate .authorization body) (place : Nat) :
    Separate .authorization (blockCourse place body) := by
  cases body with
  | none => exact done
  | some c => exact (single rfl).andThen (closing_separate (inner c rfl))

theorem course_separate (inner : BodySeparate .authorization body) (context privileges : Value) :
    Separate .authorization (course context privileges body) := by
  refine Role.currentCourse_separate fun role => ?_
  split
  · exact refuse _
  · refine chosen (fun m => (Course.make [.rule _]).andThen
      ((Course.emit (.permissionGranted ..)).andThen
        (blockCourse m.reader.tables.rules.length body))) (fun m => ?_) fun m => rfl
    exact (single rfl).andThen ((Separate.emit _).andThen (blockCourse_separate inner _))

theorem currentCourse_separate {fault : ScopeFault} {next : Nat → Course}
    (each : ∀ place, Separate .authorization (next place)) :
    Separate .authorization (currentCourse fault next) := by
  refine of_open (·.reader.rule) fault (fun _ => next) (fun _ => each) (fun m none => ?_)
    fun m place some => ?_
  · simp only [currentCourse, show m.reader.rule = _ from none]
  · simp only [currentCourse, show m.reader.rule = _ from some]

theorem conditionsCourse_separate (given : Value) (place : Nat) :
    Separate .authorization (conditionsCourse given place) := by
  refine chosen (fun k => fun _ => conditionsCourse given place k) (fun k => ⟨fun _ => rfl, fun _ => ?_⟩)
    fun m => rfl
  unfold conditionsCourse
  split
  · exact nofun
  · exact List.forall_mem_cons.mpr ⟨rfl, List.forall_mem_singleton.mpr rfl⟩

end Grant

namespace Statement

open Separate

/-- What comes of a statement keeps to the kind of its block if its body does. -/
theorem makes_separate {block : Block} {keyword argument : Value} {options : List (Value × Value)}
    {c : Course} (makes : Makes block keyword argument options c)
    (inner : BodySeparate block (optionBody block options)) : Separate block c := by
  cases makes with
  | refused fault => exact refuse _
  | privilege => exact Privilege.course_separate inner ..
  | includePrivileges => exact Privilege.includesCourse_separate _
  | role => exact Role.course_separate inner ..
  | includeRoles | title | description =>
    exact Role.currentCourse_separate fun role => keyed role rfl
  | grant => exact Grant.course_separate inner ..
  | addPrivileges => exact Grant.currentCourse_separate fun _ => single rfl
  | restrict => exact Grant.currentCourse_separate (Grant.conditionsCourse_separate _)

/-- Statements, at whatever depth, keep to the kind of their block. -/
theorem program_separate (block : Block) (value : Value) :
    Separate block (Program.course (program block value)) :=
  course_induction done refuse andThen makes_separate value

end Statement

namespace Document

/-- The kind of block that a name at the top of a document stands for, if its statements are read. -/
def kind? : Value → Option Block
  | .text "privileges" => some .privileges
  | .text "authorization" => some .authorization
  | _ => none

/-- Null, or a mapping of blocks: of the two kinds, and others whose content is not read. -/
def IsOfBlocks (value : Value) : Prop :=
  ∃ blocks, blocksOf? value = some blocks ∧
    ∀ b ∈ blocks, (kind? b.1).isSome ∨ b.1 = .text "contexts"

/-- The blocks of documents that are read, in order, with their kinds. -/
def blocks (documents : List Value) : List (Block × Value) :=
  documents.flatMap fun value =>
    ((blocksOf? value).getD []).filterMap fun b => (kind? b.1).map (·, b.2)

def ofKind (block : Block) (blocks : List (Block × Value)) : List Value :=
  (blocks.filter (·.1 = block)).map Prod.snd

def blocksProgram (blocks : List (Block × Value)) : Program :=
  blocks.flatMap fun b => Statement.program b.1 b.2

def kindProgram (block : Block) (blocks : List (Block × Value)) : Program :=
  (ofKind block blocks).flatMap (Statement.program block)

theorem blockProgram_of_kind {name : Value} {block : Block} (kind : kind? name = some block)
    (statements : Value) : blockProgram name statements = Statement.program block statements := by
  unfold kind? at kind
  split at kind <;> cases kind <;> rfl

theorem program_ofBlocks {value : Value} (ofBlocks : IsOfBlocks value) :
    program value = blocksProgram (blocks [value]) := by
  obtain ⟨entries, form, known⟩ := ofBlocks
  rw [program_of_blocks form, blocks, List.flatMap_singleton, form, Option.getD_some]
  clear form
  induction entries with
  | nil => rfl
  | cons b rest ih =>
    obtain ⟨first, others⟩ := List.forall_mem_cons.mp known
    rw [List.flatMap_cons, ih others, blocksProgram, blocksProgram, List.filterMap_cons]
    cases kind : kind? b.1 with
    | none =>
      rw [kind] at first
      rw [first.resolve_left Bool.false_ne_true]
      rfl
    | some block =>
      rw [blockProgram_of_kind kind]
      rfl

theorem values_ofBlocks {values : List Value} (ofBlocks : ∀ v ∈ values, IsOfBlocks v) :
    values.flatMap program = blocksProgram (blocks values) := by
  induction values with
  | nil => rfl
  | cons value rest ih =>
    obtain ⟨first, others⟩ := List.forall_mem_cons.mp ofBlocks
    rw [List.flatMap_cons, ih others, program_ofBlocks first]
    simp only [blocksProgram, blocks, List.flatMap_cons, List.flatMap_append, List.flatMap_nil,
      List.append_nil]

theorem kindProgram_cons_same (block : Block) (value : Value) (rest : List (Block × Value)) :
    kindProgram block ((block, value) :: rest) =
      Statement.program block value ++ kindProgram block rest := by
  simp [kindProgram, ofKind]

theorem kindProgram_cons_other {block other : Block} (apart : other ≠ block) (value : Value)
    (rest : List (Block × Value)) :
    kindProgram other ((block, value) :: rest) = kindProgram other rest := by
  simp [kindProgram, ofKind, Ne.symm apart]

theorem kindProgram_separate (block : Block) (blocks : List (Block × Value)) :
    Separate block (Program.course (kindProgram block blocks)) := by
  unfold kindProgram
  induction ofKind block blocks with
  | nil => exact .done
  | cons value rest ih =>
    rw [List.flatMap_cons, Program.course_append]
    exact (Statement.program_separate block value).andThen ih

variable {blocks : List (Block × Value)} {m n : Moment}

/-- Where blocks complete in some order, those of each kind complete on their own, with what they
come to together as their part of it. -/
theorem completes_kinds (completes : (Program.course (blocksProgram blocks)).Completes m n)
    (block : Block) : ∃ k, (Program.course (kindProgram block blocks)).Completes m k ∧
      k.part block = n.part block := by
  induction blocks generalizing m with
  | nil => exact ⟨n, completes, rfl⟩
  | cons b rest ih =>
    obtain ⟨kind, value⟩ := b
    rw [blocksProgram, List.flatMap_cons, Program.course_append] at completes
    obtain ⟨k, first, others⟩ := completes_andThen.mp completes
    obtain ⟨l, later, same⟩ := ih others
    by_cases own : block = kind
    · subst own
      rw [kindProgram_cons_same, Program.course_append]
      exact ⟨l, completes_andThen.mpr ⟨k, first, later⟩, same⟩
    · -- The first block is of the other kind, and has changed nothing that counts here.
      have kept := (Statement.program_separate kind value).part_other own first
      obtain ⟨l', now, like⟩ := (kindProgram_separate block rest).completes kept later
      rw [kindProgram_cons_other own]
      exact ⟨l', now, like.trans same⟩

/-- Where the blocks of each kind complete on their own, all of them complete in their order. -/
theorem completes_of_kinds
    (kinds : ∀ block, ∃ k, (Program.course (kindProgram block blocks)).Completes m k) :
    ∃ n, (Program.course (blocksProgram blocks)).Completes m n := by
  induction blocks generalizing m with
  | nil => exact ⟨m, completes_done.mpr rfl⟩
  | cons b rest ih =>
    obtain ⟨kind, value⟩ := b
    obtain ⟨own, completes⟩ := kinds kind
    rw [kindProgram_cons_same, Program.course_append] at completes
    obtain ⟨k, first, others⟩ := completes_andThen.mp completes
    have later (block : Block) :
        ∃ l, (Program.course (kindProgram block rest)).Completes k l := by
      by_cases own : block = kind
      · exact own ▸ ⟨_, others⟩
      · obtain ⟨l, alone⟩ := kinds block
        rw [kindProgram_cons_other own] at alone
        have kept := (Statement.program_separate kind value).part_other own first
        obtain ⟨l', now, -⟩ := (kindProgram_separate block rest).completes kept.symm alone
        exact ⟨l', now⟩
    obtain ⟨n, all⟩ := ih later
    rw [blocksProgram, List.flatMap_cons, Program.course_append]
    exact ⟨n, completes_andThen.mpr ⟨k, first, all⟩⟩

/-- Blocks that are the same kind by kind come to the same, in whatever order. -/
theorem completes_of_same_kinds {others : List (Block × Value)}
    (same : ∀ block, ofKind block blocks = ofKind block others)
    (completes : (Program.course (blocksProgram blocks)).Completes m n) :
    (Program.course (blocksProgram others)).Completes m n := by
  have alike (block : Block) : kindProgram block blocks = kindProgram block others := by
    rw [kindProgram, kindProgram, same block]
  have each (block : Block) :
      ∃ k, (Program.course (kindProgram block others)).Completes m k := by
    obtain ⟨k, own, -⟩ := completes_kinds completes block
    exact ⟨k, alike block ▸ own⟩
  obtain ⟨n', completes'⟩ := completes_of_kinds each
  have parts (block : Block) : n'.part block = n.part block := by
    obtain ⟨k, own, part⟩ := completes_kinds completes block
    obtain ⟨k', own', part'⟩ := completes_kinds completes' block
    rw [alike block] at own
    rw [← part, ← part', ← own.moment, ← own'.moment]
  exact Moment.ext_parts parts ▸ completes'

/-- Two streams with the same blocks of each kind, however these are mixed and grouped. -/
structure Rearranged (a b : Yaml.Documents) : Prop where
  blocks : ∀ value ∈ a.values ++ b.values, IsOfBlocks value
  ends : a.fault? = none ∧ b.fault? = none
  same : ∀ block, ofKind block (Document.blocks a.values) = ofKind block (Document.blocks b.values)

namespace Rearranged

variable {a b : Yaml.Documents}

theorem symm (rearranged : Rearranged a b) : Rearranged b a where
  blocks value held := rearranged.blocks value (List.mem_append.mpr (List.mem_append.mp held).symm)
  ends := rearranged.ends.symm
  same block := (rearranged.same block).symm

/-- Where one of the streams is read, so is the other, and leads to the same moment. -/
theorem completes (rearranged : Rearranged a b) {aLabel : Option String}
    (read : (streamCourse a aLabel).Completes m n) (bLabel : Option String) :
    (streamCourse b bLabel).Completes m n := by
  have ofBlocks := List.forall_mem_append.mp rearranged.blocks
  have walked := (completes_streamCourse.mp read).2
  rw [values_ofBlocks ofBlocks.1] at walked
  refine completes_streamCourse.mpr ⟨rearranged.ends.2, ?_⟩
  rw [values_ofBlocks ofBlocks.2]
  exact completes_of_same_kinds rearranged.same walked

end Rearranged

end Document

/-- Serials do not decide the course of a program. -/
theorem Session.frame_of_reader {s t : Session} (reader : t.reader = s.reader)
    (sink : t.sink = s.sink) : t.moment.frame = s.moment.frame.moved 0 := by
  simp [Moment.frame, Session.moment, Frame.moved, reader, sink]

theorem Journal.unnumbered_of_moved {j k : Journal} (moved : Journal.Moved 0 j k) :
    k.map Update.unnumbered = j.map Update.unnumbered := by
  have still : Journal.moved 0 j = j := by
    refine (List.map_congr_left fun u _ => ?_).trans (List.map_id j)
    cases u <;> simp [Update.moved]
  rw [moved, still]

theorem Course.completes_of_isOk {c : Course} {m : Moment} (ok : (c m).result.isOk) :
    c.Completes m (m.after (c m).journal) := by
  refine ⟨?_, rfl⟩
  cases came : (c m).result with
  | error => rw [came] at ok; cases ok
  | ok => rfl

/-- From wherever a reader has come to, a stream of documents is accepted if another one is that has
the same blocks of each kind, and the tables are then the same. Bare values in conditions are
compared by what they are, unless their serials are counted from the same one. -/
theorem readDocuments_rearranged {a b : Yaml.Documents} (rearranged : Document.Rearranged a b)
    (aLabel bLabel : Option String) {s t : Session} (intact : s.Intact) (intact' : t.Intact)
    (reader : t.reader = s.reader) (sink : t.sink = s.sink) :
    let first := (Action.readDocuments a aLabel).run s
    let second := (Action.readDocuments b bLabel).run t
    (first.1.isOk ↔ second.1.isOk) ∧
      (first.1.isOk → second.2.reader.tables.unnumbered = first.2.reader.tables.unnumbered ∧
        (t.serial = s.serial → second.2.reader.tables = first.2.reader.tables)) := by
  intro first second
  obtain ⟨result, tables⟩ := readDocuments_run intact a aLabel
  obtain ⟨result', tables'⟩ := readDocuments_run intact' b bLabel
  -- The second stream has the same outcome with the serials of the first session.
  obtain ⟨here, moved⟩ := (@Document.streamCourse_moves b bLabel _).moves
    s.moment t.moment (Session.frame_of_reader reader sink)
  rw [here] at result'
  have together {n : Moment} (read : (Document.streamCourse a aLabel).Completes s.moment n) :
      Journal.tables (Document.streamCourse b bLabel s.moment).journal s.reader.tables =
        first.2.reader.tables := by
    have other := rearranged.completes read bLabel
    have same := congrArg (·.reader.tables) (read.moment.trans other.moment.symm)
    simp only [Moment.tables_after] at same
    rw [tables]
    exact same.symm
  refine ⟨?_, fun ok => ?_⟩
  · rw [show first.1 = _ from result, show second.1 = _ from result']
    constructor <;> intro ok
    · rw [(rearranged.completes (Course.completes_of_isOk ok) _).result]
      rfl
    · rw [(rearranged.symm.completes (Course.completes_of_isOk ok) _).result]
      rfl
  · rw [show first.1 = _ from result] at ok
    have same := together (Course.completes_of_isOk ok)
    constructor
    · rw [tables', reader, Journal.tables_unnumbered, Journal.unnumbered_of_moved moved,
        ← Journal.tables_unnumbered, same]
    · intro serial
      have moment : t.moment = s.moment := by
        simp only [Session.moment, reader, serial, sink]
      rw [tables', moment, reader, same]

/-- Privileges and authorization mixed: a grant conditional on what is read before it, one kind
within the other's document, a context that says nothing to the reader. -/
def mixedPolicy : Yaml.Documents where
  values := [
    .map [(.text "authorization", .list [
        .map [(.text "role", .text "admin"), (.text "body", .list [
          .map [(.text "has_permission_on", .text "offices"), (.text "to", .text "open"),
            (.text "body", .list [
              .map [(.text "if_attribute", .map [(.text "floor", .int 2)])]])]])]]),
      (.text "privileges", .list [
        .map [(.text "privilege", .text "open"), (.text "includes", .text "read")]])],
    .null,
    .map [(.text "privileges", .list [.map [(.text "privilege", .text "close")]])],
    .map [(.text "authorization", .list [.map [(.text "role", .text "guest")]])]]
  fault? := none
  serial := 0

/-- The blocks of `mixedPolicy`, all privileges first and in other documents. -/
def sortedPolicy : Yaml.Documents where
  values := [
    .map [(.text "contexts", .list [.int 3, .null])],
    .map [(.text "privileges", .list [
        .map [(.text "privilege", .text "open"), (.text "includes", .text "read")]])],
    .map [(.text "privileges", .list [.map [(.text "privilege", .text "close")]]),
      (.text "contexts", .text "unused"),
      (.text "authorization", .list [
        .map [(.text "role", .text "admin"), (.text "body", .list [
          .map [(.text "has_permission_on", .text "offices"), (.text "to", .text "open"),
            (.text "body", .list [
              .map [(.text "if_attribute", .map [(.text "floor", .int 2)])]])]])]])],
    .map [(.text "authorization", .list [.map [(.text "role", .text "guest")]])]]
  fault? := none
  serial := 0

/-- Read after another policy, the mixed and the sorted stream come to the same tables. -/
theorem readDocuments_rearranged_sorted :
    ∃ s : Session, (Action.readDocuments nestedPolicy none).run {} = (.ok (), s) ∧ s.Intact ∧
      Document.Rearranged mixedPolicy sortedPolicy ∧
      ((Action.readDocuments mixedPolicy none).run s).1.isOk ∧
      ((Action.readDocuments sortedPolicy none).run s).1.isOk ∧
      ((Action.readDocuments sortedPolicy none).run s).2.reader.tables =
        ((Action.readDocuments mixedPolicy none).run s).2.reader.tables := by
  have accepted := Action.run_eq_of_isOk
    (show ((Action.readDocuments nestedPolicy none).run {}).1.isOk by decide +kernel)
  obtain ⟨-, read⟩ := (Action.readDocuments_follows nestedPolicy none).yields {}
    Session.fresh_default.intact
  rw [accepted] at read
  have rearranged : Document.Rearranged mixedPolicy sortedPolicy := by
    refine ⟨?_, ⟨rfl, rfl⟩, ?_⟩
    · simp only [mixedPolicy, sortedPolicy, List.cons_append, List.nil_append, List.forall_mem_cons]
      refine ⟨⟨_, rfl, ?_⟩, ⟨_, rfl, ?_⟩, ⟨_, rfl, ?_⟩, ⟨_, rfl, ?_⟩, ⟨_, rfl, ?_⟩, ⟨_, rfl, ?_⟩,
        ⟨_, rfl, ?_⟩, ⟨_, rfl, ?_⟩, nofun⟩
      all_goals simp [Document.kind?]
    · rintro (_ | _) <;> rfl
  have mixed : ((Action.readDocuments mixedPolicy none).run
      ((Action.readDocuments nestedPolicy none).run {}).2).1.isOk := by decide +kernel
  obtain ⟨both, tables⟩ := readDocuments_rearranged rearranged none none read.intact read.intact
    rfl rfl
  exact ⟨_, accepted, read.intact, rearranged, mixed, both.mp mixed, (tables mixed).2 rfl⟩

end AccessPolicy
