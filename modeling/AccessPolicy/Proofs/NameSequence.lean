import AccessPolicy.Policy.Name
import AccessPolicy.Proofs.Atomicity

/-! Calls that take names. However names are nested and over however many calls they are spread,
the sequence of names alone decides what comes of them. -/

namespace AccessPolicy

namespace Value

theorem leavesOf_append (xs ys : List Value) :
    leavesOf (xs ++ ys) = leavesOf xs ++ leavesOf ys := by
  induction xs with
  | nil => rfl
  | cons x rest ih => rw [List.cons_append, leavesOf, leavesOf, ih, List.append_assoc]

/-- A part of nested lists and tuples by its place: at every level the index of an item. A list
that holds itself is not opened. -/
def part? : Value → List Nat → Option Value
  | v, [] => some v
  | .list items, i :: place | .tuple items, i :: place => items[i]?.bind (part? · place)
  | _, _ :: _ => none

def isLeaf : Value → Bool
  | .list _ | .tuple _ => false
  | _ => true

def partOf? (items : List Value) : List Nat → Option Value
  | [] => none
  | i :: place => items[i]?.bind (part? · place)

def placeBehind : List Nat → List Nat
  | [] => []
  | i :: place => (i + 1) :: place

theorem partOf?_behind (v : Value) (items : List Value) (place : List Nat) :
    partOf? (v :: items) (placeBehind place) = partOf? items place := by
  cases place <;> rfl

mutual

def leafPlaces : Value → List (List Nat)
  | .list items | .tuple items => leafPlacesOf items
  | _ => [[]]

def leafPlacesOf : List Value → List (List Nat)
  | [] => []
  | v :: rest => v.leafPlaces.map (0 :: ·) ++ (leafPlacesOf rest).map placeBehind

end

/-- The values found are the parts at some places: at all places with neither a list nor a tuple,
from left to right. -/
structure LeavesAt (part : List Nat → Option Value) (places : List (List Nat))
    (found : List Value) : Prop where
  ordered : places.Pairwise (· < ·)
  all : ∀ place, place ∈ places ↔ ∃ leaf, part place = some leaf ∧ leaf.isLeaf
  parts : found.map some = places.map part

namespace LeavesAt

variable {v : Value} {items : List Value} {places behind : List (List Nat)}
  {found others : List Value}

theorem single (leaf : v.isLeaf) (alone : ∀ i place, v.part? (i :: place) = none) :
    LeavesAt v.part? [[]] [v] where
  ordered := List.pairwise_singleton ..
  all place := by
    cases place with
    | nil => simpa [part?] using leaf
    | cons i place => simp [alone]
  parts := by simp [part?]

theorem nil : LeavesAt (partOf? []) [] [] where
  ordered := .nil
  all place := by cases place <;> simp [partOf?]
  parts := rfl

/-- No leaf of some items is all of them. -/
theorem nil_notMem (leaves : LeavesAt (partOf? items) places found) : [] ∉ places := by
  intro held
  obtain ⟨leaf, none, -⟩ := (leaves.all []).mp held
  cases none

theorem behind_lt {a b : List Nat} (before : a < b) : placeBehind a < placeBehind b := by
  cases a with
  | nil =>
    cases b with
    | nil => exact absurd before (List.lt_irrefl _)
    | cons j b => exact List.nil_lt_cons ..
  | cons i a =>
    cases b with
    | nil => cases before
    | cons j b =>
      apply List.cons_lt_cons_iff.mpr
      rcases List.cons_lt_cons_iff.mp before with lower | ⟨rfl, deeper⟩
      · exact .inl (Nat.succ_lt_succ lower)
      · exact .inr ⟨rfl, deeper⟩

theorem cons (first : LeavesAt v.part? places found)
    (rest : LeavesAt (partOf? items) behind others) :
    LeavesAt (partOf? (v :: items)) (places.map (0 :: ·) ++ behind.map placeBehind)
      (found ++ others) where
  ordered := by
    refine List.pairwise_append.mpr ⟨?_, ?_, ?_⟩
    · exact List.pairwise_map.mpr (first.ordered.imp fun before =>
        List.cons_lt_cons_iff.mpr (.inr ⟨rfl, before⟩))
    · exact List.pairwise_map.mpr (rest.ordered.imp behind_lt)
    · intro a front b back
      obtain ⟨place, -, rfl⟩ := List.mem_map.mp front
      obtain ⟨other, held, rfl⟩ := List.mem_map.mp back
      cases other with
      | nil => exact absurd held rest.nil_notMem
      | cons i other => exact List.cons_lt_cons_iff.mpr (.inl (Nat.succ_pos i))
  all place := by
    rw [List.mem_append, List.mem_map, List.mem_map]
    match place with
    | [] =>
      constructor
      · rintro (⟨_, _, none⟩ | ⟨other, held, none⟩)
        · cases none
        · cases other with
          | nil => exact absurd held rest.nil_notMem
          | cons => cases none
      · rintro ⟨leaf, none, -⟩
        cases none
    | 0 :: place =>
      show _ ↔ ∃ leaf, v.part? place = some leaf ∧ leaf.isLeaf
      rw [← first.all]
      constructor
      · rintro (⟨other, held, front⟩ | ⟨other, -, front⟩)
        · cases front
          exact held
        · cases other <;> cases front
      · exact fun held => .inl ⟨place, held, rfl⟩
    | (i + 1) :: place =>
      show _ ↔ ∃ leaf, partOf? items (i :: place) = some leaf ∧ leaf.isLeaf
      rw [← rest.all]
      constructor
      · rintro (⟨_, _, front⟩ | ⟨other, held, moved⟩)
        · cases front
        · cases other with
          | nil => cases moved
          | cons j other =>
            cases moved
            exact held
      · exact fun held => .inr ⟨i :: place, held, rfl⟩
  parts := by
    rw [List.map_append, List.map_append, first.parts, rest.parts, List.map_map, List.map_map]
    congr 1
    exact List.map_congr_left fun place _ => (partOf?_behind v items place).symm

/-- In a list or a tuple the leaves are those of its items. -/
theorem enclosed (leaves : LeavesAt (partOf? items) places found)
    (deeper : ∀ i place, v.part? (i :: place) = partOf? items (i :: place))
    (closed : ¬ v.isLeaf) : LeavesAt v.part? places found where
  ordered := leaves.ordered
  all place := by
    cases place with
    | nil =>
      constructor
      · exact fun held => absurd held leaves.nil_notMem
      · rintro ⟨leaf, whole, open_⟩
        cases whole
        exact absurd open_ closed
    | cons i place => rw [deeper, leaves.all]
  parts := by
    rw [leaves.parts]
    refine List.map_congr_left fun place held => ?_
    cases place with
    | nil => exact absurd held leaves.nil_notMem
    | cons i place => exact (deeper i place).symm

end LeavesAt

mutual

theorem leavesAt_leaves : (v : Value) → LeavesAt v.part? v.leafPlaces v.leaves
  | .list items => (leavesAt_leavesOf items).enclosed (fun _ _ => rfl) nofun
  | .tuple items => (leavesAt_leavesOf items).enclosed (fun _ _ => rfl) nofun
  | .null | .bool _ | .int _ | .float _ | .text _ | .bytes _ | .date _ | .moment _ | .set _
  | .map _ | .record _ | .condition .. | .literal .. | .userPath .. | .cyclic .. =>
    .single rfl fun _ _ => rfl

theorem leavesAt_leavesOf :
    (items : List Value) → LeavesAt (partOf? items) (leafPlacesOf items) (leavesOf items)
  | [] => .nil
  | v :: rest => (leavesAt_leaves v).cons (leavesAt_leavesOf rest)

end

end Value

/-- What callers are told of a fault, its details aside. -/
def Fault.shown (fault : Fault) : FaultClass × String := (fault.faultClass, fault.message)

/-- What a program comes to from a session: what callers are told of it, and the session that it
leaves, without the notes on what the single operations gave back. -/
def Program.shown (program : Program) (s : Session) :
    Except (FaultClass × String) Unit × Session :=
  (((run program).run s).1.mapError Fault.shown,
    { ((run program).run s).2 with outcomes := [] })

namespace Course

def shown (c : Course) (m : Moment) : Except (FaultClass × String) Unit × Moment × List LogEvent :=
  ((c m).result.mapError Fault.shown, m.after (c m).journal, Journal.events (c m).journal)

end Course

/-- The session that a journal leads to, the notes on single operations aside. -/
theorem Session.Advances.withoutOutcomes {s t : Session} {journal : Journal}
    (advance : s.Advances t journal) :
    { t with outcomes := [] } =
      let m := s.moment.after journal
      { reader := m.reader, sink := m.sink, serial := m.serial, retired := s.retired,
        log := s.log ++ Journal.events journal : Session } := by
  rw [← advance.moment, ← advance.log, ← advance.retired]
  obtain ⟨reader, sink, log, serial, outcomes, changes, retired, stray⟩ := t
  obtain ⟨rfl, rfl⟩ := advance.intact
  rfl

/-- Programs come to the same if their courses show the same. -/
theorem Program.shown_eq {paths : Bool} {p q : Program} {s : Session} (intact : s.Intact)
    (first : Step.isOperationalProgram paths p) (second : Step.isOperationalProgram paths q)
    (same : (course p).shown s.moment = (course q).shown s.moment) :
    Program.shown p s = Program.shown q s := by
  have told {r : Program} (operational : Step.isOperationalProgram paths r) :
      ((run r).run s).1.mapError Fault.shown = ((course r).shown s.moment).1 := by
    rw [Course.shown, ((run_follows r operational).yields s intact).fst_eq]
  have left {r : Program} (operational : Step.isOperationalProgram paths r) :=
    ((run_follows r operational).yields s intact).advance.withoutOutcomes
  obtain ⟨moment, events⟩ := Prod.mk.inj (Prod.mk.inj same).2
  rw [Program.shown, Program.shown, told first, told second, same, left first, left second]
  simp only [moment, events]

/-- Calls of an operation on names: one call on all of them does what a call on the first and a
call on the others do, and it is their sequence that counts. -/
structure Course.Sequential (call : List Value → Course) : Prop where
  split : ∀ xs ys m, (call (xs ++ ys)).shown m = ((call xs).andThen (call ys)).shown m
  leaves : ∀ xs ys m, Value.leavesOf xs = Value.leavesOf ys → (call xs).shown m = (call ys).shown m

namespace Course

variable {c d : Course} {m : Moment}

theorem shown_congr (same : c m = d m) : c.shown m = d.shown m := by
  simp only [shown, same]

/-- A call that is out of place is so whatever the names; else it takes them one after the other. -/
theorem Sequential.of_cases {call : List Value → Course} (problem : List Value → ScopeFault)
    (quiet : ∀ xs ys, (problem xs).message = (problem ys).message)
    (each : ∀ m, (∀ xs, call xs m = refuse (.scope (problem xs)) m) ∨
      ∃ next : List Value → Course, (∀ xs, call xs m = next (Value.leavesOf xs) m) ∧
        ∀ xs ys, (next (Value.leavesOf xs ++ Value.leavesOf ys)).shown m =
          ((next (Value.leavesOf xs)).andThen (call ys)).shown m) :
    Sequential call := by
  have refused {m : Moment} (out : ∀ xs, call xs m = refuse (.scope (problem xs)) m)
      (xs ys : List Value) : (call xs).shown m = (call ys).shown m := by
    have told : (Fault.scope (problem xs)).told.shown = (Fault.scope (problem ys)).told.shown :=
      congrArg (Prod.mk FaultClass.scope) (quiet xs ys)
    simp only [shown, out, refuse]
    exact congrArg (fun told => (Except.error told, m.after [], Journal.events [])) told
  constructor
  · intro xs ys m
    rcases each m with out | ⟨next, takes, splits⟩
    · have ends : ((call xs).andThen (call ys)).shown m = (call xs).shown m := by
        simp only [shown, andThen, out, refuse]
      rw [ends, refused out]
    · have whole := takes (xs ++ ys)
      rw [Value.leavesOf_append] at whole
      rw [shown_congr whole, splits]
      exact shown_congr (by simp only [andThen, takes])
  · intro xs ys m same
    rcases each m with out | ⟨next, takes, -⟩
    · exact refused out xs ys
    · exact shown_congr (by rw [takes, takes, same])

end Course

open Course

namespace Privilege

theorem includeCourse_append (name context : Value) (xs ys : List Value) :
    includeCourse name context (xs ++ ys) =
      (includeCourse name context xs).andThen (includeCourse name context ys) := by
  induction xs with
  | nil =>
    funext m
    rfl
  | cons lower rest ih => simp only [List.cons_append, includeCourse, ih, andThen_assoc]

/-- The privilege that is open stays so, and in its context. -/
theorem includeCourse_open (name context : Value) (names : List Value) (m : Moment) :
    let n := m.after (includeCourse name context names m).journal
    n.reader.privilege = m.reader.privilege ∧ n.reader.context = m.reader.context := by
  induction names generalizing m with
  | nil => exact ⟨rfl, rfl⟩
  | cons lower rest ih =>
    cases suitable : name.keyObstacle? with
    | some part =>
      simp only [includeCourse, andThen, make, keyed, suitable, refuse]
      exact ⟨rfl, rfl⟩
    | none =>
      simp only [includeCourse, andThen, make, keyed, suitable]
      exact ih _

theorem includesCourse_sequential : Sequential includesCourse := by
  refine .of_cases .includesOutsidePrivilege (fun _ _ => rfl) fun m => ?_
  cases isOpen : m.reader.privilege with
  | none => exact .inl fun xs => by simp only [includesCourse, isOpen]
  | some name =>
    have takes (names : List Value) (n : Moment) (same : n.reader.privilege = some name)
        (within : n.reader.context = m.reader.context) :
        includesCourse names n = includeCourse name m.reader.context (Value.leavesOf names) n := by
      simp only [includesCourse, same, within]
    refine .inr ⟨includeCourse name m.reader.context, fun xs => takes xs m isOpen rfl,
      fun xs ys => shown_congr ?_⟩
    obtain ⟨same, within⟩ := includeCourse_open name m.reader.context (Value.leavesOf xs) m
    rw [includeCourse_append]
    simp only [andThen, takes ys _ (same.trans isOpen) within]

end Privilege

namespace Role

/-- Lower roles are entered together as they are one list after the other. -/
theorem lower_append (role : Value) (xs ys : List Value) (m : Moment) :
    (Update.lower role (xs ++ ys)).moment m =
      (Update.lower role ys).moment ((Update.lower role xs).moment m) := by
  have appends : (· ++ (xs ++ ys)) = (· ++ ys) ∘ (· ++ xs) :=
    funext fun names : List Value => (List.append_assoc names xs ys).symm
  simp only [Update.moment, Update.reader, Update.tables, Table.alter_alter, appends]

theorem includesCourse_sequential : Sequential includesCourse := by
  refine .of_cases .includesOutsideRole (fun _ _ => rfl) fun m => ?_
  cases isOpen : m.reader.role with
  | none => exact .inl fun xs => by simp only [includesCourse, currentCourse, isOpen]
  | some role =>
    have takes (names : List Value) (n : Moment) (same : n.reader.role = some role) :
        includesCourse names n = keyed role (.lower role (Value.leavesOf names)) n := by
      simp only [includesCourse, currentCourse, same]
    refine .inr ⟨fun names => keyed role (.lower role names), fun xs => takes xs m isOpen,
      fun xs ys => ?_⟩
    cases suitable : role.keyObstacle? with
    | some part => simp only [shown, andThen, keyed, suitable, refuse]
    | none =>
      have second := takes ys ((Update.lower role (Value.leavesOf xs)).moment m) isOpen
      simp only [keyed, suitable] at second
      simp only [shown, andThen, keyed, suitable, make, Moment.after_cons, Moment.after_nil, second,
        List.singleton_append, lower_append]
      rfl

end Role

namespace Grant

theorem privileges_append (place : Nat) (xs ys : List Value) (m : Moment) :
    (Update.privileges place (xs ++ ys)).moment m =
      (Update.privileges place ys).moment ((Update.privileges place xs).moment m) := by
  have appends : withPrivileges (xs ++ ys) = withPrivileges ys ∘ withPrivileges xs := by
    funext rule
    simp only [withPrivileges, Function.comp_apply, List.append_assoc]
  simp only [Update.moment, Update.reader, Update.tables, List.modify_modify_eq, appends]

theorem addPrivilegesCourse_sequential : Sequential addPrivilegesCourse := by
  refine .of_cases .toOutsideGrant (fun _ _ => rfl) fun m => ?_
  cases isOpen : m.reader.rule with
  | none => exact .inl fun xs => by simp only [addPrivilegesCourse, currentCourse, isOpen]
  | some place =>
    have takes (names : List Value) (n : Moment) (same : n.reader.rule = some place) :
        addPrivilegesCourse names n = make [.privileges place (Value.leavesOf names)] n := by
      simp only [addPrivilegesCourse, currentCourse, same]
    refine .inr ⟨fun names => make [.privileges place names], fun xs => takes xs m isOpen,
      fun xs ys => ?_⟩
    have second := takes ys ((Update.privileges place (Value.leavesOf xs)).moment m) isOpen
    simp only [shown, andThen, make, Moment.after_cons, Moment.after_nil, second,
      List.singleton_append, privileges_append] at second ⊢
    rfl

end Grant

def Block.naming : Block → List String
  | .privileges => ["includes"]
  | .authorization => ["includes", "to"]

theorem Block.bodiless_of_naming {block : Block} {name : String} (naming : name ∈ block.naming) :
    name ∈ block.bodiless := by
  cases block <;> simp only [Block.naming, List.mem_cons, List.not_mem_nil, or_false] at naming
  · subst naming
    decide
  · rcases naming with rfl | rfl <;> decide

/-- An operation that takes any arguments by position gets the names that are given. -/
theorem Block.stepCourse_call {block : Block} {name : String} {make : Arguments → Step}
    (operation : block.operation? name = some (⟨[], [], true, false⟩, make))
    (names : List Value) :
    Program.stepCourse (block.call name names []) =
      Program.stepCourse (make ⟨[], names.map .value, []⟩) := by
  have bound : Given.bind (block.operationName name) ⟨[], [], true, false⟩
      (names.map Argument.value) [] = .ok ⟨[], names.map .value, []⟩ := by
    simp [Given.bind, Given.bindNamed, Signature.parameters, bind, Except.bind]
  simp only [Block.call, operation, Program.stepCourse, bound]

theorem Block.stepCourse_naming {block : Block} {name : String} (naming : name ∈ block.naming) :
    ∃ call : List Value → Course, Sequential call ∧
      ∀ names, Program.stepCourse (block.call name names []) = call names := by
  cases block <;> simp only [Block.naming, List.mem_cons, List.not_mem_nil, or_false] at naming
  · subst naming
    refine ⟨_, Privilege.includesCourse_sequential, fun names => ?_⟩
    rw [stepCourse_call rfl, Program.stepCourse, Statement.moreValues_names]
  · rcases naming with rfl | rfl
    · refine ⟨_, Role.includesCourse_sequential, fun names => ?_⟩
      rw [stepCourse_call rfl, Program.stepCourse, Statement.moreValues_names]
    · refine ⟨_, Grant.addPrivilegesCourse_sequential, fun names => ?_⟩
      rw [stepCourse_call rfl, Program.stepCourse, Statement.moreValues_names]

/-- What comes of calls on names, to callers and to the session, is the same whether names are
given in one call or in two, and however they are nested: it is decided by the leaves from left to
right. So it is wherever callers have replaced nothing, as in all sessions that they reach. -/
theorem names_sequential {block : Block} {name : String} (naming : name ∈ block.naming)
    {s : Session} (intact : s.Intact) (xs ys : List Value) :
    Program.shown [block.call name (xs ++ ys) []] s =
        Program.shown [block.call name xs [], block.call name ys []] s ∧
      (Value.leavesOf xs = Value.leavesOf ys →
        Program.shown [block.call name xs []] s = Program.shown [block.call name ys []] s) ∧
      (∀ given : Value, given.elements? = some xs → namesIn given = .ok (Value.leavesOf xs)) ∧
      ∃ places, Value.LeavesAt (Value.partOf? xs) places (Value.leavesOf xs) := by
  obtain ⟨call, sequential, calls⟩ := Block.stepCourse_naming naming
  have one (names : List Value) : Program.course [block.call name names []] = call names := by
    rw [Program.course, Program.course, andThen_done, calls]
  have two : Program.course [block.call name xs [], block.call name ys []] =
      (call xs).andThen (call ys) := by
    rw [Program.course, one, calls]
  have called (names : List Value) : (block.call name names []).isOperational false :=
    Step.isOperational_of_isBodiless false _
      (Step.isBodiless_of_bodiless (Block.bodiless_of_naming naming) names [])
  have alone (names : List Value) : Step.isOperationalProgram false [block.call name names []] :=
    Bool.and_eq_true_iff.mpr ⟨called names, rfl⟩
  refine ⟨Program.shown_eq intact (alone _) ?_ ?_, fun same => ?_, fun given parts => ?_,
    _, Value.leavesAt_leavesOf xs⟩
  · exact Bool.and_eq_true_iff.mpr ⟨called xs, alone ys⟩
  · rw [one, two, sequential.split]
  · apply Program.shown_eq intact (alone xs) (alone ys)
    rw [one, one, sequential.leaves xs ys s.moment same]
  · rw [namesIn, parts]

def nestedNames : List Value :=
  [.list [.text "clerk", .tuple [.text "porter", .list []]], .tuple []]

theorem names_sequential_nested :
    let s := Session.keeping .memory
    let call (names : List Value) := Block.authorization.call "includes" names []
    s.Reached ∧
      Program.shown [call (nestedNames ++ [.list [.text "guest"]])] s =
        Program.shown [call nestedNames, call [.list [.text "guest"]]] s ∧
      Program.shown [call nestedNames] s =
        Program.shown [call [.text "clerk", .list [.text "porter"]]] s ∧
      (Program.shown [call nestedNames] s).2.reader.tables.roleHierarchy.entries =
        [(.text "keeper", [.text "clerk", .text "porter"])] := by
  have reached : (Session.keeping .memory).Reached := Session.reached_keeping _
  have naming : "includes" ∈ Block.authorization.naming := by decide
  obtain ⟨split, -⟩ := names_sequential naming reached.intact nestedNames [.list [.text "guest"]]
  obtain ⟨-, leaves, -⟩ := names_sequential naming reached.intact nestedNames
    [.text "clerk", .list [.text "porter"]]
  exact ⟨reached, split, leaves rfl, by with_unfolding_all rfl⟩

end AccessPolicy
