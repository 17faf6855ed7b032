import AccessPolicy.Proofs.Course

/-! The calls that are executing while a course makes its updates. Marks in the journal tell when
the bodies of roles and grants are entered and left; the open role and the open rule stand against
the calls around them. -/

namespace AccessPolicy

/-- A call whose body is executing: of a role, or of a grant by the place of its rule. -/
inductive Call where
  | role (role : Value)
  | grant (place : Nat)

namespace Call

def role? : Call → Option Value
  | .role name => some name
  | .grant _ => none

def place? : Call → Option Nat
  | .role _ => none
  | .grant place => some place

end Call

/-- The calls that are executing, the innermost first, and the grants whose bodies faults have left
since the body of a grant was last entered or completed. -/
structure Calls where
  executing : List Call := []
  failed : List Nat := []

def innermostRole? (calls : List Call) : Option Value := calls.findSome? Call.role?

def innermostGrant? (calls : List Call) : Option Nat := calls.findSome? Call.place?

theorem innermostRole?_grant (place : Nat) (calls : List Call) :
    innermostRole? (.grant place :: calls) = innermostRole? calls := rfl

theorem innermostGrant?_role (role : Value) (calls : List Call) :
    innermostGrant? (.role role :: calls) = innermostGrant? calls := rfl

def Update.calls : Update → Calls → Calls
  | .enterRole name, c => { c with executing := .role name :: c.executing }
  | .leaveRole, c => { c with executing := c.executing.tail }
  | .enterGrant place, c => ⟨.grant place :: c.executing, []⟩
  | .completeGrant, c => ⟨c.executing.tail, []⟩
  | .abandonGrant, c =>
    ⟨c.executing.tail, (innermostGrant? c.executing).toList ++ c.failed⟩
  | _, c => c

def Journal.calls (journal : Journal) (c : Calls) : Calls := journal.foldl (fun c u => u.calls c) c

structure Track where
  moment : Moment
  calls : Calls := {}

def Update.track (u : Update) (t : Track) : Track := ⟨u.moment t.moment, u.calls t.calls⟩

namespace Track

def after (t : Track) (journal : Journal) : Track :=
  ⟨t.moment.after journal, Journal.calls journal t.calls⟩

@[simp] theorem after_nil (t : Track) : t.after [] = t := rfl

@[simp] theorem after_cons (t : Track) (u : Update) (j : Journal) :
    t.after (u :: j) = (u.track t).after j := rfl

@[simp] theorem after_append (t : Track) (j k : Journal) :
    t.after (j ++ k) = (t.after j).after k := by
  simp [after, Journal.calls]

/-- What the open role and the open rule are to the calls that are executing. -/
structure Sound (t : Track) : Prop where
  role : ∀ role, t.moment.reader.role = some role → innermostRole? t.calls.executing = some role
  rule : ∀ place, t.moment.reader.rule = some place →
    place ∈ t.calls.failed ∨ innermostGrant? t.calls.executing = some place
  grants : ∀ place outer, .grant place :: outer <:+ t.calls.executing →
    ∃ rule, t.moment.reader.tables.rules[place]? = some rule ∧
      innermostRole? outer = some rule.role

end Track

/-- Entering and leaving a body apart, an update leaves the calls as they are. -/
def Update.isPlain : Update → Bool
  | .enterRole _ | .leaveRole | .enterGrant _ | .completeGrant | .abandonGrant => false
  | _ => true

namespace Update

variable {u : Update}

theorem calls_of_plain (plain : u.isPlain) (c : Calls) : u.calls c = c := by
  cases u <;> first | rfl | cases plain

theorem role_of_plain (plain : u.isPlain) (m : Moment) :
    (u.moment m).reader.role = m.reader.role := by
  cases u <;> first | rfl | cases plain

theorem rule_of_plain (plain : u.isPlain) (m : Moment) :
    (u.moment m).reader.rule = m.reader.rule := by
  cases u <;> first | rfl | cases plain

/-- No update takes a rule away or gives it another role. -/
theorem rule_kept (u : Update) {m : Moment} {place : Nat} {rule : Rule}
    (stands : m.reader.tables.rules[place]? = some rule) :
    ∃ kept, (u.moment m).reader.tables.rules[place]? = some kept ∧ kept.role = rule.role := by
  rw [Moment.tables_moment]
  cases u with
  | rule made =>
    obtain ⟨within, -⟩ := List.getElem?_eq_some_iff.mp stands
    exact ⟨rule, by rw [tables, List.getElem?_append_left within, stands], rfl⟩
  | privileges changed names =>
    by_cases same : changed = place
    · exact ⟨Grant.withPrivileges names rule, by simp [tables, stands, same],
        rfl⟩
    · exact ⟨rule, by simp [tables, stands, same], rfl⟩
  | conditions changed trees =>
    by_cases same : changed = place
    · exact ⟨Grant.withConditions trees rule, by simp [tables, stands, same],
        rfl⟩
    · exact ⟨rule, by simp [tables, stands, same], rfl⟩
  | _ => exact ⟨rule, stands, rfl⟩

end Update

namespace Track.Sound

variable {t : Track} {calls : List Call}

/-- The rules of executing grants stay those of the roles around them. -/
theorem grants_after (sound : t.Sound) (u : Update) {place : Nat} {outer : List Call}
    (within : .grant place :: outer <:+ t.calls.executing) :
    ∃ rule, (u.moment t.moment).reader.tables.rules[place]? = some rule ∧
      innermostRole? outer = some rule.role := by
  obtain ⟨rule, stands, role⟩ := sound.grants place outer within
  obtain ⟨kept, stands', same⟩ := u.rule_kept stands
  exact ⟨kept, stands', same ▸ role⟩

theorem plain (sound : t.Sound) {u : Update} (plain : u.isPlain) : (u.track t).Sound := by
  have calls : (u.track t).calls = t.calls := Update.calls_of_plain plain _
  constructor
  · intro role isOpen
    rw [calls]
    exact sound.role role ((Update.role_of_plain plain _).symm.trans isOpen)
  · intro place isOpen
    rw [calls]
    exact sound.rule place ((Update.rule_of_plain plain _).symm.trans isOpen)
  · intro place outer within
    rw [calls] at within
    exact sound.grants_after u within

theorem enterRole (sound : t.Sound) (role : Value) : ((Update.enterRole role).track t).Sound := by
  constructor
  · intro found isOpen
    simp only [Update.track, Update.moment, Update.reader, Role.opened] at isOpen
    split at isOpen
    · cases isOpen
    · exact isOpen
  · exact sound.rule
  · intro place outer within
    rcases List.suffix_cons_iff.mp within with same | within
    · cases same
    · exact sound.grants_after (.enterRole role) within

theorem leaveRole (sound : t.Sound) {role : Value}
    (last : t.calls.executing = .role role :: calls) : (Update.leaveRole.track t).Sound := by
  have left : (Update.leaveRole.track t).calls.executing = calls := by
    simp [Update.track, Update.calls, last]
  constructor
  · intro role isOpen
    cases isOpen
  · intro place isOpen
    rw [left, ← innermostGrant?_role role, ← last]
    exact sound.rule place isOpen
  · intro place outer within
    rw [left] at within
    exact sound.grants_after .leaveRole (last ▸ within.trans (List.suffix_cons ..))

theorem enterGrant (sound : t.Sound) {place : Nat} {rule : Rule}
    (stands : t.moment.reader.tables.rules[place]? = some rule)
    (role : innermostRole? t.calls.executing = some rule.role) :
    ((Update.enterGrant place).track t).Sound := by
  constructor
  · exact sound.role
  · exact fun _ isOpen => .inr isOpen
  · intro found outer within
    rcases List.suffix_cons_iff.mp within with same | within
    · cases same
      exact ⟨rule, stands, role⟩
    · exact sound.grants_after (.enterGrant place) within

theorem completeGrant (sound : t.Sound) {place : Nat}
    (last : t.calls.executing = .grant place :: calls) :
    (Update.completeGrant.track t).Sound := by
  have left : (Update.completeGrant.track t).calls.executing = calls := by
    simp [Update.track, Update.calls, last]
  constructor
  · intro role isOpen
    rw [left, ← innermostRole?_grant place, ← last]
    exact sound.role role isOpen
  · intro place isOpen
    cases isOpen
  · intro place outer within
    rw [left] at within
    exact sound.grants_after .completeGrant (last ▸ within.trans (List.suffix_cons ..))

theorem abandonGrant (sound : t.Sound) {place : Nat}
    (last : t.calls.executing = .grant place :: calls) :
    (Update.abandonGrant.track t).Sound := by
  have left : (Update.abandonGrant.track t).calls.executing = calls := by
    simp [Update.track, Update.calls, last]
  constructor
  · intro role isOpen
    rw [left, ← innermostRole?_grant place, ← last]
    exact sound.role role isOpen
  · intro found isOpen
    refine .inl (List.mem_append.mpr ?_)
    rcases sound.rule found isOpen with failed | innermost
    · exact .inr failed
    · exact .inl (Option.mem_toList.mpr innermost)
  · intro place outer within
    rw [left] at within
    exact sound.grants_after .abandonGrant (last ▸ within.trans (List.suffix_cons ..))

end Track.Sound

/-- At every update of a journal, and at its end. -/
def Track.SoundAlong (t : Track) : Journal → Prop
  | [] => t.Sound
  | u :: j => t.Sound ∧ (u.track t).SoundAlong j

namespace Track.SoundAlong

variable {t : Track} {j k : Journal}

theorem start (along : t.SoundAlong j) : t.Sound := by
  cases j with
  | nil => exact along
  | cons u j => exact along.1

theorem last (along : t.SoundAlong j) : (t.after j).Sound := by
  induction j generalizing t with
  | nil => exact along
  | cons u j ih => exact ih along.2

theorem append (along : t.SoundAlong j) (next : (t.after j).SoundAlong k) :
    t.SoundAlong (j ++ k) := by
  induction j generalizing t with
  | nil => exact next
  | cons u j ih => exact ⟨along.1, ih along.2 next⟩

theorem of_prefix (along : t.SoundAlong j) (past : k <+: j) : (t.after k).Sound := by
  obtain ⟨rest, rfl⟩ := past
  induction k generalizing t with
  | nil => exact along.start
  | cons u k ih => exact ih along.2

end Track.SoundAlong

/-- Along a course the open role and rule stand to the calls as they should, and at its end the
given calls are executing. -/
structure Course.KeepsAt (c : Course) (t : Track) (calls : List Call) : Prop where
  sound : t.SoundAlong (c t.moment).journal
  calls : (t.after (c t.moment).journal).calls.executing = calls

/-- At its end a course has left all calls that it has made. -/
structure Course.Keeps (c : Course) : Prop where
  keeps : ∀ t : Track, t.Sound → c.KeepsAt t t.calls.executing

namespace Course

variable {c d : Course} {t : Track} {calls : List Call}

theorem keepsAt_of_empty (sound : t.Sound) (empty : (c t.moment).journal = []) :
    c.KeepsAt t t.calls.executing := by
  constructor <;> rw [empty]
  · exact sound
  · rfl

theorem KeepsAt.congr (keeps : d.KeepsAt t calls) (same : c t.moment = d t.moment) :
    c.KeepsAt t calls := by
  obtain ⟨sound, left⟩ := keeps
  rw [← same] at sound left
  exact ⟨sound, left⟩

theorem KeepsAt.andThen (first : c.KeepsAt t calls)
    (second : d.KeepsAt (t.after (c t.moment).journal) calls) :
    (c.andThen d).KeepsAt t calls := by
  obtain ⟨sound, left⟩ := first
  obtain ⟨sound', left'⟩ := second
  cases came : (c t.moment).result with
  | error fault =>
    constructor <;> simp only [Course.andThen, came]
    · exact sound
    · exact left
  | ok _ =>
    constructor <;> simp only [Course.andThen, came]
    · exact sound.append sound'
    · exact (congrArg (·.calls.executing) (Track.after_append ..)).trans left'

theorem keepsAt_make_andThen {u : Update} (sound : t.Sound) (keeps : c.KeepsAt (u.track t) calls) :
    ((make [u]).andThen c).KeepsAt t calls :=
  ⟨⟨sound, keeps.sound⟩, keeps.calls⟩

theorem KeepsAt.ending {before : List Call} (keeps : c.KeepsAt t before) {last : Update}
    (leaves : ∀ t : Track, t.Sound → t.calls.executing = before →
      (last.track t).Sound ∧ (last.track t).calls.executing = calls) :
    (c.ending last).KeepsAt t calls := by
  have ended := leaves _ keeps.sound.last keeps.calls
  constructor
  · exact keeps.sound.append ⟨keeps.sound.last, ended.1⟩
  · simpa [Course.ending] using ended.2

namespace Keeps

theorem done : Keeps Course.done := ⟨fun _ sound => keepsAt_of_empty sound rfl⟩

theorem refuse (fault : Fault) : Keeps (refuse fault) := ⟨fun _ sound => keepsAt_of_empty sound rfl⟩

theorem congr_at (same : ∀ m, ∃ d : Course, d.Keeps ∧ c m = d m) : c.Keeps := by
  constructor
  intro t sound
  obtain ⟨d, keeps, same⟩ := same t.moment
  exact (keeps.keeps t sound).congr same

theorem make {u : Update} (plain : u.isPlain) : Keeps (make [u]) :=
  ⟨fun _ sound => ⟨⟨sound, sound.plain plain⟩,
    congrArg Calls.executing (Update.calls_of_plain plain _)⟩⟩

theorem andThen (first : c.Keeps) (second : d.Keeps) : (c.andThen d).Keeps := by
  constructor
  intro t sound
  have led := first.keeps t sound
  have next := second.keeps _ led.sound.last
  rw [led.calls] at next
  exact led.andThen next

theorem ending (keeps : c.Keeps) {last : Update} (plain : last.isPlain) :
    (c.ending last).Keeps := by
  constructor
  intro t sound
  refine (keeps.keeps t sound).ending fun k sound left => ⟨sound.plain plain, ?_⟩
  exact (congrArg Calls.executing (Update.calls_of_plain plain _)).trans left

theorem recover {handle : Fault → Course} (keeps : c.Keeps) (handles : ∀ fault, (handle fault).Keeps) :
    (c.recover handle).Keeps := by
  constructor
  intro t sound
  have led := keeps.keeps t sound
  cases came : (c t.moment).result with
  | ok _ => exact led.congr (by simp only [Course.recover, came])
  | error fault =>
    have next := (handles fault).keeps _ led.sound.last
    constructor <;> simp only [Course.recover, came]
    · exact led.sound.append next.sound
    · exact ((congrArg (·.calls.executing) (Track.after_append ..)).trans next.calls).trans led.calls

theorem emit (event : LogEvent) : Keeps (emit event) := by
  refine congr_at fun m => ?_
  unfold Course.emit
  split
  · split
    · exact ⟨_, refuse _, rfl⟩
    · exact ⟨_, make rfl, rfl⟩
  · exact ⟨_, done, rfl⟩

theorem keyed {u : Update} (plain : u.isPlain) (key : Value) : Keeps (keyed key u) := by
  unfold Course.keyed
  split
  · exact refuse _
  · exact make plain

end Keeps

/-- An event that is logged changes neither the moment nor the calls. -/
theorem after_emit (event : LogEvent) (t : Track) :
    t.after (emit event t.moment).journal = t := by
  unfold emit
  split
  · split <;> rfl
  · rfl

end Course

end AccessPolicy
