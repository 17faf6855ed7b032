import AccessPolicy.Policy.Source

/-! What documents are made of. Records are of the callers' making only: scalars are none, and the
collections of a document hold what its nodes come to. -/

namespace AccessPolicy

/-- What stands in an array has been put there, or has stood there before. -/
theorem eq_or_getElem?_of_setIfInBounds {α : Type} {a : Array α} {n place : Nat} {x y : α}
    (stands : (a.setIfInBounds n x)[place]? = some y) : y = x ∨ a[place]? = some y := by
  rw [Array.getElem?_setIfInBounds] at stands
  split at stands
  · split at stands
    · exact .inl (Option.some.inj stands).symm
    · cases stands
  · exact .inr stands

namespace Value

mutual

def isRecordless : Value → Bool
  | .record _ => false
  | .list items | .tuple items => areRecordless items
  | .map entries => entriesAreRecordless entries
  | .cyclic _ value => value.isRecordless
  | _ => true

def areRecordless : List Value → Bool
  | [] => true
  | item :: rest => item.isRecordless && areRecordless rest

def entriesAreRecordless : List (Value × Value) → Bool
  | [] => true
  | (_, value) :: rest => value.isRecordless && entriesAreRecordless rest

end

theorem areRecordless_iff {items : List Value} :
    areRecordless items ↔ ∀ item ∈ items, item.isRecordless := by
  induction items with
  | nil => simp [areRecordless]
  | cons item rest ih => simp [areRecordless, ih]

theorem entriesAreRecordless_iff {entries : List (Value × Value)} :
    entriesAreRecordless entries ↔ ∀ entry ∈ entries, entry.2.isRecordless := by
  induction entries with
  | nil => simp [entriesAreRecordless]
  | cons entry rest ih =>
    obtain ⟨key, value⟩ := entry
    simp [entriesAreRecordless, ih]

theorem ne_record_of_isRecordless {value : Value} (recordless : value.isRecordless)
    (fields : List (String × Value)) : value ≠ .record fields := by
  rintro rfl
  cases recordless

end Value

namespace Yaml

def Shape.IsRecordless : Shape → Prop
  | .leaf value | .set value => value.isRecordless
  | .list _ | .pairs _ | .map _ => True

namespace Scalar

variable {text : String} {value : Value}

theorem isRecordless_of_bind {α : Type} {first : Except ScalarFault α} {next : α → Scalar}
    (came : (first >>= next) = .ok value)
    (each : ∀ a, next a = .ok value → value.isRecordless) : value.isRecordless := by
  cases first with
  | error => cases came
  | ok a => exact each a came

theorem isRecordless_of_ofBool (came : ofBool text = .ok value) : value.isRecordless := by
  unfold ofBool at came
  extract_lets word at came
  split at came
  · cases came
    rfl
  · split at came
    · cases came
      rfl
    · cases came

theorem isRecordless_of_ofInt (came : ofInt text = .ok value) : value.isRecordless := by
  unfold ofInt at came
  extract_lets digits at came
  split at came
  · cases came
  · split at came
    refine isRecordless_of_bind came fun n made => ?_
    cases made
    rfl

theorem isRecordless_of_ofFloat {serial : Nat} (came : ofFloat serial text = .ok value) :
    value.isRecordless := by
  unfold ofFloat at came
  extract_lets digits at came
  split at came
  · cases came
  · split at came
    extract_lets last at came
    have ends (x : Number.Binary64) (made : last x = .ok value) : value.isRecordless := by
      cases made
      rfl
    split at came
    · exact isRecordless_of_bind came ends
    · split at came
      · exact isRecordless_of_bind came ends
      · split at came
        · exact isRecordless_of_bind came fun _ summed => isRecordless_of_bind summed ends
        · exact isRecordless_of_bind came ends

theorem isRecordless_of_ofBinary (came : ofBinary text = .ok value) : value.isRecordless := by
  unfold ofBinary at came
  split at came <;> cases came
  rfl

theorem isRecordless_of_ofTimestamp (came : ofTimestamp text = .ok value) :
    value.isRecordless := by
  unfold ofTimestamp at came
  split at came
  · cases came
  · split at came
    all_goals
      refine isRecordless_of_bind came fun _ made => ?_
      cases made
      rfl

theorem isRecordless_of_ofExpression {operator : Operator} {serial : Nat}
    (came : ofExpression operator serial text = .ok value) : value.isRecordless := by
  unfold ofExpression at came
  split at came <;> cases came
  rfl

/-- A scalar is no collection, let alone a record. -/
theorem isRecordless_of_ofTag? {tag : Tag} {serial : Nat}
    (read : ofTag? tag serial text = some (.ok value)) : value.isRecordless := by
  unfold ofTag? at read
  split at read
  · cases Option.some.inj read
    rfl
  · exact isRecordless_of_ofBool (Option.some.inj read)
  · exact isRecordless_of_ofInt (Option.some.inj read)
  · exact isRecordless_of_ofFloat (Option.some.inj read)
  · exact isRecordless_of_ofBinary (Option.some.inj read)
  · exact isRecordless_of_ofTimestamp (Option.some.inj read)
  · cases Option.some.inj read
    rfl
  · exact isRecordless_of_ofExpression (Option.some.inj read)
  · cases read

end Scalar

theorem Graph.isRecordless_of_scalar {g : Graph} {n : Nat} {value : Value}
    (came : g.scalar n = .ok value) : value.isRecordless := by
  unfold scalar at came
  extract_lets node at came
  split at came
  · cases came
  · cases text : g.text n (g.size + 1) with
    | error => rw [text] at came; cases came
    | ok text' =>
      rw [text] at came
      simp only [bind, Except.bind] at came
      split at came
      · cases came
      · split at came
        · cases came
        · cases came
        · rename_i read
          cases came
          exact Scalar.isRecordless_of_ofTag? read
        · cases came
          rfl

namespace Filling

def Recordless (f : Filling) : Prop :=
  ∀ (n : Nat) (shape : Shape), f.shapes[n]? = some (some shape) → shape.IsRecordless

/-- A step leaves all nodes without records, and its result is as it should be. -/
structure Keeps {α : Type} (step : Fill α) (fine : α → Prop := fun _ => True) : Prop where
  keeps : ∀ (f f' : Filling) (a : α), step.run f = .ok (a, f') → f.Recordless →
    f'.Recordless ∧ fine a

namespace Keeps

variable {α β : Type} {fine : β → Prop}

theorem pure {b : β} (holds : fine b) : Keeps (pure b : Fill β) fine := by
  constructor
  intro f f' c ran recordless
  cases ran
  exact ⟨recordless, holds⟩

theorem bind {between : α → Prop} {step : Fill α} {next : α → Fill β} (first : Keeps step between)
    (second : ∀ a, between a → Keeps (next a) fine) : Keeps (step >>= next) fine := by
  constructor
  intro f f' b ran recordless
  rw [StateT.run_bind] at ran
  cases came : step.run f with
  | error fault => rw [came] at ran; cases ran
  | ok reached =>
    rw [came] at ran
    obtain ⟨kept, holds⟩ := first.keeps _ _ _ came recordless
    exact (second _ holds).keeps _ _ _ ran kept

theorem forM {step : α → Fill Unit} (each : ∀ a, Keeps (step a)) (items : List α) :
    Keeps (items.forM step) := by
  induction items with
  | nil => exact pure trivial
  | cons a rest ih => exact (each a).bind fun _ _ => ih

theorem mapM {step : α → Fill β} (each : ∀ a, Keeps (step a)) (items : List α) :
    Keeps (items.mapM step) := by
  induction items with
  | nil => exact pure trivial
  | cons a rest ih =>
    rw [List.mapM_cons]
    exact (each a).bind fun _ _ => ih.bind fun _ _ => pure trivial

theorem get : Keeps (MonadState.get : Fill Filling) := by
  constructor
  intro f f' b ran recordless
  cases ran
  exact ⟨recordless, trivial⟩

theorem lift {result : Except Fault β} (each : ∀ b, result = .ok b → fine b) :
    Keeps (liftM result : Fill β) fine := by
  constructor
  intro f f' b ran recordless
  cases result with
  | error => cases ran
  | ok b =>
    cases ran
    exact ⟨recordless, each _ rfl⟩

theorem modify {change : Filling → Filling} (same : ∀ f, (change f).shapes = f.shapes) :
    Keeps (modify change : Fill Unit) := by
  constructor
  intro f f' b ran recordless
  cases ran
  refine ⟨fun n shape stands => recordless n shape ?_, trivial⟩
  rwa [same] at stands

theorem setShape {shape : Shape} (recordless : shape.IsRecordless) (n : Nat) :
    Keeps (setShape n shape) := by
  constructor
  intro f f' b ran before
  cases ran
  refine ⟨fun place other stands => ?_, trivial⟩
  obtain same | stood := eq_or_getElem?_of_setIfInBounds stands
  · cases same
    exact recordless
  · exact before place other stood

end Keeps

theorem shape?_keeps (n : Nat) : Keeps (shape? n) := .bind .get fun _ _ => .pure trivial

theorem empty_isRecordless (kind : CollectionKind) : kind.empty.IsRecordless := by
  cases kind <;> trivial

theorem misconstructed_keeps {α : Type} {fine : α → Prop} (g : Graph) (n : Nat)
    (problem : Misconstruction) :
    Keeps (liftM (g.misconstructed n problem : Except Fault α)) fine :=
  .lift fun _ came => nomatch came

theorem meet_keeps (n : Nat) : Keeps (meet n) := by
  refine (shape?_keeps n).bind fun shape _ => ?_
  split
  · refine .bind .get fun f _ => ?_
    extract_lets graph
    split
    · exact (Keeps.setShape (empty_isRecordless _) n).bind fun _ _ => .modify fun _ => rfl
    · have read : Keeps (liftM (graph.scalar n)) fun value => value.isRecordless :=
        .lift fun _ came => Graph.isRecordless_of_scalar came
      refine read.bind fun value recordless => ?_
      have leaf : (Shape.leaf value).IsRecordless := recordless
      exact .setShape leaf n
  · exact .pure trivial

theorem meetKey_keeps (n : Nat) : Keeps (meetKey n) := by
  refine (meet_keeps n).bind fun _ _ => (shape?_keeps n).bind fun shape _ => ?_
  split
  · exact .pure trivial
  · exact .bind .get fun _ _ => misconstructed_keeps ..

theorem entries_keeps (n : Nat) : Keeps (entries n) := by
  refine .bind .get fun f _ => ?_
  extract_lets kind
  split
  · exact misconstructed_keeps ..
  · have merged : Keeps (liftM (f.graph.mergeFrom [] n f.fuel)) := .lift fun _ _ => trivial
    refine merged.bind fun graph _ => .bind (.modify fun _ => rfl) fun _ _ =>
      .mapM (fun pair => ?_) _
    exact (meetKey_keeps _).bind fun _ _ => (meet_keeps _).bind fun _ _ => .pure trivial

theorem pair_keeps (n : Nat) : Keeps (pair n) := by
  refine .bind .get fun f _ => ?_
  extract_lets graph
  split
  · exact (meet_keeps _).bind fun _ _ => (meet_keeps _).bind fun _ _ => .pure trivial
  · exact misconstructed_keeps ..
  · exact misconstructed_keeps ..

theorem isRecordless_setOfAll (members : List Value) : (Value.setOfAll members).isRecordless := by
  unfold Value.setOfAll
  split <;> rfl

theorem fill_keeps (n : Nat) (kind : CollectionKind) : Keeps (fill n kind) Shape.IsRecordless := by
  refine .bind .get fun f _ => ?_
  extract_lets graph
  split
  · exact (Keeps.forM meet_keeps _).bind fun _ _ => .pure trivial
  · exact misconstructed_keeps ..
  · exact (Keeps.mapM pair_keeps _).bind fun _ _ => .pure trivial
  · exact misconstructed_keeps ..
  · exact (entries_keeps n).bind fun _ _ => .pure trivial
  · exact (entries_keeps n).bind fun _ _ => .pure (isRecordless_setOfAll _)

theorem fillAll_keeps (fuel : Nat) : Keeps (fillAll fuel) := by
  induction fuel with
  | zero => exact .pure trivial
  | succ fuel ih =>
    refine .bind .get fun f _ => ?_
    split
    · exact .pure trivial
    · refine .bind (.modify fun _ => rfl) fun _ _ =>
        (fill_keeps _ _).bind fun shape recordless => ?_
      exact (Keeps.setShape recordless _).bind fun _ _ => ih

end Filling

/-- No node of a document comes to a record. -/
theorem Graph.isRecordless_of_shapes {g : Graph} {shapes : Array (Option Shape)}
    (came : g.shapes = .ok shapes) (n : Nat) {shape : Shape}
    (stands : shapes[n]? = some (some shape)) : shape.IsRecordless := by
  unfold Graph.shapes at came
  extract_lets start at came
  have fills :
      Filling.Keeps (do Filling.meet 0; Filling.fillAll (g.size + 1) : Filling.Fill Unit) :=
    (Filling.meet_keeps 0).bind fun _ _ => Filling.fillAll_keeps _
  have empty : start.Recordless := by
    intro n shape stands
    simp only [start, Array.getElem?_replicate] at stands
    split at stands <;> cases stands
  cases ran : (do Filling.meet 0; Filling.fillAll (g.size + 1) : Filling.Fill Unit).run start with
  | error => rw [ran] at came; cases came
  | ok reached =>
    rw [ran] at came
    cases came
    exact (fills.keeps _ _ _ ran empty).1 n shape stands

def Filled.Recordless (d : Filled) : Prop := ∀ n, (d.shape n).IsRecordless

namespace Filled

def Fine (known : Known) : Prop :=
  ∀ (n : Nat) (value : Value), known[n]? = some (some value) → value.isRecordless

/-- A step gives what is fine, and comes to know only values without records. -/
structure Builds {α : Type} (step : StateM Known α) (fine : α → Prop) : Prop where
  builds : ∀ known, Fine known → fine (step.run known).1 ∧ Fine (step.run known).2

namespace Builds

variable {α β : Type} {fine : α → Prop} {after : β → Prop}

theorem pure {a : α} (holds : fine a) : Builds (pure a) fine := ⟨fun _ known => ⟨holds, known⟩⟩

theorem bind {step : StateM Known α} {next : α → StateM Known β} (first : Builds step fine)
    (second : ∀ a, fine a → Builds (next a) after) : Builds (step >>= next) after := by
  constructor
  intro known before
  obtain ⟨holds, between⟩ := first.builds known before
  exact (second _ holds).builds _ between

theorem mapM {step : α → StateM Known β} (each : ∀ a, Builds (step a) after) (items : List α) :
    Builds (items.mapM step) fun made => ∀ b ∈ made, after b := by
  induction items with
  | nil => exact pure nofun
  | cons a rest ih =>
    rw [List.mapM_cons]
    exact (each a).bind fun b first => ih.bind fun bs others =>
      pure (List.forall_mem_cons.mpr ⟨first, others⟩)

theorem get {next : Known → StateM Known α}
    (each : ∀ known, Fine known → Builds (next known) fine) :
    Builds (MonadState.get >>= next) fine := by
  constructor
  intro known before
  exact (each known before).builds known before

theorem modify {change : Known → Known} (keeps : ∀ known, Fine known → Fine (change known)) :
    Builds (modify change : StateM Known Unit) fun _ => True :=
  ⟨fun known before => ⟨trivial, keeps known before⟩⟩

end Builds

theorem Fine.set {known : Known} (before : Fine known) {value : Value}
    (recordless : value.isRecordless) (n : Nat) : Fine (known.setIfInBounds n (some value)) := by
  intro place other stands
  obtain same | stood := eq_or_getElem?_of_setIfInBounds stands
  · cases same
    exact recordless
  · exact before place other stood

variable {d : Filled}

theorem valueIn_builds (recordless : d.Recordless) (loops : List Nat) (fuel : Nat)
    (around : List Nat) (n : Nat) :
    Builds (d.valueIn loops fuel around n) fun value => value.isRecordless := by
  induction fuel generalizing around n with
  | zero => exact .pure rfl
  | succ fuel ih =>
    unfold valueIn
    extract_lets item whole closed last
    have parts : Builds whole fun value => value.isRecordless := by
      have fine := recordless n
      simp only [whole]
      split <;> rename_i shape <;> rw [shape] at fine
      · exact .pure fine
      · exact (Builds.mapM (fun n => ih _ n) _).bind fun items all =>
          .pure (Value.areRecordless_iff.mpr all)
      · refine (Builds.mapM (fun pair => ?_) _).bind fun items all =>
          .pure (Value.areRecordless_iff.mpr all)
        refine (ih _ _).bind fun key first => (ih _ _).bind fun value second => .pure ?_
        have both : (Value.tuple [key, value]).isRecordless :=
          Value.areRecordless_iff.mpr (by simp [first, second])
        split
        · exact both
        · exact both
      · refine (Builds.mapM (fun entry => ?_) _).bind fun entries all =>
          .pure (Value.entriesAreRecordless_iff.mpr all)
        exact (ih _ _).bind fun _ fine => .pure fine
      · exact .pure fine
    have emptied : closed.isRecordless := by
      simp only [closed]
      split <;> rfl
    split
    · have ends (value : Value) (fine : value.isRecordless) :
          Builds (last value) fun value => value.isRecordless := .pure fine
      split
      · exact parts.bind ends
      · exact Builds.bind (.pure emptied) ends
    · refine .get fun known fine => ?_
      split
      · rename_i value found
        exact .pure (fine n value (Option.join_eq_some_iff.mp found))
      · refine parts.bind fun value held => ?_
        exact (Builds.modify fun known before => before.set held n).bind fun _ _ => .pure held

/-- The value of a document has no records. -/
theorem isRecordless_value (recordless : d.Recordless) : d.value.isRecordless := by
  refine ((valueIn_builds recordless d.loops _ [] 0).builds _ fun n value stands => ?_).1
  rw [Array.getElem?_replicate] at stands
  split at stands <;> cases stands

end Filled

theorem Graph.isRecordless_of_value {g : Graph} {value : Value} (came : g.value = .ok value) :
    value.isRecordless := by
  unfold Graph.value at came
  cases shapes : g.shapes with
  | error => rw [shapes] at came; cases came
  | ok all =>
    rw [shapes] at came
    cases came
    refine Filled.isRecordless_value fun n => ?_
    unfold Filled.shape
    cases stands : all[n]? with
    | none => rfl
    | some shape? =>
      cases shape? with
      | none => rfl
      | some shape => exact Graph.isRecordless_of_shapes shapes n stands

theorem isRecordless_of_valuesOf {fault? : Option Fault} {graphs : List Graph} :
    ∀ value ∈ (valuesOf fault? graphs).1, value.isRecordless := by
  induction graphs with
  | nil => exact nofun
  | cons graph rest ih =>
    rw [valuesOf]
    split
    · exact nofun
    · rename_i value came
      exact List.forall_mem_cons.mpr ⟨Graph.isRecordless_of_value came, ih⟩

/-- The documents of a source have no records. -/
theorem Source.isRecordless_of_documents (source : Source) (serial : Nat) :
    ∀ value ∈ (source.documents serial).values, value.isRecordless := by
  unfold documents
  split
  · exact nofun
  · exact isRecordless_of_valuesOf

end Yaml

end AccessPolicy
