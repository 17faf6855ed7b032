import AccessPolicy.Value.Equality

/-! Being the same name is an equivalence of values. Maps, sets and records are compared as
collections, so it is shown by way of the parts of a value. -/

namespace AccessPolicy.Value

def parts : Value → List Value
  | .list items | .tuple items | .set items => items
  | .map entries => entries.flatMap fun e => [e.1, e.2]
  | .record fields => fields.map Prod.snd
  | .condition _ compute => [compute]
  | _ => []

theorem key_mem_parts {entries : List (Value × Value)} {e : Value × Value} (member : e ∈ entries) :
    e.1 ∈ parts (.map entries) := List.mem_flatMap.mpr ⟨e, member, by simp⟩

theorem value_mem_parts {entries : List (Value × Value)} {e : Value × Value}
    (member : e ∈ entries) : e.2 ∈ parts (.map entries) :=
  List.mem_flatMap.mpr ⟨e, member, by simp⟩

theorem sizeOf_entry_lt {entries : List (Value × Value)} {e : Value × Value} (member : e ∈ entries) :
    sizeOf e.1 < sizeOf entries ∧ sizeOf e.2 < sizeOf entries := by
  have inside := List.sizeOf_lt_of_mem member
  have pair : sizeOf e = 1 + sizeOf e.1 + sizeOf e.2 := by cases e; rfl
  omega

theorem sizeOf_part_lt {value part : Value} (member : part ∈ parts value) :
    sizeOf part < sizeOf value := by
  cases value with
  | list items | tuple items | set items =>
    have inside := List.sizeOf_lt_of_mem (show part ∈ items from member)
    simp only [list.sizeOf_spec, tuple.sizeOf_spec, set.sizeOf_spec]
    omega
  | map entries =>
    obtain ⟨e, held, isPart⟩ := List.mem_flatMap.mp (show part ∈ entries.flatMap _ from member)
    have inside := sizeOf_entry_lt held
    simp only [List.mem_cons, List.not_mem_nil, or_false] at isPart
    rw [map.sizeOf_spec]
    rcases isPart with rfl | rfl <;> omega
  | record fields =>
    obtain ⟨field, held, rfl⟩ := List.mem_map.mp (show part ∈ fields.map Prod.snd from member)
    have inside := List.sizeOf_lt_of_mem held
    have pair : sizeOf field = 1 + sizeOf field.1 + sizeOf field.2 := by cases field; rfl
    rw [record.sizeOf_spec]
    omega
  | condition operator compute =>
    obtain rfl := List.mem_singleton.mp (show part ∈ [compute] from member)
    rw [condition.sizeOf_spec]
    omega
  | _ => cases member

/-- What holds of a value by way of its parts holds of every value. -/
theorem parts_induction {holds : Value → Prop}
    (step : ∀ value, (∀ part ∈ parts value, holds part) → holds value) (value : Value) :
    holds value :=
  step value fun part _ => parts_induction step part
termination_by sizeOf value
decreasing_by exact sizeOf_part_lt (by assumption)

structure Matched {α : Type} (like : α → α → Prop) (xs ys : List α) : Prop where
  left : ∀ x ∈ xs, ∃ y ∈ ys, like x y
  right : ∀ y ∈ ys, ∃ x ∈ xs, like x y

namespace Matched

variable {α : Type} {like : α → α → Prop} {xs ys zs : List α}

theorem iff_each : Matched like xs ys ↔
    (∀ x ∈ xs, ∃ y ∈ ys, like x y) ∧ ∀ y ∈ ys, ∃ x ∈ xs, like x y := by
  constructor
  · intro matched
    exact ⟨matched.left, matched.right⟩
  · rintro ⟨left, right⟩
    exact ⟨left, right⟩

theorem refl (each : ∀ x ∈ xs, like x x) : Matched like xs xs :=
  ⟨fun x held => ⟨x, held, each x held⟩, fun x held => ⟨x, held, each x held⟩⟩

theorem symm (each : ∀ x ∈ xs, ∀ y, like x y → like y x) (matched : Matched like xs ys) :
    Matched like ys xs := by
  refine ⟨fun y held => ?_, fun x held => ?_⟩
  · obtain ⟨x, inside, alike⟩ := matched.right y held
    exact ⟨x, inside, each x inside y alike⟩
  · obtain ⟨y, inside, alike⟩ := matched.left x held
    exact ⟨y, inside, each x held y alike⟩

theorem trans (each : ∀ x ∈ xs, ∀ y z, like x y → like y z → like x z)
    (first : Matched like xs ys) (second : Matched like ys zs) : Matched like xs zs := by
  refine ⟨fun x held => ?_, fun z held => ?_⟩
  · obtain ⟨y, inside, alike⟩ := first.left x held
    obtain ⟨z, within, alike'⟩ := second.left y inside
    exact ⟨z, within, each x held y z alike alike'⟩
  · obtain ⟨y, inside, alike'⟩ := second.right z held
    obtain ⟨x, within, alike⟩ := first.right y inside
    exact ⟨x, within, each x within y z alike alike'⟩

end Matched

def SameEntry (e f : Value × Value) : Prop := same e.1 f.1 ∧ same e.2 f.2

def SameField (r s : String × Value) : Prop := r.1 = s.1 ∧ same r.2 s.2

section Collections

variable {x : Value} {xs ys : List Value}

theorem sameItems_refl (each : ∀ x ∈ xs, same x x) : sameItems xs xs := by
  induction xs with
  | nil => simp [sameItems]
  | cons x xs ih => simp [sameItems, each x (by simp), ih fun x held => each x (by simp [held])]

theorem sameItems_symm (each : ∀ x ∈ xs, ∀ b, same x b → same b x) (items : sameItems xs ys) :
    sameItems ys xs := by
  induction xs generalizing ys with
  | nil => cases ys <;> simp_all [sameItems]
  | cons x xs ih =>
    cases ys with
    | nil => simp [sameItems] at items
    | cons y ys =>
      simp only [sameItems, Bool.and_eq_true] at items ⊢
      exact ⟨each x (by simp) y items.1, ih (fun x held => each x (by simp [held])) items.2⟩

theorem sameItems_trans {zs : List Value}
    (each : ∀ x ∈ xs, ∀ b c, same x b → same b c → same x c) (first : sameItems xs ys)
    (second : sameItems ys zs) : sameItems xs zs := by
  induction xs generalizing ys zs with
  | nil => cases ys <;> simp_all [sameItems]
  | cons x xs ih =>
    cases ys with
    | nil => simp [sameItems] at first
    | cons y ys =>
      cases zs with
      | nil => simp [sameItems] at second
      | cons z zs =>
        simp only [sameItems, Bool.and_eq_true] at first second ⊢
        exact ⟨each x (by simp) y z first.1 second.1,
          ih (fun x held => each x (by simp [held])) first.2 second.2⟩

theorem eachIn_iff : eachIn xs ys ↔ ∀ x ∈ xs, ∃ y ∈ ys, same x y := by
  induction xs with
  | nil => simp [eachIn]
  | cons x xs ih => simp [eachIn, ih]

theorem meets_iff : meets xs x ↔ ∃ y ∈ xs, same y x := by
  induction xs with
  | nil => simp [meets]
  | cons y ys ih => simp [meets, ih]

variable {es fs : List (Value × Value)} {e : Value × Value}

theorem eachEntryIn_iff : eachEntryIn es fs ↔ ∀ e ∈ es, ∃ f ∈ fs, SameEntry e f := by
  induction es with
  | nil => simp [eachEntryIn]
  | cons e es ih =>
    obtain ⟨k, v⟩ := e
    simp [eachEntryIn, ih, SameEntry]

theorem meetsEntry_iff : meetsEntry es e ↔ ∃ f ∈ es, SameEntry f e := by
  induction es with
  | nil => simp [meetsEntry]
  | cons f es ih =>
    obtain ⟨k, v⟩ := f
    simp [meetsEntry, ih, SameEntry]

variable {rs ss : List (String × Value)} {r : String × Value}

theorem eachFieldIn_iff : eachFieldIn rs ss ↔ ∀ r ∈ rs, ∃ s ∈ ss, SameField r s := by
  induction rs with
  | nil => simp [eachFieldIn]
  | cons r rs ih =>
    obtain ⟨k, v⟩ := r
    simp [eachFieldIn, ih, SameField]

theorem meetsField_iff : meetsField rs r ↔ ∃ s ∈ rs, SameField s r := by
  induction rs with
  | nil => simp [meetsField]
  | cons s rs ih =>
    obtain ⟨k, v⟩ := s
    simp [meetsField, ih, SameField]

end Collections

/-- Values compared by what they hold, collections without regard to order. -/
theorem same_iff (a b : Value) : same a b ↔ match a, b with
    | .list xs, .list ys => sameItems xs ys
    | .tuple xs, .tuple ys => sameItems xs ys
    | .set xs, .set ys => Matched (same · ·) xs ys
    | .map es, .map fs => Matched SameEntry es fs
    | .record rs, .record ss => Matched SameField rs ss
    | .condition operator x, .condition other y => operator = other ∧ same x y
    | a, b => sameLeaf a b := by
  rw [same.eq_def]
  split <;> simp [Matched.iff_each, eachIn_iff, meets_iff, eachEntryIn_iff, meetsEntry_iff,
    eachFieldIn_iff, meetsField_iff]

inductive Leaf where
  | null
  | numeral (numeral : Number.Numeral)
  | text (text : String)
  | bytes (bytes : List UInt8)
  | date (date : Time.Date)
  | instant (instant : Bool × Int)
  | literal (serial : Nat)
  | userPath (serial : Nat)
  | cyclic (serial : Nat)

def leaf? : Value → Option Leaf
  | .null => some .null
  | .bool b => some (.numeral (.integral (if b then 1 else 0)))
  | .int i => some (.numeral (.integral i))
  | .float x => some (.numeral x.numeral)
  | .text s => some (.text s)
  | .bytes b => some (.bytes b)
  | .date d => some (.date d)
  | .moment m => some (.instant m.instant)
  | .literal serial _ => some (.literal serial)
  | .userPath serial _ => some (.userPath serial)
  | .cyclic serial _ => some (.cyclic serial)
  | _ => none

theorem same_iff_of_leaf {a : Value} {leaf : Leaf} (isLeaf : leaf? a = some leaf) (b : Value) :
    same a b ↔ leaf? b = some leaf := by
  rw [same_iff]
  cases a <;> cases isLeaf <;> cases b <;> simp [sameLeaf, numeral?, leaf?, eq_comm]

section Collections

variable {b : Value}

theorem same_list_iff {xs : List Value} :
    same (.list xs) b ↔ ∃ ys, b = .list ys ∧ sameItems xs ys := by
  rw [same_iff]
  constructor
  · intro alike
    cases b with
    | list ys => exact ⟨ys, rfl, alike⟩
    | _ => cases (show false = true from alike)
  · rintro ⟨ys, rfl, alike⟩
    exact alike

theorem same_tuple_iff {xs : List Value} :
    same (.tuple xs) b ↔ ∃ ys, b = .tuple ys ∧ sameItems xs ys := by
  rw [same_iff]
  constructor
  · intro alike
    cases b with
    | tuple ys => exact ⟨ys, rfl, alike⟩
    | _ => cases (show false = true from alike)
  · rintro ⟨ys, rfl, alike⟩
    exact alike

theorem same_set_iff {xs : List Value} :
    same (.set xs) b ↔ ∃ ys, b = .set ys ∧ Matched (same · ·) xs ys := by
  rw [same_iff]
  constructor
  · intro alike
    cases b with
    | set ys => exact ⟨ys, rfl, alike⟩
    | _ => cases (show false = true from alike)
  · rintro ⟨ys, rfl, alike⟩
    exact alike

theorem same_map_iff {es : List (Value × Value)} :
    same (.map es) b ↔ ∃ fs, b = .map fs ∧ Matched SameEntry es fs := by
  rw [same_iff]
  constructor
  · intro alike
    cases b with
    | map fs => exact ⟨fs, rfl, alike⟩
    | _ => cases (show false = true from alike)
  · rintro ⟨fs, rfl, alike⟩
    exact alike

theorem same_record_iff {rs : List (String × Value)} :
    same (.record rs) b ↔ ∃ ss, b = .record ss ∧ Matched SameField rs ss := by
  rw [same_iff]
  constructor
  · intro alike
    cases b with
    | record ss => exact ⟨ss, rfl, alike⟩
    | _ => cases (show false = true from alike)
  · rintro ⟨ss, rfl, alike⟩
    exact alike

theorem same_condition_iff {operator : Operator} {x : Value} :
    same (.condition operator x) b ↔ ∃ y, b = .condition operator y ∧ same x y := by
  rw [same_iff]
  constructor
  · intro alike
    cases b with
    | condition other y =>
      obtain ⟨rfl, alike⟩ := alike
      exact ⟨y, rfl, alike⟩
    | _ => cases (show false = true from alike)
  · rintro ⟨y, rfl, alike⟩
    exact ⟨rfl, alike⟩

end Collections

theorem same_refl (value : Value) : same value value := by
  induction value using parts_induction with
  | step value ih =>
    cases value with
    | list items => exact same_list_iff.mpr ⟨items, rfl, sameItems_refl ih⟩
    | tuple items => exact same_tuple_iff.mpr ⟨items, rfl, sameItems_refl ih⟩
    | set items => exact same_set_iff.mpr ⟨items, rfl, .refl ih⟩
    | map entries =>
      exact same_map_iff.mpr ⟨entries, rfl, .refl fun e held =>
        ⟨ih _ (key_mem_parts held), ih _ (value_mem_parts held)⟩⟩
    | record fields =>
      exact same_record_iff.mpr ⟨fields, rfl, .refl fun r held =>
        ⟨rfl, ih _ (List.mem_map_of_mem held)⟩⟩
    | condition operator compute =>
      exact same_condition_iff.mpr ⟨compute, rfl, ih compute (List.mem_singleton.mpr rfl)⟩
    | _ => exact (same_iff_of_leaf rfl _).mpr rfl

theorem same_symm {a b : Value} : same a b → same b a := by
  induction a using parts_induction generalizing b with
  | step a ih =>
    intro together
    cases a with
    | list xs =>
      obtain ⟨ys, rfl, items⟩ := same_list_iff.mp together
      exact same_list_iff.mpr ⟨xs, rfl, sameItems_symm (fun x held _ => ih x held) items⟩
    | tuple xs =>
      obtain ⟨ys, rfl, items⟩ := same_tuple_iff.mp together
      exact same_tuple_iff.mpr ⟨xs, rfl, sameItems_symm (fun x held _ => ih x held) items⟩
    | set xs =>
      obtain ⟨ys, rfl, matched⟩ := same_set_iff.mp together
      exact same_set_iff.mpr ⟨xs, rfl, matched.symm fun x held _ => ih x held⟩
    | map es =>
      obtain ⟨fs, rfl, matched⟩ := same_map_iff.mp together
      refine same_map_iff.mpr ⟨es, rfl, matched.symm fun e held f alike => ?_⟩
      exact ⟨ih _ (key_mem_parts held) alike.1, ih _ (value_mem_parts held) alike.2⟩
    | record rs =>
      obtain ⟨ss, rfl, matched⟩ := same_record_iff.mp together
      refine same_record_iff.mpr ⟨rs, rfl, matched.symm fun r held s alike => ?_⟩
      exact ⟨alike.1.symm, ih _ (List.mem_map_of_mem held) alike.2⟩
    | condition operator x =>
      obtain ⟨y, rfl, like⟩ := same_condition_iff.mp together
      exact same_condition_iff.mpr ⟨x, rfl, ih x (List.mem_singleton.mpr rfl) like⟩
    | _ => exact (same_iff_of_leaf ((same_iff_of_leaf rfl b).mp together) _).mpr rfl

theorem same_trans {a b c : Value} : same a b → same b c → same a c := by
  induction a using parts_induction generalizing b c with
  | step a ih =>
    intro first second
    cases a with
    | list xs =>
      obtain ⟨ys, rfl, items⟩ := same_list_iff.mp first
      obtain ⟨zs, rfl, more⟩ := same_list_iff.mp second
      exact same_list_iff.mpr ⟨zs, rfl, sameItems_trans (fun x held _ _ => ih x held) items more⟩
    | tuple xs =>
      obtain ⟨ys, rfl, items⟩ := same_tuple_iff.mp first
      obtain ⟨zs, rfl, more⟩ := same_tuple_iff.mp second
      exact same_tuple_iff.mpr ⟨zs, rfl, sameItems_trans (fun x held _ _ => ih x held) items more⟩
    | set xs =>
      obtain ⟨ys, rfl, matched⟩ := same_set_iff.mp first
      obtain ⟨zs, rfl, matched'⟩ := same_set_iff.mp second
      exact same_set_iff.mpr ⟨zs, rfl, matched.trans (fun x held _ _ => ih x held) matched'⟩
    | map es =>
      obtain ⟨fs, rfl, matched⟩ := same_map_iff.mp first
      obtain ⟨gs, rfl, matched'⟩ := same_map_iff.mp second
      refine same_map_iff.mpr ⟨gs, rfl, matched.trans (fun e held f g alike alike' => ?_) matched'⟩
      exact ⟨ih _ (key_mem_parts held) alike.1 alike'.1,
        ih _ (value_mem_parts held) alike.2 alike'.2⟩
    | record rs =>
      obtain ⟨ss, rfl, matched⟩ := same_record_iff.mp first
      obtain ⟨ts, rfl, matched'⟩ := same_record_iff.mp second
      refine same_record_iff.mpr ⟨ts, rfl,
        matched.trans (fun r held s t alike alike' => ?_) matched'⟩
      exact ⟨alike.1.trans alike'.1, ih _ (List.mem_map_of_mem held) alike.2 alike'.2⟩
    | condition operator x =>
      obtain ⟨y, rfl, like⟩ := same_condition_iff.mp first
      obtain ⟨z, rfl, like'⟩ := same_condition_iff.mp second
      exact same_condition_iff.mpr ⟨z, rfl, ih x (List.mem_singleton.mpr rfl) like like'⟩
    | _ =>
      have leaf := (same_iff_of_leaf rfl b).mp first
      exact (same_iff_of_leaf rfl c).mpr ((same_iff_of_leaf leaf c).mp second)

end AccessPolicy.Value
