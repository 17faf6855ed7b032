import AccessPolicy.Proofs.JsonReading
import AccessPolicy.Proofs.Task
import Mathlib.Data.List.TakeWhile

/-! What is told of a refused policy. A fault without a place in a response, as a detail that is a
computation or text with surrogates, leaves the run without a report; every other fault is told
as it is. -/

namespace AccessPolicy

namespace Value

mutual

def isNameable : Value → Bool
  | .bytes content => (Text.ofUtf8 content).isOk
  | .tuple parts => allNameable parts
  | .literal .. | .userPath .. => false
  | key => !key.holdsLongNumber

def allNameable : List Value → Bool
  | [] => true
  | part :: rest => part.isNameable && allNameable rest

end

mutual

/-- Whether a value has a form in a response, if it is not too deep. -/
def isTellable : Value → Bool
  | .null | .bool _ | .int _ | .float _ | .date _ | .moment _ => true
  | .text s => Text.isScalar s
  | .bytes content => (Text.ofUtf8 content).isOk
  | .list items | .tuple items | .set items => allTellable items
  | .map entries => entriesTellable entries
  | .condition _ compute => compute.isTellable
  | .record _ | .literal .. | .userPath .. | .cyclic .. => false

def allTellable : List Value → Bool
  | [] => true
  | item :: rest => item.isTellable && allTellable rest

def entriesTellable : List (Value × Value) → Bool
  | [] => true
  | (key, value) :: rest => key.isNameable && value.isTellable && entriesTellable rest

end

mutual

/-- How many values stand within one another. A condition counts for two with its operator. -/
def height : Value → Nat
  | .list items | .tuple items | .set items => heights items + 1
  | .map entries => entryHeights entries + 1
  | .condition _ compute => max 2 compute.height + 1
  | _ => 1

def heights : List Value → Nat
  | [] => 0
  | item :: rest => max item.height (heights rest)

def entryHeights : List (Value × Value) → Nat
  | [] => 0
  | (_, value) :: rest => max value.height (entryHeights rest)

end

def spoken (text : String) : Json.Reading := .text (Text.Surrogate.codes text.toList)

/-- The name that a key gives a field; a surrogate in it is lost. -/
def spokenName (key : Value) : List Nat :=
  key.responseKey.toOption.elim [] (Json.readText .unicode)

mutual

def telling : Value → Json.Reading
  | .null => .null
  | .bool b => .bool b
  | .int i => .number (toString i)
  | .float x => Json.readFloat .unicode x
  | .text s => spoken s
  | .bytes content => (Text.ofUtf8 content).toOption.elim .null spoken
  | .date d => spoken d.iso
  | .moment m => spoken m.short
  | .list items | .tuple items | .set items => .list (tellings items)
  | .map entries => .object (fieldTellings entries)
  | .condition operator compute => .object
    [(Text.Surrogate.codes "operator".toList, spoken operator.tag),
     (Text.Surrogate.codes "compute".toList, compute.telling)]
  | .record _ | .literal .. | .userPath .. | .cyclic .. => .null

def tellings : List Value → List Json.Reading
  | [] => []
  | item :: rest => item.telling :: tellings rest

def fieldTellings : List (Value × Value) → List (List Nat × Json.Reading)
  | [] => []
  | (key, value) :: rest => (key.spokenName, value.telling) :: fieldTellings rest

end

mutual

theorem isOk_responseKey (key : Value) : key.responseKey.isOk = key.isNameable := by
  cases key with
  | bytes content =>
    rw [responseKey, isNameable]
    cases Text.ofUtf8 content <;> rfl
  | tuple parts =>
    rw [responseKey, isNameable, ← isOk_responseKeys parts]
    cases responseKeys parts <;> rfl
  | float x => cases x <;> rfl
  | null | bool | text | date | moment | literal | userPath => rfl
  | int | list | set | map | record | condition | cyclic =>
    simp only [responseKey, isNameable]
    split <;> simp_all [Except.isOk, Except.toBool]

theorem isOk_responseKeys (parts : List Value) : (responseKeys parts).isOk = allNameable parts := by
  cases parts with
  | nil => rfl
  | cons part rest =>
    rw [responseKeys, allNameable, ← isOk_responseKey part, ← isOk_responseKeys rest]
    cases part.responseKey with
    | error => rfl
    | ok => cases responseKeys rest <;> rfl

end

/-- A writer gives something, read as told, on a condition. -/
def Comes {α β : Type} (given : Except ResponseFault α) (read : α → β) (p : Prop) (told : β) : Prop :=
  (p → ∃ x, given = .ok x ∧ read x = told) ∧ (¬ p → ∃ fault, given = .error fault)

namespace Comes

variable {α β γ δ : Type} {given : Except ResponseFault α} {read : α → β} {p q : Prop} {told : β}

theorem map (comes : Comes given read p told) (f : α → γ) (g : β → δ) {read' : γ → δ}
    (agree : ∀ x, read' (f x) = g (read x)) :
    Comes (do return f (← given)) read' p (g told) := by
  refine ⟨fun holds => ?_, fun fails => ?_⟩
  · obtain ⟨x, rfl, rfl⟩ := comes.1 holds
    exact ⟨f x, rfl, agree x⟩
  · obtain ⟨fault, rfl⟩ := comes.2 fails
    exact ⟨fault, rfl⟩

/-- What is given after something else is given if both are. -/
theorem bind {next : α → Except ResponseFault γ} {read' : γ → δ} {told' : δ}
    (comes : Comes given read p told)
    (others : ∀ x, read x = told → Comes (next x) read' q told') :
    Comes (given >>= next) read' (p ∧ q) told' := by
  by_cases holds : p
  · obtain ⟨x, rfl, same⟩ := comes.1 holds
    have after := others x same
    exact ⟨fun both => after.1 both.2, fun fails => after.2 fun holds' => fails ⟨holds, holds'⟩⟩
  · obtain ⟨fault, rfl⟩ := comes.2 holds
    exact ⟨fun both => absurd both.1 holds, fun _ => ⟨fault, rfl⟩⟩

theorem congr (comes : Comes given read p told) (same : q ↔ p) : Comes given read q told :=
  ⟨fun holds => comes.1 (same.mp holds), fun fails => comes.2 (mt same.mpr fails)⟩

theorem of_ok {x : α} (holds : p) (same : read x = told) : Comes (.ok x) read p told :=
  ⟨fun _ => ⟨x, rfl, same⟩, absurd holds⟩

theorem of_error {fault : ResponseFault} (fails : ¬ p) : Comes (.error fault) read p told :=
  ⟨fun holds => absurd holds fails, fun _ => ⟨fault, rfl⟩⟩

end Comes

/-- With room for some values within one another, a value is told if it has a form and is not
deeper than that. -/
def IsTold (value : Value) : Prop := ∀ room,
  Comes (value.responseJson room) (Json.reading .unicode)
    (value.isTellable ∧ value.height ≤ room) value.telling

theorem key_told (key : Value) :
    Comes key.responseKey (Json.readText .unicode) key.isNameable key.spokenName := by
  rw [← isOk_responseKey, spokenName]
  cases key.responseKey with
  | ok name => exact .of_ok rfl rfl
  | error fault => exact .of_error nofun

theorem height_pos (value : Value) : 0 < value.height := by
  cases value <;> simp [height]

theorem isTold_of_room {value : Value} (each : ∀ room,
    Comes (value.responseJson (room + 1)) (Json.reading .unicode)
      (value.isTellable ∧ value.height ≤ room + 1) value.telling) : value.IsTold := by
  rintro (_ | room)
  · refine ⟨fun told => absurd told.2 (Nat.not_le.mpr value.height_pos), fun _ => ⟨.deep, ?_⟩⟩
    unfold responseJson
    rfl
  · exact each room

theorem reading_scalar {text : String} (scalar : Text.isScalar text) :
    (Json.text text).reading .unicode = spoken text :=
  congrArg Json.Reading.text (Json.readText_unicode (Text.forall_of_isScalar scalar))

/-- What has no values within it is told as what is written for it. -/
theorem isTold_of_ok {value : Value} {json : Json} (tellable : value.isTellable)
    (flat : value.height = 1) (written : ∀ room, value.responseJson (room + 1) = .ok json)
    (same : json.reading .unicode = value.telling) : value.IsTold := by
  refine isTold_of_room fun room => ?_
  rw [written]
  exact .of_ok ⟨tellable, by omega⟩ same

theorem isTold_of_error {value : Value} (untellable : ¬ value.isTellable)
    (written : ∀ room, ∃ fault, value.responseJson (room + 1) = .error fault) : value.IsTold := by
  refine isTold_of_room fun room => ?_
  obtain ⟨fault, same⟩ := written room
  rw [same]
  exact .of_error fun told => untellable told.1

theorem text_told (s : String) : (text s).IsTold := by
  cases unwritable : Text.EncodingFault.ofText? s with
  | none =>
    have scalar := Text.EncodingFault.ofText?_eq_none_iff.mp unwritable
    refine isTold_of_ok scalar rfl (fun room => ?_) (reading_scalar scalar)
    simp [responseJson, unwritable]
  | some fault =>
    refine isTold_of_error (fun scalar => ?_) fun room => ⟨.surrogates fault, ?_⟩
    · rw [Text.EncodingFault.ofText?_eq_none_iff.mpr scalar] at unwritable
      cases unwritable
    · simp [responseJson, unwritable]

theorem bytes_told (content : List UInt8) : (bytes content).IsTold := by
  cases decoded : Text.ofUtf8 content with
  | ok text =>
    have scalar := Text.isScalar_of_ofUtf8 decoded
    have written (room : Nat) : (bytes content).responseJson (room + 1) = .ok (.text text) := by
      simp [responseJson, responseText, decoded]
    refine isTold_of_ok ?_ rfl written ?_
    · rw [isTellable, decoded]
      rfl
    · rw [reading_scalar scalar, telling, decoded]
      rfl
  | error fault =>
    refine isTold_of_error ?_ fun room => ?_
    · rw [isTellable, decoded]
      nofun
    · have broken : ∃ fault, responseText content = .error fault := by
        rw [responseText, decoded]
        dsimp only
        split <;> exact ⟨_, rfl⟩
      obtain ⟨fault, broken⟩ := broken
      exact ⟨fault, by simp [responseJson, broken]⟩

/-- An operator takes the room of two, and what it computes is told with the room that is left. -/
theorem condition_told {compute : Value} (told : compute.IsTold) (operator : Operator) :
    (condition operator compute).IsTold := by
  refine isTold_of_room fun room => ?_
  rw [responseJson.eq_def, if_neg (Nat.succ_ne_zero room)]
  dsimp only
  split
  · refine .of_error fun told => ?_
    have := told.2
    rw [height] at this
    omega
  · refine ((told room).map
      (fun json => Json.object [("operator", .text operator.tag), ("compute", json)])
      (fun reading => Json.Reading.object [(Text.Surrogate.codes "operator".toList,
        spoken operator.tag), (Text.Surrogate.codes "compute".toList, reading)])
      fun json => ?_).congr ?_
    · cases operator <;> rfl
    · simp only [isTellable, height]
      exact and_congr_right fun _ => by omega

mutual

theorem isTold (value : Value) : value.IsTold := by
  cases value with
  | null | bool | int | float => exact isTold_of_ok rfl rfl (fun _ => rfl) rfl
  | text s => exact text_told s
  | bytes content => exact bytes_told content
  | date d =>
    exact isTold_of_ok rfl rfl (fun _ => rfl)
      (reading_scalar (Text.isScalar_of_isAscii d.isAscii_iso))
  | moment m =>
    exact isTold_of_ok rfl rfl (fun _ => rfl)
      (reading_scalar (Text.isScalar_of_isAscii m.isAscii_short))
  | list items | tuple items | set items =>
    refine isTold_of_room fun room => ?_
    rw [responseJson.eq_def, if_neg (Nat.succ_ne_zero room)]
    exact ((items_told items room).map Json.list Json.Reading.list fun _ => rfl).congr
      (by simp [isTellable, height])
  | map entries =>
    refine isTold_of_room fun room => ?_
    rw [responseJson.eq_def, if_neg (Nat.succ_ne_zero room)]
    exact ((entries_told entries room).map Json.object Json.Reading.object fun _ => rfl).congr
      (by simp [isTellable, height])
  | condition operator compute => exact condition_told (isTold compute) operator
  | record | literal | userPath => exact isTold_of_error nofun fun _ => ⟨_, rfl⟩
  | cyclic serial value =>
    refine isTold_of_error nofun fun room => ?_
    rw [responseJson.eq_def, if_neg (Nat.succ_ne_zero room)]
    dsimp only
    cases value.responseJson (room + 1) <;> exact ⟨_, rfl⟩

theorem items_told (items : List Value) (room : Nat) :
    Comes (responseItems room items) (Json.itemReadings .unicode)
      (allTellable items ∧ heights items ≤ room) (tellings items) := by
  cases items with
  | nil => exact .of_ok (by simp [allTellable, heights]) rfl
  | cons item rest =>
    rw [responseItems]
    refine ((isTold item room).bind fun json told => (items_told rest room).map (json :: ·)
      (item.telling :: ·) fun _ => by rw [Json.itemReadings, told]).congr ?_
    simp only [allTellable, heights, Bool.and_eq_true, Nat.max_le]
    tauto

theorem entries_told (entries : List (Value × Value)) (room : Nat) :
    Comes (responseFields room entries) (Json.fieldReadings .unicode)
      (entriesTellable entries ∧ entryHeights entries ≤ room) (fieldTellings entries) := by
  match entries with
  | [] => exact .of_ok (by simp [entriesTellable, entryHeights]) rfl
  | (key, value) :: rest =>
    rw [responseFields]
    refine (key.key_told.bind fun name named => (isTold value room).bind fun json told =>
      (entries_told rest room).map ((name, json) :: ·) ((key.spokenName, value.telling) :: ·)
        fun _ => by rw [Json.fieldReadings, named, told]).congr ?_
    simp only [entriesTellable, entryHeights, Bool.and_eq_true, Nat.max_le]
    tauto

end

end Value

namespace Fault

/-- Whether a response can tell of a fault: its message is text without surrogates, and the values
among its details have forms and are not too deep. -/
def isTellable (fault : Fault) : Bool :=
  Text.isScalar fault.message &&
    fault.details.all fun (_, value) => value.isTellable && value.height ≤ Value.responseDepth

def telling (code : String) (fault : Fault) : Json.Reading :=
  .object
    [(Text.Surrogate.codes "code".toList, Value.spoken code),
     (Text.Surrogate.codes "message".toList, Value.spoken fault.message),
     (Text.Surrogate.codes "details".toList, .object (fault.details.map fun (name, value) =>
        (Text.Surrogate.codes name.toList, value.telling)))]

/-- All that stands in the way of telling of an illegal source is its message, which names it. -/
theorem isTellable_illegal (source : Option String) (cause : Fault) :
    (illegal source cause).isTellable = Text.isScalar (illegal source cause).message := by
  cases source with
  | none => simp [isTellable, details]
  | some source =>
    have room : 1 ≤ Value.responseDepth := by decide
    have within (rest : String) (scalar : Text.isScalar (source ++ ": " ++ rest)) :
        Text.isScalar source := by
      have parts : (source ++ ": " ++ rest).toList = source.toList ++ ':' :: ' ' :: rest.toList := by
        simp [String.toList_append]
      rw [Text.isScalar, parts, Text.Surrogate.codes_append (by decide) (by decide)] at scalar
      exact (List.all_append ▸ scalar |> Bool.and_eq_true_iff.mp).1
    simp only [isTellable, details, List.all_cons, List.all_nil, Value.isTellable, Value.height,
      room, decide_true, Bool.and_true]
    rw [Bool.and_eq_left_iff_imp]
    intro scalar
    rw [show (illegal (some source) cause).message = _ from String.append_assoc] at scalar
    exact within _ scalar

/-- Of a statement out of place it is what it was given. -/
theorem isTellable_scope (problem : ScopeFault) : (scope problem).isTellable =
    problem.details.all fun (_, value) => value.isTellable && value.height ≤ Value.responseDepth := by
  have scalar : Text.isScalar problem.message := by
    cases problem <;> dsimp only [ScopeFault.message] <;> decide +kernel
  rw [isTellable, message, scalar, Bool.true_and, details]

end Fault

namespace Command

variable {environment : List (String × String)} {directory : File.Directory}
  {arguments : List String} {task : Task}

end Command

end AccessPolicy
