import AccessPolicy.Proofs.Accounting
import AccessPolicy.Proofs.JsonReading
import AccessPolicy.Proofs.ReadBack
import AccessPolicy.Proofs.Task
import Mathlib.Data.List.Nodup
import Mathlib.Data.Option.Basic

/-! The roles of a policy in a summary that is printed as a document. A field is named by the text
of its role, and roles that are not the same may have one text: a number and the text of its
digits do. -/

namespace AccessPolicy

namespace Text

/-- The code points of a text with its pairs of surrogates joined, as a document shows it. -/
def points (text : String) : List Nat := Surrogate.joined (Surrogate.codes text.toList)

theorem points_of_isAscii {text : String} (ascii : isAscii text) :
    points text = text.toList.map Char.toNat := by
  rw [points, Surrogate.codes_of_isAscii ascii, Json.joined_eq_self]
  intro code held
  obtain ⟨c, -, rfl⟩ := List.mem_map.mp held
  exact Surrogate.isSurrogate_toNat c

theorem points_inj_of_isAscii {s t : String} (ascii : isAscii s) (ascii' : isAscii t) :
    points s = points t ↔ s = t := by
  rw [points_of_isAscii ascii, points_of_isAscii ascii',
    (List.map_injective_iff.mpr fun _ _ => Char.toNat_inj.mp).eq_iff, String.toList_inj]

end Text

namespace Value

/-- The code points that a value is named by, if it can name a field. -/
def word? (value : Value) : Option (List Nat) := value.jsonKey?.map Text.points

/-- One value is the text that the other is named by, or neither is a number. -/
def WrittenAlike : Value → Value → Prop
  | .text s, b => b.word? = some (Text.points s)
  | a, .text t => a.word? = some (Text.points t)
  | a, b => a.isNan ∧ b.isNan

def isText : Value → Bool
  | .text _ => true
  | _ => false

def kindNamed (name : String) : Kind :=
  if name = "null" then .null
  else if name = "true" ∨ name = "false" then .bool
  else if name.toList.any (['.', 'e', 'N', 'I'].contains ·) then .float
  else .int

theorem kindNamed_of_numeral {name : String} (numeral : ∀ c ∈ name.toList, Number.isNumeral c) :
    kindNamed name =
      if name.toList.any (['.', 'e', 'N', 'I'].contains ·) then .float else .int := by
  have other {word : String} (odd : word.toList.any fun c => !Number.isNumeral c) : name ≠ word := by
    rintro rfl
    obtain ⟨c, held, foreign⟩ := List.any_eq_true.mp odd
    rw [numeral c held] at foreign
    cases foreign
  rw [kindNamed, if_neg (other (by decide)),
    if_neg (not_or.mpr ⟨other (by decide), other (by decide)⟩)]

/-- But for texts, a name is written in ASCII and tells what kind of value it is the name of. -/
theorem kindNamed_of_jsonKey? {value : Value} {name : String} (named : value.jsonKey? = some name)
    (notText : ¬ value.isText) :
    kindNamed name = value.kind ∧ Text.isAscii name := by
  cases value with
  | null => cases named; exact ⟨rfl, rfl⟩
  | bool b => cases b <;> cases named <;> exact ⟨rfl, rfl⟩
  | int i =>
    cases named
    have numeral := Number.isNumeral_toString_int i
    refine ⟨?_, Text.isAscii_iff.mpr fun c held => Number.toNat_of_isNumeral (numeral c held).1⟩
    rw [kindNamed_of_numeral fun c held => (numeral c held).1, if_neg]
    · rfl
    · simp only [List.any_eq_true, not_exists, not_and]
      intro c held marks
      obtain ⟨digit, point, exponent⟩ := numeral c held
      simp only [List.contains_iff_mem, List.mem_cons, List.not_mem_nil, or_false] at marks
      rcases marks with rfl | rfl | rfl | rfl
      · exact point rfl
      · exact exponent rfl
      all_goals cases digit
  | float x =>
    cases named
    cases x with
    | finite negative significand exponent canonical =>
      have numeral := Number.Binary64.isNumeral_text .json negative significand exponent canonical
      obtain ⟨c, held, marks⟩ := Number.Binary64.isMarked_text .json negative significand exponent canonical
      refine ⟨?_, Text.isAscii_iff.mpr fun c held => Number.toNat_of_isNumeral (numeral c held)⟩
      rw [kindNamed_of_numeral numeral, if_pos]
      · rfl
      · refine List.any_eq_true.mpr ⟨c, held, ?_⟩
        rcases marks with rfl | rfl <;> rfl
    | infinite negative => cases negative <;> exact ⟨rfl, rfl⟩
    | nan =>
      show kindNamed "NaN" = .float ∧ Text.isAscii "NaN"
      exact ⟨rfl, rfl⟩
  | text => exact absurd rfl notText
  | _ => cases named

/-- Values of one name that are no texts are the same, unless they are no numbers: no two numbers
are written alike. -/
theorem writtenAlike_of_jsonKey? {a b : Value} {name : String} (named : a.jsonKey? = some name)
    (named' : b.jsonKey? = some name) (notText : ¬ a.isText) (notText' : ¬ b.isText)
    (apart : ¬ a.same b) : a.WrittenAlike b := by
  have kinds : a.kind = b.kind :=
    (kindNamed_of_jsonKey? named notText).1.symm.trans (kindNamed_of_jsonKey? named' notText').1
  have same : a ≠ b := fun eq => apart (eq ▸ same_refl a)
  cases a <;> cases b <;>
    first | (cases kinds; done) | (cases named; done) | (cases named'; done) | skip
  case null.null => exact absurd rfl same
  case bool.bool p q =>
    have one := Option.some.inj (named.trans named'.symm)
    cases p <;> cases q <;> first | exact absurd rfl same | exact absurd one (by decide)
  case int.int i j =>
    have one : toString i = toString j := Option.some.inj (named.trans named'.symm)
    exact absurd (congrArg Value.int (Number.toString_int_inj.mp one)) same
  case float.float x y =>
    have written : x.text .json = y.text .json := Option.some.inj (named.trans named'.symm)
    have one := (Number.Binary64.text_inj (by simp)).mp written
    cases x <;> cases y <;> first | exact absurd (congrArg Value.float one) same | cases one
    exact ⟨rfl, rfl⟩
  case text.text => exact absurd rfl notText

/-- Values that are not the same have one name if they are written alike. -/
theorem word?_eq_iff {a b : Value} {word : List Nat} (named : a.word? = some word)
    (apart : ¬ a.same b) : b.word? = some word ↔ a.WrittenAlike b := by
  by_cases first : a.isText
  · cases a with
    | text s => rw [← named]; exact Iff.rfl
    | _ => cases first
  by_cases second : b.isText
  · cases b with
    | text t =>
      have alike : a.WrittenAlike (.text t) ↔ a.word? = some (Text.points t) := by
        cases a <;> first | exact Iff.rfl | exact absurd rfl first
      rw [alike, named]
      exact eq_comm
    | _ => cases second
  obtain ⟨name, isName, rfl⟩ := Option.map_eq_some_iff.mp named
  have ascii := (kindNamed_of_jsonKey? isName first).2
  constructor
  · intro also
    obtain ⟨other, isOther, one⟩ := Option.map_eq_some_iff.mp also
    have ascii' := (kindNamed_of_jsonKey? isOther second).2
    obtain rfl := (Text.points_inj_of_isAscii ascii' ascii).mp one
    exact writtenAlike_of_jsonKey? isName isOther first second apart
  · intro alike
    have both : a.isNan ∧ b.isNan := by
      cases a <;> cases b <;> first | exact alike | exact absurd rfl first | exact absurd rfl second
    obtain ⟨payload, rfl⟩ := exists_of_isNan both.1
    obtain ⟨payload', rfl⟩ := exists_of_isNan both.2
    exact named

/-- Values of which no two are the same are named apart if no two are written alike. -/
theorem nodup_names_iff {values : List Value} {names : List (List Nat)}
    (named : values.map word? = names.map some) (apart : values.Pairwise fun a b => ¬ a.same b) :
    names.Nodup ↔ values.Pairwise fun a b => ¬ a.WrittenAlike b := by
  have each {value : Value} (held : value ∈ values) : ∃ word, value.word? = some word := by
    have inside : value.word? ∈ names.map some := named ▸ List.mem_map_of_mem held
    obtain ⟨word, -, same⟩ := List.mem_map.mp inside
    exact ⟨word, same.symm⟩
  rw [← List.nodup_map_iff (Option.some_injective _), ← named, List.Nodup, List.pairwise_map]
  constructor
  · intro distinct
    refine (distinct.and apart).imp_of_mem fun {a b} held _ ⟨differ, other⟩ alike => differ ?_
    obtain ⟨word, name⟩ := each held
    rw [name, (word?_eq_iff name other).mpr alike]
  · intro unlike
    refine (unlike.and apart).imp_of_mem fun {a b} held _ ⟨unlike, other⟩ one => unlike ?_
    obtain ⟨word, name⟩ := each held
    exact (word?_eq_iff name other).mp (one ▸ name)

end Value

namespace Json

variable {α : Type}

/-- A field is entered in a table of names: a name keeps its place, and has what was entered
last. -/
def enter (table : List (List Nat × α)) (field : List Nat × α) : List (List Nat × α) :=
  if table.any (·.1 = field.1) then
    table.map fun entry => if entry.1 = field.1 then field else entry
  else table ++ [field]

/-- What a decoder keeps of the fields of an object. -/
def kept (fields : List (List Nat × α)) : List (List Nat × α) := fields.foldl enter []

theorem nodup_enter {table : List (List Nat × α)} (distinct : (table.map Prod.fst).Nodup)
    (field : List Nat × α) : ((enter table field).map Prod.fst).Nodup := by
  unfold enter
  split
  · have same : (table.map fun entry => if entry.1 = field.1 then field else entry).map Prod.fst =
        table.map Prod.fst := by
      rw [List.map_map]
      refine List.map_congr_left fun entry _ => ?_
      simp only [Function.comp_apply]
      split
      · rename_i one
        exact one.symm
      · rfl
    rwa [same]
  · rename_i new
    rw [List.map_append, List.nodup_append]
    refine ⟨distinct, by simp, fun name held other single => ?_⟩
    rintro rfl
    obtain ⟨entry, inside, rfl⟩ := List.mem_map.mp held
    exact new (List.any_eq_true.mpr ⟨entry, inside, by simpa using single⟩)

theorem foldl_enter {table fields : List (List Nat × α)}
    (distinct : ((table ++ fields).map Prod.fst).Nodup) :
    fields.foldl enter table = table ++ fields := by
  induction fields generalizing table with
  | nil => exact (List.append_nil _).symm
  | cons field rest ih =>
    have new : ¬ table.any (·.1 = field.1) := by
      intro old
      obtain ⟨entry, held, one⟩ := List.any_eq_true.mp old
      rw [List.map_append, List.nodup_append] at distinct
      exact distinct.2.2 _ (List.mem_map_of_mem held) field.1 (by simp) (by simpa using one)
    rw [List.foldl_cons, enter, if_neg new, ih (by simpa using distinct), List.append_assoc,
      List.singleton_append]

/-- A decoder keeps every field if the names are different. -/
theorem kept_eq_self_iff {fields : List (List Nat × α)} :
    kept fields = fields ↔ (fields.map Prod.fst).Nodup := by
  constructor
  · intro all
    have start : (([] : List (List Nat × α)).map Prod.fst).Nodup := .nil
    have distinct : ((kept fields).map Prod.fst).Nodup :=
      List.foldlRecOn (motive := fun table => (table.map Prod.fst).Nodup) fields enter start
        fun _ distinct field _ => nodup_enter distinct field
    rwa [all] at distinct
  · intro distinct
    rw [kept, foldl_enter (by rwa [List.nil_append]), List.nil_append]

def Gives {ε β : Type} (given : Except ε α) (read : α → β) (told : β) : Prop :=
  ∀ x, given = .ok x → read x = told

namespace Gives

variable {ε β γ δ : Type} {given : Except ε α} {read : α → β} {told : β}

theorem of_ok {x : α} (same : read x = told) : Gives (.ok x : Except ε α) read told := by
  rintro _ ⟨⟩
  exact same

theorem of_error {fault : ε} : Gives (.error fault) read told := nofun

theorem bind {next : α → Except ε γ} {read' : γ → δ} {told' : δ} (gives : Gives given read told)
    (others : ∀ x, given = .ok x → read x = told → Gives (next x) read' told') :
    Gives (given >>= next) read' told' := by
  cases given with
  | error fault => exact of_error
  | ok x => exact others x rfl (gives x rfl)

theorem map {read' : γ → δ} (gives : Gives given read told) (f : α → γ) (g : β → δ)
    (agree : ∀ x, read' (f x) = g (read x)) : Gives (do return f (← given)) read' (g told) :=
  gives.bind fun x _ same => .of_ok ((agree x).trans (congrArg g same))

end Gives

end Json

namespace Value

def shownName (key : Value) : List Nat := key.word?.getD []

mutual

def writing : Value → Json.Reading
  | .null => .null
  | .bool b => .bool b
  | .int i => .number (toString i)
  | .float x => Json.readFloat .ascii x
  | .text s => .text (Text.points s)
  | .list items | .tuple items => .list (writings items)
  | .map entries => .object (fieldWritings entries)
  | _ => .null

def writings : List Value → List Json.Reading
  | [] => []
  | item :: rest => item.writing :: writings rest

def fieldWritings : List (Value × Value) → List (List Nat × Json.Reading)
  | [] => []
  | (key, value) :: rest => (key.shownName, value.writing) :: fieldWritings rest

end

theorem gives_strictKey (key : Value) :
    Json.Gives key.strictKey (fun name => some (Json.readText .ascii name)) key.word? := by
  unfold strictKey word?
  split
  · exact .of_error
  · rename_i name named
    split
    · exact .of_error
    · refine .of_ok ?_
      rw [named, Json.readText_ascii]
      rfl

mutual

theorem gives_strictJson (value : Value) :
    Json.Gives value.strictJson (Json.reading .ascii) value.writing := by
  cases value with
  | null | bool | float => exact .of_ok rfl
  | int i =>
    rw [strictJson]
    split
    · exact .of_error
    · exact .of_ok rfl
  | text s => exact .of_ok (congrArg Json.Reading.text (Json.readText_ascii s))
  | list items | tuple items => exact (gives_strictItems items).map Json.list _ fun _ => rfl
  | map entries => exact (gives_strictFields entries).map Json.object _ fun _ => rfl
  | cyclic serial value =>
    rw [strictJson]
    cases value.strictJson <;> exact .of_error
  | _ => exact .of_error

theorem gives_strictItems (items : List Value) :
    Json.Gives (strictItems items) (Json.itemReadings .ascii) (writings items) := by
  cases items with
  | nil => exact .of_ok rfl
  | cons item rest =>
    refine (gives_strictJson item).bind fun json _ same => ?_
    exact (gives_strictItems rest).map (json :: ·) (item.writing :: ·) fun _ => by
      rw [Json.itemReadings, same]

theorem gives_strictFields (entries : List (Value × Value)) :
    Json.Gives (strictFields entries) (Json.fieldReadings .ascii) (fieldWritings entries) := by
  match entries with
  | [] => exact .of_ok rfl
  | (key, value) :: rest =>
    refine (gives_strictKey key).bind fun name _ named => ?_
    refine (gives_strictJson value).bind fun json _ same => ?_
    exact (gives_strictFields rest).map ((name, json) :: ·) ((key.shownName, value.writing) :: ·)
      fun _ => by rw [Json.fieldReadings, same, shownName, ← named, Option.getD_some]

end

end Value

def GrantSummary.writing (grant : GrantSummary) : Json.Reading :=
  .object [(Text.points "context", grant.context.writing),
    (Text.points "privileges", .list (Value.writings grant.privileges)),
    (Text.points "conditions", .number (toString grant.conditions))]

namespace Summary

theorem gives_grantJson (grant : GrantSummary) :
    Json.Gives (grantJson grant) (Json.reading .ascii) grant.writing := by
  refine (Value.gives_strictJson grant.context).bind fun context _ same => ?_
  refine (Value.gives_strictItems grant.privileges).bind fun privileges _ same' => .of_ok ?_
  simp only [Json.reading, Json.fieldReadings, same, same', Json.readText_ascii]
  rfl

theorem gives_grants (grants : List GrantSummary) :
    Json.Gives (grants.mapM grantJson) (Json.itemReadings .ascii) (grants.map (·.writing)) := by
  induction grants with
  | nil => exact .of_ok rfl
  | cons grant rest ih =>
    rw [List.mapM_cons]
    refine (gives_grantJson grant).bind fun json _ same => ?_
    exact ih.map (json :: ·) (grant.writing :: ·) fun _ => by rw [Json.itemReadings, same]

/-- The field of each role has its name and its grants. -/
theorem gives_grantsJson (entries : List (Value × List GrantSummary)) :
    Json.Gives (grantsJson entries) (Json.fieldReadings .ascii)
      (entries.map fun entry => (entry.1.shownName, .list (entry.2.map (·.writing)))) := by
  induction entries with
  | nil => exact .of_ok rfl
  | cons entry rest ih =>
    refine (Value.gives_strictKey entry.1).bind fun name _ named => ?_
    refine (gives_grants entry.2).bind fun grants _ same => ?_
    refine ih.map ((name, Json.list grants) :: ·)
      ((entry.1.shownName, .list (entry.2.map (·.writing))) :: ·) fun _ => ?_
    rw [Json.fieldReadings, Json.reading, same, Value.shownName, ← named, Option.getD_some]

/-- Where the grants can be written, every role has a name. -/
theorem named_of_grantsJson {entries : List (Value × List GrantSummary)}
    {fields : List (String × Json)} (written : grantsJson entries = .ok fields) :
    ∀ entry ∈ entries, entry.1.word? = some entry.1.shownName := by
  induction entries generalizing fields with
  | nil => exact nofun
  | cons entry rest ih =>
    rw [grantsJson] at written
    cases named : entry.1.strictKey with
    | error => rw [named] at written; cases written
    | ok name =>
      have word := (Value.gives_strictKey entry.1 name named).symm
      cases grants : entry.2.mapM grantJson with
      | error => rw [named, grants] at written; cases written
      | ok items =>
        cases others : grantsJson rest with
        | error => rw [named, grants, others] at written; cases written
        | ok more =>
          refine List.forall_mem_cons.mpr ⟨?_, ih others⟩
          rw [Value.shownName, word, Option.getD_some]

def writing (summary : Summary) : Json.Reading :=
  .object
    [(Text.points "privileges", .number (toString summary.privileges)),
     (Text.points "roles", .number (toString summary.roles)),
     (Text.points "rules", .number (toString summary.rules)),
     (Text.points "grants", .object (summary.grants.entries.map fun entry =>
        (entry.1.shownName, .list (entry.2.map (·.writing)))))]

theorem reading_of_json {summary : Summary} {json : Json} (written : summary.json = .ok json) :
    json.reading .ascii = summary.writing ∧
      ∀ entry ∈ summary.grants.entries, entry.1.word? = some entry.1.shownName := by
  unfold Summary.json at written
  cases grants : grantsJson summary.grants.entries with
  | error => rw [grants] at written; cases written
  | ok fields =>
    rw [grants] at written
    cases written
    refine ⟨?_, named_of_grantsJson grants⟩
    simp only [Json.reading, Json.fieldReadings, gives_grantsJson _ fields grants,
      Json.readText_ascii]
    rfl

end Summary

namespace Tables

variable {t : Tables}

/-- Every rule is granted to one role, but for those of a role that is no number. -/
theorem Consistent.sum_granted (consistent : t.Consistent) :
    (t.roles.map fun role => (t.rulesFor role).length).sum + t.rules.countP (·.role.isNan) =
      t.rules.length := by
  have comparable (role : Value) : t.rulesFor role =
      (t.rules.filter fun rule => !rule.role.isNan).filter (·.role.same role) := by
    rw [rulesFor, List.filter_filter]
    refine List.filter_congr fun rule _ => ?_
    by_cases nan : rule.role.isNan
    · simp [nan, Value.equals_of_isNan nan]
    · simp [nan, Value.equals_eq_same nan]
  have one : ∀ rule ∈ t.rules.filter (fun rule => !rule.role.isNan),
      t.roles.countP (rule.role.same ·) = 1 := fun rule held =>
    Value.countP_same consistent.roles (consistent.rules rule (List.mem_of_mem_filter held))
  simp only [comparable]
  rw [sum_length_filter one, ← List.countP_eq_length_filter, Nat.add_comm,
    List.length_eq_countP_add_countP (·.role.isNan)]
  simp only [Bool.not_eq_true, Bool.decide_eq_false]

end Tables

namespace Command

variable {environment : List (String × String)} {directory : File.Directory}
  {arguments : List String} {task : Task}

theorem Task.consistent_of_read (task : Task) (sink : Sink) :
    (task.read sink).2.reader.tables.Consistent := by
  have fresh : Session.Fresh { sink } := ⟨⟨rfl, rfl⟩, rfl⟩
  have start : Session.Reachable { sink } := .fresh fresh
  unfold Task.read Action.parseFile
  split
  · rename_i text _
    have reached : ((Act.turn (.parse (.text text) (some task.label))).action.run { sink }).2.Reached :=
      ⟨_, start, .turn _, _, Act.leads_run _ fresh.intact⟩
    exact reached.tables_consistent
  · exact start.steady.consistent.tables

/-- A run that ends well with a document has written the summary of the tables. -/
theorem summary_of_accepted (found : task? environment directory arguments = some task)
    (asked : task.json = true) (accepted : (run environment directory arguments).ending = .ok 0) :
    ∃ summary, (task.read (.text task.rank)).2.reader.tables.sealed.summary = .ok summary ∧
      Json.read? (run environment directory arguments).output = some summary.writing ∧
      ∀ entry ∈ summary.grants.entries, entry.1.word? = some entry.1.shownName := by
  rw [run_of_task found, Task.result, Task.resultBy] at accepted ⊢
  rcases came : task.read (.text task.rank) with ⟨fault | _, session⟩
  · rw [came] at accepted
    simp only [verdict] at accepted
    cases coded : fault.code? with
    | none => rw [coded] at accepted; cases accepted
    | some code =>
      simp only [coded, rejection, asked, if_true] at accepted
      cases told : Response.ofReport (Report.ofFault code fault) >>= Response.text with
      | error => rw [told] at accepted; cases accepted
      | ok => rw [told] at accepted; cases accepted
  · rw [came] at accepted
    simp only [verdict, present, asked, if_true] at accepted ⊢
    cases summarised : session.reader.tables.sealed.summary with
    | error => rw [summarised] at accepted; cases accepted
    | ok summary =>
      simp only [summarised] at accepted ⊢
      cases written : summary.json with
      | error => rw [written] at accepted; cases accepted
      | ok document =>
        obtain ⟨reading, named⟩ := Summary.reading_of_json written
        refine ⟨_, rfl, ?_, named⟩
        rw [Json.read?_indented (.inl rfl), reading]

/-- A run that ends well with a document has a field in it for each of the roles, in order, with
what is granted to the role. The names of the fields are different, so that a decoder keeps them
all, if no two roles are written alike; and every rule is among the grants of one role, but for
those of a role that is no number. -/
theorem run_summarised (found : task? environment directory arguments = some task)
    (asked : task.json = true) (accepted : (run environment directory arguments).ending = .ok 0) :
    let tables := (task.read (.text task.rank)).2.reader.tables.sealed
    ∃ fields : List (List Nat × List Json.Reading),
      Json.read? (run environment directory arguments).output = some (.object
        [(Text.points "privileges", .number (toString tables.privileges.length)),
         (Text.points "roles", .number (toString tables.roles.length)),
         (Text.points "rules", .number (toString tables.rules.length)),
         (Text.points "grants", .object (fields.map fun field => (field.1, .list field.2)))]) ∧
      List.Forall₂ (fun role field => role.word? = some field.1 ∧
        List.Forall₂ (fun rule shown => ∃ grant, rule.Reported grant ∧ shown = grant.writing)
          (tables.rules.filter (·.role.equals role)) field.2) tables.roles fields ∧
      (Json.kept fields = fields ↔ tables.roles.Pairwise fun a b => ¬ a.WrittenAlike b) ∧
      (fields.map (·.2.length)).sum + tables.rules.countP (·.role.isNan) = tables.rules.length := by
  intro tables
  have consistent : tables.Consistent := (task.consistent_of_read (.text task.rank)).sealed
  obtain ⟨summary, summarised, output, named⟩ := summary_of_accepted found asked accepted
  obtain ⟨keys, reports⟩ := consistent.entries_of_summary summarised
  obtain ⟨privileges, roles, rules⟩ := Tables.sizes_of_summary summarised
  let fields := summary.grants.entries.map fun entry => (entry.1.shownName, entry.2.map (·.writing))
  have names : tables.roles.map Value.word? = (fields.map Prod.fst).map some := by
    rw [← keys, Table.keys, List.map_map, List.map_map, List.map_map]
    exact List.map_congr_left named
  refine ⟨fields, ?_, ?_, ?_, ?_⟩
  · rw [output, Summary.writing, privileges, roles, rules, List.map_map]
    rfl
  · rw [← keys, Table.keys, List.forall₂_map_left_iff, List.forall₂_map_right_iff,
      List.forall₂_same]
    refine fun entry held => ⟨named entry held, ?_⟩
    rw [List.forall₂_map_right_iff]
    exact (reports entry held).imp fun rule grant reported => ⟨grant, reported, rfl⟩
  · rw [Json.kept_eq_self_iff]
    exact Value.nodup_names_iff names consistent.roles
  · have counts : fields.map (·.2.length) =
        tables.roles.map fun role => (tables.rulesFor role).length := by
      rw [← keys, Table.keys, List.map_map, List.map_map]
      refine List.map_congr_left fun entry held => ?_
      exact (List.length_map _).trans (reports entry held).length_eq.symm
    rw [counts]
    exact consistent.sum_granted

def twinPolicy : String :=
  "authorization:\n- role: 1\n  body:\n  - has_permission_on: rooms\n    to: read\n" ++
    "- role: \"1\"\n"

def twinArguments : List String := ["--json", "policy.yml"]

theorem ending_twins : (run [] (policyDirectory twinPolicy) twinArguments).ending = .ok 0 := by
  have ends : (run [] (policyDirectory twinPolicy) twinArguments).ending.toOption = some 0 := by
    decide +kernel
  cases ending : (run [] (policyDirectory twinPolicy) twinArguments).ending with
  | error => rw [ending] at ends; cases ends
  | ok code => rw [ending] at ends; exact congrArg Except.ok (Option.some.inj ends)

theorem task_twins : ∃ task, task? [] (policyDirectory twinPolicy) twinArguments = some task ∧
    task.json = true ∧
    let tables := (task.read (.text task.rank)).2.reader.tables.sealed
    tables.roles.map Value.word? = [some ['1'.toNat], some ['1'.toNat]] ∧
      tables.rules.length = 1 ∧ tables.rules.countP (·.role.isNan) = 0 := by
  have reads : (task? [] (policyDirectory twinPolicy) twinArguments).any fun task =>
      let tables := (task.read (.text task.rank)).2.reader.tables.sealed
      task.json && tables.roles.map Value.word? = [some ['1'.toNat], some ['1'.toNat]] &&
        tables.rules.length = 1 && tables.rules.countP (·.role.isNan) = 0 := by decide +kernel
  obtain ⟨task, found, facts⟩ := (Option.any_eq_true _ _).mp reads
  simp only [Bool.and_eq_true, decide_eq_true_eq] at facts
  obtain ⟨⟨⟨asked, roles⟩, rules⟩, numbers⟩ := facts
  exact ⟨task, found, asked, roles, rules, numbers⟩

/-- Both roles have a field of one name, of which a decoder keeps one. -/
theorem run_summarised_twins :
    ∃ (privileges roles rules : Json.Reading) (fields : List (List Nat × List Json.Reading)),
      Json.read? (run [] (policyDirectory twinPolicy) twinArguments).output = some (.object
        [(Text.points "privileges", privileges), (Text.points "roles", roles),
         (Text.points "rules", rules),
         (Text.points "grants", .object (fields.map fun field => (field.1, .list field.2)))]) ∧
      fields.map Prod.fst = [['1'.toNat], ['1'.toNat]] ∧ (fields.map (·.2.length)).sum = 1 ∧
      Json.kept fields ≠ fields := by
  obtain ⟨task, found, asked, roles, rules, numbers⟩ := task_twins
  obtain ⟨fields, output, each, -, total⟩ := run_summarised found asked ending_twins
  have names : fields.map Prod.fst = [['1'.toNat], ['1'.toNat]] := by
    have named : (fields.map Prod.fst).map some = [['1'.toNat], ['1'.toNat]].map some := by
      rw [List.map_map, List.map_cons, List.map_cons, List.map_nil, ← roles, eq_comm,
        ← List.forall₂_eq_eq_eq, List.forall₂_map_left_iff, List.forall₂_map_right_iff]
      exact each.imp fun _ _ both => both.1
    exact List.map_injective_iff.mpr (Option.some_injective _) named
  refine ⟨_, _, _, fields, output, names, by rw [rules, numbers] at total; exact total, ?_⟩
  rw [Ne, Json.kept_eq_self_iff, names]
  decide

/-- The names of the fields are not always different. -/
theorem run_summarised_alike :
    ¬ ∀ (environment : List (String × String)) (directory : File.Directory)
      (arguments : List String) (task : Task), task? environment directory arguments = some task →
      task.json = true → (run environment directory arguments).ending = .ok 0 →
      ∀ privileges roles rules fields, Json.read? (run environment directory arguments).output =
        some (.object [(Text.points "privileges", privileges), (Text.points "roles", roles),
          (Text.points "rules", rules), (Text.points "grants", .object fields)]) →
        (fields.map Prod.fst).Nodup := by
  intro every
  obtain ⟨task, found, asked, roles, -⟩ := task_twins
  obtain ⟨summary, summarised, output, named⟩ := summary_of_accepted found asked ending_twins
  have distinct := every _ _ _ task found asked ending_twins _ _ _ _ output
  have consistent := (task.consistent_of_read (.text task.rank)).sealed
  have keys := (consistent.entries_of_summary summarised).1
  have names : (summary.grants.entries.map (Value.shownName ∘ Prod.fst)).map some =
      [some ['1'.toNat], some ['1'.toNat]] := by
    rw [← roles, ← keys, Table.keys, List.map_map, List.map_map]
    exact List.map_congr_left fun entry held => (named entry held).symm
  rw [List.map_map, ← List.nodup_map_iff (Option.some_injective _)] at distinct
  exact absurd (names ▸ distinct) (by decide)

end Command

end AccessPolicy
