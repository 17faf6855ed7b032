import Mathlib.Data.List.TakeWhile
import AccessPolicy.Policy.Substitute

/-! Paths into the user. An expression names one by its root, and two paths joined by a point lead
where the second leads from what the first has come to: by the same lookups, of which the same one
fails. -/

namespace AccessPolicy

namespace Text

/-- The core of a text, with nothing but blanks around it and none at its own ends. -/
structure Stripped (text core : List Char) : Prop where
  around : ∃ before after, text = before ++ core ++ after ∧
    (∀ c ∈ before, isBlank c) ∧ ∀ c ∈ after, isBlank c
  first : ∀ c ∈ core.head?, ¬ isBlank c
  last : ∀ c ∈ core.getLast?, ¬ isBlank c

section

variable {text core before after : List Char}

theorem not_isBlank_of_dropWhile (text : List Char) :
    ∀ c ∈ (text.dropWhile isBlank).head?, ¬ isBlank c := by
  intro c first
  have stays := List.head?_dropWhile_not isBlank text
  simpa only [Option.mem_def.mp first, Bool.not_eq_true] using stays

theorem dropWhile_isBlank_append (blank : ∀ c ∈ before, isBlank c)
    (first : ∀ c ∈ core.head?, ¬ isBlank c) : (before ++ core).dropWhile isBlank = core := by
  rw [List.dropWhile_append_of_pos blank]
  cases core with
  | nil => rfl
  | cons c rest => exact List.dropWhile_cons_of_neg (first c rfl)

theorem trimLeft_append (blank : ∀ c ∈ before, isBlank c)
    (first : ∀ c ∈ core.head?, ¬ isBlank c) : trimLeft (before ++ core) = core :=
  dropWhile_isBlank_append blank first

theorem trimRight_append (blank : ∀ c ∈ after, isBlank c)
    (last : ∀ c ∈ core.getLast?, ¬ isBlank c) : trimRight (core ++ after) = core := by
  have turned : (after.reverse ++ core.reverse).dropWhile isBlank = core.reverse := by
    apply dropWhile_isBlank_append
    · exact fun c held => blank c (List.mem_reverse.mp held)
    · rw [List.head?_reverse]
      exact last
  rw [trimRight, List.reverse_append, turned, List.reverse_reverse]

theorem trim_of_forall (blank : ∀ c ∈ text, isBlank c) : trim text = [] := by
  have left : trimLeft text = [] := List.dropWhile_eq_nil_iff.mpr blank
  rw [trim, left]
  rfl

/-- Trimming finds the core, which is the only one. -/
theorem Stripped.trim_eq (stripped : Stripped text core) : trim text = core := by
  obtain ⟨before, after, rfl, front, back⟩ := stripped.around
  cases core with
  | nil =>
    apply trim_of_forall
    intro c held
    rw [List.append_nil, List.mem_append] at held
    exact held.elim (front c) (back c)
  | cons c rest =>
    have front : trimLeft (before ++ (c :: rest ++ after)) = c :: rest ++ after :=
      trimLeft_append front stripped.first
    rw [trim, List.append_assoc, front, trimRight_append back stripped.last]

theorem stripped_trim (text : List Char) : Stripped text (trim text) := by
  let turned := (trimLeft text).reverse
  have left : text.takeWhile isBlank ++ trimLeft text = text := List.takeWhile_append_dropWhile
  have right : trim text ++ (turned.takeWhile isBlank).reverse = trimLeft text := by
    rw [trim, trimRight, ← List.reverse_append, List.takeWhile_append_dropWhile,
      List.reverse_reverse]
  constructor
  · refine ⟨text.takeWhile isBlank, (turned.takeWhile isBlank).reverse, ?_, ?_, ?_⟩
    · rw [List.append_assoc, right, left]
    · exact fun c held => List.mem_takeWhile_imp held
    · exact fun c held => List.mem_takeWhile_imp (List.mem_reverse.mp held)
  · intro c first
    apply not_isBlank_of_dropWhile text
    rw [← trimLeft, ← right, List.head?_append, Option.mem_def.mp first]
    rfl
  · intro c last
    apply not_isBlank_of_dropWhile turned
    rwa [← List.getLast?_reverse]

end

end Text

namespace UserPath

/-- A text is the root alone, or the root with a point behind it. -/
theorem takeWhile_eq_root {text : List Char} :
    text.takeWhile (· != '.') = "user".toList ↔
      text = "user".toList ∨ "user.".toList <+: text := by
  have pointless : ∀ c ∈ "user".toList, (c != '.') = true := List.all_eq_true.mp (by decide)
  have root : "user.".toList = "user".toList ++ ['.'] := rfl
  rw [root]
  constructor
  · intro word
    have whole : "user".toList ++ text.dropWhile (· != '.') = text := by
      rw [← word]
      exact List.takeWhile_append_dropWhile
    have stops := List.head?_dropWhile_not (· != '.') text
    cases behind : text.dropWhile (· != '.') with
    | nil => exact .inl (by rw [← whole, behind, List.append_nil])
    | cons c path =>
      rw [behind] at stops whole
      have point : c = '.' := by simpa using stops
      exact .inr ⟨path, by rw [← whole, point, List.append_assoc]; rfl⟩
  · rintro (rfl | ⟨path, rfl⟩)
    · rfl
    · rw [List.append_assoc, List.takeWhile_append_of_pos pointless, List.singleton_append,
        List.takeWhile_cons_of_neg (by decide), List.append_nil]

variable {expression path : String} {core : List Char}

theorem isSome_ofExpression? (stripped : Text.Stripped expression.toList core) :
    (ofExpression? expression).isSome ↔ core = "user".toList ∨ "user.".toList <+: core := by
  rw [ofExpression?, stripped.trim_eq, ← takeWhile_eq_root]
  split <;> simp_all

/-- The path is all that stands behind the point. -/
theorem ofExpression?_of_point (stripped : Text.Stripped expression.toList core)
    (rooted : core = "user.".toList ++ path.toList) : ofExpression? expression = some path := by
  have root : core.takeWhile (· != '.') = "user".toList :=
    takeWhile_eq_root.mpr (.inr ⟨path.toList, rooted.symm⟩)
  have behind : core.drop ("user".toList.length + 1) = path.toList := by
    rw [rooted]
    show List.drop "user.".toList.length _ = _
    exact List.drop_left
  rw [ofExpression?, stripped.trim_eq, root]
  simp only [if_true, behind, String.ofList_toList]

theorem splitPoints_ne_nil (text : List Char) : splitPoints text ≠ [] := by
  cases text with
  | nil => nofun
  | cons c rest =>
    rw [splitPoints]
    split
    · nofun
    · split <;> nofun

theorem splitPoints_append (p q : List Char) :
    splitPoints (p ++ '.' :: q) = splitPoints p ++ splitPoints q := by
  induction p with
  | nil => rfl
  | cons c rest ih =>
    by_cases point : c = '.'
    · simp only [List.cons_append, splitPoints, point, if_true, ih]
    · obtain ⟨first, others, parts⟩ := List.exists_cons_of_ne_nil (splitPoints_ne_nil rest)
      simp only [List.cons_append, splitPoints, point, if_false, ih, parts]

theorem segments_append (p q : String) : segments (p ++ "." ++ q) = segments p ++ segments q := by
  have joined : (p ++ "." ++ q).toList = p.toList ++ '.' :: q.toList := by
    rw [String.toList_append, String.toList_append, List.append_assoc]
    rfl
  rw [segments, joined, splitPoints_append, List.filter_append, List.map_append]
  rfl

theorem segments_of_points (points : ∀ c ∈ path.toList, c = '.') : segments path = [] := by
  have empty (text : List Char) (points : ∀ c ∈ text, c = '.') :
      (splitPoints text).filter (!·.isEmpty) = [] := by
    induction text with
    | nil => rfl
    | cons c rest ih =>
      obtain ⟨rfl, others⟩ := List.forall_mem_cons.mp points
      exact ih others
  rw [segments, empty _ points]
  rfl

/-- The lookups along some names: each name, and what it is looked up in. The next one is made
where the one before has led to something. -/
def lookups : List String → Place → List (Place × String)
  | [], _ => []
  | name :: rest, place =>
    (place, name) :: match step place name with
      | .ok inner => lookups rest inner
      | .error _ => []

theorem follow_cons (name : String) (rest : List String) (place : Place) :
    follow (name :: rest) place = (step place name).bind (follow rest) := rfl

theorem lookups_append (p q : List String) (place : Place) :
    lookups (p ++ q) place = lookups p place ++ match follow p place with
      | .ok inner => lookups q inner
      | .error _ => [] := by
  induction p generalizing place with
  | nil => rfl
  | cons name rest ih =>
    rw [follow_cons, List.cons_append, lookups, lookups]
    cases step place name with
    | error fault => rfl
    | ok inner =>
      simp only [ih, Except.bind, List.cons_append]

/-- A path fails at the last lookup that it makes, and as that one does. -/
theorem follow_eq_error {names : List String} {place : Place} {fault : Fault} :
    follow names place = .error fault ↔
      ∃ earlier owner name, lookups names place = earlier ++ [(owner, name)] ∧
        (∀ made ∈ earlier, (step made.1 made.2).isOk) ∧ step owner name = .error fault := by
  induction names generalizing place with
  | nil =>
    constructor
    · nofun
    · rintro ⟨earlier, owner, name, none, -⟩
      exact absurd none.symm (List.append_ne_nil_of_right_ne_nil _ (List.cons_ne_nil _ _))
  | cons name rest ih =>
    rw [follow_cons, lookups]
    cases stepped : step place name with
    | error first =>
      constructor
      · intro failed
        exact ⟨[], place, name, rfl, nofun, stepped.trans failed⟩
      · rintro ⟨earlier, owner, last, only, -, failed⟩
        cases earlier with
        | nil =>
          cases only
          exact stepped.symm.trans failed
        | cons made earlier =>
          have none : [] = earlier ++ [(owner, last)] := (List.cons.inj only).2
          exact absurd none.symm (List.append_ne_nil_of_right_ne_nil _ (List.cons_ne_nil _ _))
    | ok inner =>
      have first : (step place name).isOk := by rw [stepped]; rfl
      show follow rest inner = _ ↔ _
      rw [ih]
      constructor
      · rintro ⟨earlier, owner, last, rest, passed, failed⟩
        exact ⟨(place, name) :: earlier, owner, last, congrArg _ rest,
          List.forall_mem_cons.mpr ⟨first, passed⟩, failed⟩
      · rintro ⟨earlier, owner, last, made, passed, failed⟩
        cases earlier with
        | nil =>
          cases (List.cons.inj made).1
          rw [failed] at first
          cases first
        | cons _ earlier =>
          exact ⟨earlier, owner, last, (List.cons.inj made).2,
            (List.forall_mem_cons.mp passed).2, failed⟩

/-- What a path leads to from a place, be it a value or what another path has come to. -/
def resolve (path : String) (place : Place) : Except AccessPolicy.Fault Place :=
  match follow (segments path) place with
  | .ok place => .ok place
  | .error fault => .error (.path fault)

/-- The lookups of a path, up to the one that fails. -/
def trail (path : String) (place : Place) : List (Place × String) := lookups (segments path) place

theorem resolve_append (p q : String) (place : Place) :
    resolve (p ++ "." ++ q) place = (resolve p place).bind (resolve q) := by
  rw [resolve, segments_append, follow_append, resolve]
  cases follow (segments p) place <;> rfl

theorem trail_append (p q : String) (place : Place) :
    trail (p ++ "." ++ q) place = trail p place ++ match resolve p place with
      | .ok inner => trail q inner
      | .error _ => [] := by
  rw [trail, segments_append, lookups_append, trail, resolve]
  cases follow (segments p) place <;> rfl

theorem resolve_eq_error {place : Place} {fault : AccessPolicy.Fault} :
    resolve path place = .error fault ↔
      ∃ earlier owner name problem, trail path place = earlier ++ [(owner, name)] ∧
        (∀ made ∈ earlier, (step made.1 made.2).isOk) ∧ step owner name = .error problem ∧
        fault = .path problem := by
  rw [resolve, trail]
  constructor
  · intro failed
    cases followed : follow (segments path) place with
    | ok _ =>
      rw [followed] at failed
      cases failed
    | error problem =>
      rw [followed] at failed
      cases failed
      obtain ⟨earlier, owner, name, made, passed, stepped⟩ := follow_eq_error.mp followed
      exact ⟨earlier, owner, name, problem, made, passed, stepped, rfl⟩
  · rintro ⟨earlier, owner, name, problem, made, passed, stepped, rfl⟩
    rw [follow_eq_error.mpr ⟨earlier, owner, name, made, passed, stepped⟩]

theorem resolve_of_points (points : ∀ c ∈ path.toList, c = '.') (place : Place) :
    resolve path place = .ok place := by
  rw [resolve, segments_of_points points]
  rfl

end UserPath

open UserPath

/-- The computation of a path starts at the user, who is the argument when it is called. -/
theorem Value.computed_userPath (serial : Nat) (path : String) (user : Value) :
    (Value.userPath serial path).computed user = resolve path (.value user) ∧
      (Value.userPath serial path).called [user] [] =
        (resolve path (.value user)).map Place.toValue := ⟨rfl, rfl⟩

theorem userPathIn_text (expression : String) :
    userPathIn (.text expression) =
      (ofExpression? expression).elim (.error (.form (.notUserPath (.text expression)))) .ok := by
  have plain : (Value.text expression).plain = expression := rfl
  rw [userPathIn, plain]
  cases ofExpression? expression <;> rfl

/-- An expression is accepted by its root, whatever path is behind it. -/
theorem userPathIn_isOk {expression : String} {core : List Char}
    (stripped : Text.Stripped expression.toList core) :
    (userPathIn (.text expression)).isOk ↔ core = "user".toList ∨ "user.".toList <+: core := by
  rw [← isSome_ofExpression? stripped, userPathIn_text]
  cases ofExpression? expression <;> simp [Except.isOk, Except.toBool]

/-- The root and its point are kept as they are, and so is a path that ends in no blank. -/
theorem stripped_point {path : String} (last : ∀ c ∈ path.toList.getLast?, ¬ Text.isBlank c) :
    Text.Stripped ("user." ++ path).toList ("user.".toList ++ path.toList) := by
  refine ⟨⟨[], [], ?_, nofun, nofun⟩, ?_, ?_⟩
  · rw [String.toList_append, List.nil_append, List.append_nil]
  · intro c first
    cases first
    decide
  · rw [List.getLast?_append]
    cases ends : path.toList.getLast? with
    | none =>
      intro c held
      cases held
      decide
    | some c => exact fun _ held => Option.some.inj held ▸ last c ends

/-- Of an expression, blanks around it aside, the root alone decides whether it is accepted. A path
that is joined of two leads where the second leads from what the first has come to, by the lookups
of the one and then of the other; if it fails, it fails at its last lookup and as that one does.
Behind the root stands the path itself, which leads to the user if it has nothing but points. -/
theorem userPath_composes :
    (∀ expression core, Text.Stripped expression.toList core →
      ((userPathIn (.text expression)).isOk ↔ core = "user".toList ∨ "user.".toList <+: core) ∧
      (¬ (core = "user".toList ∨ "user.".toList <+: core) →
        ∃ fault, userPathIn (.text expression) = .error fault ∧ fault.faultClass = .value ∧
          fault = .form (.notUserPath (.text expression)))) ∧
    (∀ serial path user,
      (Value.userPath serial path).computed user = resolve path (.value user) ∧
      (Value.userPath serial path).called [user] [] =
        (resolve path (.value user)).map Place.toValue) ∧
    (∀ p q place,
      resolve (p ++ "." ++ q) place = (resolve p place).bind (resolve q) ∧
      trail (p ++ "." ++ q) place = trail p place ++ match resolve p place with
        | .ok inner => trail q inner
        | .error _ => []) ∧
    (∀ path place fault, resolve path place = .error fault ↔
      ∃ earlier owner name problem, trail path place = earlier ++ [(owner, name)] ∧
        (∀ made ∈ earlier, (step made.1 made.2).isOk) ∧ step owner name = .error problem ∧
        fault = .path problem) ∧
    (∀ path, (∀ c ∈ path.toList.getLast?, ¬ Text.isBlank c) →
      userPathIn (.text ("user." ++ path)) = .ok path) ∧
    userPathIn (.text "user") = .ok "" ∧
    ∀ path, (∀ c ∈ path.toList, c = '.') →
      userPathIn (.text ("user." ++ path)) = .ok path ∧
      ∀ place, resolve path place = .ok place := by
  have behind (path : String) (last : ∀ c ∈ path.toList.getLast?, ¬ Text.isBlank c) :
      userPathIn (.text ("user." ++ path)) = .ok path := by
    rw [userPathIn_text, ofExpression?_of_point (stripped_point last) rfl]
    rfl
  refine ⟨fun expression core stripped => ⟨userPathIn_isOk stripped, fun other => ?_⟩,
    Value.computed_userPath, fun p q place => ⟨resolve_append p q place, trail_append p q place⟩,
    fun path place fault => resolve_eq_error, behind, rfl, fun path points =>
    ⟨behind path fun c last => ?_, resolve_of_points points⟩⟩
  · refine ⟨_, ?_, rfl, rfl⟩
    have refused := mt (isSome_ofExpression? stripped).mp other
    rw [userPathIn_text, Option.not_isSome_iff_eq_none.mp refused]
    rfl
  · rw [points c (List.mem_of_getLast? last)]
    decide

def teamUser : Value := .record [("team", .map [(.text "lead", .text "ada")])]

/-- Empty names count nowhere, and a key that is missing is told as such behind a field as well. -/
theorem userPath_composes_team :
    (userPathIn (.text "\t user..team. \n")).isOk ∧
    (∃ fault, userPathIn (.text "users.team") = .error fault ∧ fault.faultClass = .value) ∧
    userPathIn (.text ("user." ++ ".team.")) = .ok ".team." ∧
    resolve (".team." ++ "." ++ "lead") (.value teamUser) = .ok (.text "ada") ∧
    resolve (".team." ++ "." ++ "name.length") (.value teamUser) =
      .error (.path (.missingKey "name")) ∧
    (trail (".team." ++ "." ++ "name.length") (.value teamUser)).map Prod.snd = ["team", "name"] ∧
    userPathIn (.text ("user." ++ "..")) = .ok ".." ∧
    resolve ".." (.value teamUser) = .ok (.value teamUser) := by
  obtain ⟨accepts, -, joins, -, behind, -, points⟩ := userPath_composes
  have spaced : Text.Stripped "\t user..team. \n".toList "user..team.".toList :=
    Text.stripped_trim _
  have plain : Text.Stripped "users.team".toList "users.team".toList := Text.stripped_trim _
  have alone := points ".." (by simp)
  obtain ⟨fault, refused, caught, -⟩ := (accepts _ _ plain).2 (by decide)
  refine ⟨(accepts _ _ spaced).1.mpr (by decide), ⟨fault, refused, caught⟩,
    behind ".team." (fun c last => by cases last; decide), ?_, ?_, ?_, alone.1, alone.2 _⟩
  · rw [(joins ..).1]
    with_unfolding_all rfl
  · rw [(joins ..).1]
    with_unfolding_all rfl
  · rw [(joins ..).2]
    with_unfolding_all rfl

end AccessPolicy
