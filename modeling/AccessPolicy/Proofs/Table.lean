import AccessPolicy.Value.Table
import AccessPolicy.Proofs.Equality

/-! What stands in a table after keys have been entered. Keys that are the same name are one key. -/

namespace AccessPolicy

/-- Only a text is the same name as a text. -/
theorem Value.same_text_iff {key : Value} {name : String} :
    key.same (.text name) ↔ key = .text name := by
  cases key <;> simp [Value.same, Value.sameLeaf, Value.numeral?]

theorem Value.same_congr {a b : Value} (together : a.same b) (c : Value) : a.same c = b.same c :=
  Bool.eq_iff_iff.mpr ⟨same_trans (same_symm together), same_trans together⟩

namespace Value

variable {name other : Value} {names : List Value}

theorem within_iff : name.within names ↔ ∃ n ∈ names, name.same n := by simp [within]

theorem within_congr (together : name.same other) : name.within names = other.within names := by
  simp only [within, show name.same = other.same from funext (same_congr together)]

theorem register_of_within (known : name.within names) : register names name = names := if_pos known

theorem register_of_not_within (unknown : ¬ name.within names) :
    register names name = names ++ [name] := if_neg unknown

theorem register_cons_of_not_same (apart : ¬ name.same other) :
    register (other :: names) name = other :: register names name := by
  by_cases known : name.within names
  · rw [register_of_within known, register_of_within (by simp_all [within])]
  · rw [register_of_not_within known, register_of_not_within (by simp_all [within])]
    rfl

theorem mem_of_mem_register (held : other ∈ register names name) :
    other ∈ names ∨ other = name := by
  unfold register at held
  split at held
  · exact .inl held
  · exact (List.mem_append.mp held).imp_right List.mem_singleton.mp

/-- Names of which no two are the same stay so when another is registered. -/
theorem apart_register (apart : names.Pairwise fun a b => ¬ a.same b) (name : Value) :
    (register names name).Pairwise fun a b => ¬ a.same b := by
  by_cases known : name.within names
  · rw [register_of_within known]
    exact apart
  · rw [register_of_not_within known, List.pairwise_append]
    refine ⟨apart, List.pairwise_singleton .., fun n held other single together => ?_⟩
    rw [List.mem_singleton.mp single] at together
    exact known (within_iff.mpr ⟨n, held, same_symm together⟩)

def joined (names more : List Value) : List Value :=
  names ++ more.filter fun name => !name.within names

theorem within_joined {more : List Value} :
    name.within (joined names more) ↔ name.within names ∨ name.within more := by
  simp only [within_iff, joined, List.mem_append, List.mem_filter, Bool.not_eq_true',
    ← Bool.not_eq_true]
  constructor
  · rintro ⟨n, held | ⟨held, -⟩, like⟩
    · exact .inl ⟨n, held, like⟩
    · exact .inr ⟨n, held, like⟩
  · rintro (⟨n, held, like⟩ | ⟨n, held, like⟩)
    · exact ⟨n, .inl held, like⟩
    · by_cases known : ∃ k ∈ names, n.same k
      · obtain ⟨k, inside, also⟩ := known
        exact ⟨k, .inl inside, same_trans like also⟩
      · exact ⟨n, .inr ⟨held, known⟩, like⟩

/-- A name registers behind joined names as it does among the later ones. -/
theorem joined_register (names more : List Value) (name : Value) :
    joined names (register more name) = register (joined names more) name := by
  by_cases known : name.within more
  · rw [register_of_within known, register_of_within (within_joined.mpr (.inr known))]
  · rw [register_of_not_within known]
    by_cases before : name.within names
    · rw [register_of_within (within_joined.mpr (.inl before))]
      simp [joined, before]
    · rw [register_of_not_within fun within => (within_joined.mp within).elim before known]
      simp [joined, before]

end Value

namespace Table

variable {α : Type} {key : Value} {start : α} {f : α → α}

theorem get?_cons (k other : Value) (a : α) (entries : List (Value × α)) :
    (Table.mk ((k, a) :: entries)).get? other =
      if k.same other then some a else (Table.mk entries).get? other := by
  by_cases like : k.same other <;> simp [get?, like]

theorem alter_nil : (Table.mk []).alter key start f = ⟨[(key, f start)]⟩ := rfl

theorem alter_cons_of_same {k : Value} (like : k.same key) (a : α)
    (entries : List (Value × α)) :
    (Table.mk ((k, a) :: entries)).alter key start f = ⟨(k, f a) :: entries⟩ := by
  simp [alter, alter.go, like]

theorem alter_cons_of_not_same {k : Value} (unlike : ¬ k.same key) (a : α)
    (entries : List (Value × α)) :
    (Table.mk ((k, a) :: entries)).alter key start f =
      ⟨(k, a) :: ((Table.mk entries).alter key start f).entries⟩ := by
  simp [alter, alter.go, unlike]

theorem get?_alter (t : Table α) (key other : Value) (start : α) (f : α → α) :
    (t.alter key start f).get? other =
      if key.same other then some (f ((t.get? key).getD start)) else t.get? other := by
  obtain ⟨entries⟩ := t
  induction entries with
  | nil => rw [alter_nil, get?_cons]; rfl
  | cons entry rest ih =>
    obtain ⟨k, a⟩ := entry
    by_cases like : k.same key
    · rw [alter_cons_of_same like, get?_cons, get?_cons, get?_cons, if_pos like,
        Value.same_congr like]
      split <;> rfl
    · rw [alter_cons_of_not_same like, get?_cons, get?_cons, get?_cons, if_neg like, ih]
      by_cases found : k.same other
      · have apart : ¬ key.same other := fun together =>
          like (Value.same_trans found (Value.same_symm together))
        rw [if_pos found, if_neg apart, if_pos found]
      · rw [if_neg found, if_neg found]

/-- Two changes of one entry are one; a new key gets its start only from the first. -/
theorem alter_alter (t : Table α) (key : Value) (start other : α) (f g : α → α) :
    (t.alter key start f).alter key other g = t.alter key start (g ∘ f) := by
  obtain ⟨entries⟩ := t
  induction entries with
  | nil => rw [alter_nil, alter_cons_of_same (Value.same_refl key), alter_nil]; rfl
  | cons entry rest ih =>
    obtain ⟨k, a⟩ := entry
    by_cases like : k.same key
    · rw [alter_cons_of_same like, alter_cons_of_same like, alter_cons_of_same like]
      rfl
    · rw [alter_cons_of_not_same like, alter_cons_of_not_same like, alter_cons_of_not_same like, ih]

theorem get?_put (t : Table α) (key other : Value) (a : α) :
    (t.put key a).get? other = if key.same other then some a else t.get? other :=
  get?_alter ..

def Distinct (t : Table α) : Prop :=
  t.keys.Pairwise fun a b => ¬ a.same b

theorem get?_of_absent {t : Table α} (absent : ∀ k ∈ t.keys, ¬ k.same key) :
    t.get? key = none := by
  simpa [get?, keys] using absent

/-- What is found after a table has been merged in: what stands there, or else what stood before. -/
theorem get?_merge {u : Table α} (distinct : u.Distinct) (t : Table α) (key : Value) :
    (t.merge u).get? key = (u.get? key <|> t.get? key) := by
  obtain ⟨entries⟩ := u
  induction entries generalizing t with
  | nil => rfl
  | cons entry rest ih =>
    obtain ⟨k, a⟩ := entry
    obtain ⟨apart, distinct⟩ := List.pairwise_cons.mp distinct
    have merged := ih (t.put k a) distinct
    simp only [merge, List.foldl_cons] at merged ⊢
    rw [merged, get?_put, get?_cons]
    by_cases like : k.same key
    · have absent : (Table.mk rest).get? key = none :=
        get?_of_absent fun k held together =>
          apart k held (Value.same_trans like (Value.same_symm together))
      rw [if_pos like, if_pos like, absent]
      rfl
    · rw [if_neg like, if_neg like]

/-- The order of the entries does not count where no two keys are the same name. -/
theorem get?_perm {entries others : List (Value × α)} (perm : entries.Perm others)
    (distinct : (Table.mk entries).Distinct) (key : Value) :
    (Table.mk entries).get? key = (Table.mk others).get? key := by
  induction perm with
  | nil => rfl
  | cons entry _ ih => rw [get?_cons, get?_cons, ih (List.pairwise_cons.mp distinct).2]
  | swap a b rest =>
    have apart : ¬ b.1.same a.1 := (List.pairwise_cons.mp distinct).1 a.1 List.mem_cons_self
    rw [get?_cons, get?_cons, get?_cons, get?_cons]
    by_cases first : b.1.same key
    · have second : ¬ a.1.same key := fun second =>
        apart (Value.same_trans first (Value.same_symm second))
      rw [if_pos first, if_neg second, if_pos first]
    · rw [if_neg first, if_neg first]
  | trans one _ ih ih' =>
    have differ : ∀ {a b : Value}, ¬ a.same b → ¬ b.same a := fun apart together =>
      apart (Value.same_symm together)
    exact (ih distinct).trans (ih' ((one.map Prod.fst).pairwise distinct differ))

theorem get?_congr {other : Value} (together : key.same other) (t : Table α) :
    t.get? key = t.get? other := by
  have like (k : Value) : k.same key = k.same other := Bool.eq_iff_iff.mpr
    ⟨fun one => Value.same_trans one together,
      fun one => Value.same_trans one (Value.same_symm together)⟩
  simp only [get?, like]

theorem get?_isSome_iff {t : Table α} : (t.get? key).isSome ↔ key.within t.keys := by
  rw [Value.within_iff]
  simp only [get?, Option.isSome_map, List.find?_isSome, keys, List.mem_map]
  constructor
  · rintro ⟨e, held, like⟩
    exact ⟨e.1, ⟨e, held, rfl⟩, Value.same_symm like⟩
  · rintro ⟨_, ⟨e, held, rfl⟩, like⟩
    exact ⟨e, held, Value.same_symm like⟩

theorem get?_eq_none_iff {t : Table α} : t.get? key = none ↔ ¬ key.within t.keys := by
  rw [← get?_isSome_iff, Option.not_isSome_iff_eq_none]

theorem keys_alter (t : Table α) (key : Value) (start : α) (f : α → α) :
    (t.alter key start f).keys = Value.register t.keys key := by
  obtain ⟨entries⟩ := t
  induction entries with
  | nil => rfl
  | cons entry rest ih =>
    obtain ⟨k, a⟩ := entry
    by_cases like : k.same key
    · rw [alter_cons_of_same like, Value.register_of_within]
      · rfl
      · exact Value.within_iff.mpr ⟨k, by simp [keys], Value.same_symm like⟩
    · rw [alter_cons_of_not_same like]
      simp only [keys, List.map_cons] at ih ⊢
      rw [ih, Value.register_cons_of_not_same fun together => like (Value.same_symm together)]

/-- A key that is not in a table is entered at its end. -/
theorem entries_put_of_not_within {t : Table α} (new : ¬ key.within t.keys) (a : α) :
    (t.put key a).entries = t.entries ++ [(key, a)] := by
  obtain ⟨entries⟩ := t
  induction entries with
  | nil => rfl
  | cons entry rest ih =>
    obtain ⟨k, b⟩ := entry
    have unlike : ¬ k.same key := fun like =>
      new (Value.within_iff.mpr ⟨k, by simp [keys], Value.same_symm like⟩)
    have newer : ¬ key.within (Table.mk rest).keys := fun known => new (by
      simp only [keys, Value.within, List.map_cons, List.any_cons, Bool.or_eq_true] at known ⊢
      exact .inr known)
    rw [put, alter_cons_of_not_same unlike, ← put, ih newer]
    rfl

/-- No key comes into a table but by being entered. -/
theorem mem_keys_merge {t u : Table α} {k : Value} (held : k ∈ (t.merge u).keys) :
    k ∈ t.keys ∨ k ∈ u.keys := by
  obtain ⟨entries⟩ := u
  induction entries generalizing t with
  | nil => exact .inl held
  | cons entry rest ih =>
    rcases ih (t := t.put entry.1 entry.2) held with before | after
    · rw [put, keys_alter, Value.register] at before
      split at before
      · exact .inl before
      · rcases List.mem_append.mp before with before | new
        · exact .inl before
        · exact .inr (by simp [keys, List.mem_singleton.mp new])
    · exact .inr (List.mem_cons_of_mem _ after)

theorem distinct_empty : (Table.mk [] : Table α).Distinct := List.Pairwise.nil

theorem distinct_alter {t : Table α} (distinct : t.Distinct) (key : Value) (start : α)
    (f : α → α) : (t.alter key start f).Distinct := by
  rw [Distinct, keys_alter]
  exact Value.apart_register distinct key

/-- What holds of all entries, and of a new one, holds after one has been changed. -/
theorem forall_alter {holds : Value × α → Prop} {t : Table α}
    (before : ∀ entry ∈ t.entries, holds entry) (new : holds (key, f start))
    (changed : ∀ k a, holds (k, a) → holds (k, f a)) :
    ∀ entry ∈ (t.alter key start f).entries, holds entry := by
  obtain ⟨entries⟩ := t
  induction entries with
  | nil =>
    rw [alter_nil]
    exact List.forall_mem_singleton.mpr new
  | cons entry rest ih =>
    obtain ⟨k, a⟩ := entry
    obtain ⟨first, others⟩ := List.forall_mem_cons.mp before
    by_cases like : k.same key
    · rw [alter_cons_of_same like]
      exact List.forall_mem_cons.mpr ⟨changed k a first, others⟩
    · rw [alter_cons_of_not_same like]
      exact List.forall_mem_cons.mpr ⟨first, ih others⟩

/-- A key that is entered is registered among names, and so all keys stay. -/
theorem keys_within_alter {t : Table α} {names : List Value} (before : ∀ k ∈ t.keys, k.within names)
    (known : key.within names) : ∀ k ∈ (t.alter key start f).keys, k.within names := by
  intro k held
  rw [keys_alter, Value.register] at held
  split at held
  · exact before k held
  · rcases List.mem_append.mp held with old | new
    · exact before k old
    · rwa [List.mem_singleton.mp new]

/-- Tables with distinct keys are known by their keys and by what stands under them. -/
theorem ext_of_distinct {t u : Table α} (distinct : t.Distinct) (keys : t.keys = u.keys)
    (found : ∀ key, t.get? key = u.get? key) : t = u := by
  obtain ⟨ts⟩ := t
  obtain ⟨us⟩ := u
  induction ts generalizing us with
  | nil =>
    cases us with
    | nil => rfl
    | cons => cases keys
  | cons e ts ih =>
    cases us with
    | nil => cases keys
    | cons f us =>
      obtain ⟨k, a⟩ := e
      obtain ⟨j, b⟩ := f
      simp only [Table.keys, List.map_cons, List.cons.injEq] at keys
      obtain ⟨rfl, keys⟩ := keys
      have here := found k
      rw [get?_cons, get?_cons, if_pos (Value.same_refl k), if_pos (Value.same_refl k)] at here
      obtain ⟨apart, distinct⟩ := List.pairwise_cons.mp distinct
      have rest : Table.mk ts = Table.mk us := by
        refine ih distinct us keys fun key => ?_
        by_cases like : k.same key
        · have absent (others : List (Value × α)) (same : others.map Prod.fst = ts.map Prod.fst) :
              (Table.mk others).get? key = none :=
            get?_of_absent fun other held together => by
              refine apart other ?_ (Value.same_trans like (Value.same_symm together))
              simpa [Table.keys, same] using held
          rw [absent ts rfl, absent us keys.symm]
        · simpa [get?_cons, like] using found key
      rw [Option.some.inj here]
      exact congrArg (fun t => Table.mk ((k, b) :: t.entries)) rest

/-- One table on top of another: keys keep their place, what stands under equal keys is combined,
and new keys follow. -/
def combine (f : α → α → α) (t u : Table α) : Table α :=
  ⟨(t.entries.map fun (key, a) => (key, ((u.get? key).map (f a)).getD a)) ++
    u.entries.filter fun (key, _) => !key.within t.keys⟩

theorem keys_combine (f : α → α → α) (t u : Table α) :
    (t.combine f u).keys = Value.joined t.keys u.keys := by
  simp [combine, keys, Value.joined, List.filter_map, Function.comp_def]

theorem get?_append (ts us : List (Value × α)) (key : Value) :
    (Table.mk (ts ++ us)).get? key = ((Table.mk ts).get? key <|> (Table.mk us).get? key) := by
  simp only [get?, List.find?_append]
  cases ts.find? _ <;> rfl

theorem get?_map_entries (g : Value → α → α) (key : Value) (entries : List (Value × α))
    (respects : ∀ k a, k.same key → g k a = g key a) :
    (Table.mk (entries.map fun (k, a) => (k, g k a))).get? key =
      ((Table.mk entries).get? key).map (g key) := by
  induction entries with
  | nil => rfl
  | cons e rest ih =>
    obtain ⟨k, a⟩ := e
    rw [List.map_cons, get?_cons, get?_cons, ih]
    split
    · rename_i like
      rw [respects k a like, Option.map_some]
    · rfl

theorem get?_filter (test : Value → Bool) {key : Value} (passes : ∀ k, k.same key → test k)
    (entries : List (Value × α)) :
    (Table.mk (entries.filter fun (k, _) => test k)).get? key = (Table.mk entries).get? key := by
  induction entries with
  | nil => rfl
  | cons e rest ih =>
    obtain ⟨k, a⟩ := e
    by_cases kept : test k
    · rw [List.filter_cons_of_pos (by simpa using kept), get?_cons, get?_cons, ih]
    · have unlike : ¬ k.same key := fun like => kept (passes k like)
      rw [List.filter_cons_of_neg (by simpa using kept), ih, get?_cons, if_neg unlike]

theorem get?_combine (f : α → α → α) (t u : Table α) (key : Value) :
    (t.combine f u).get? key = match t.get? key with
      | some a => some (((u.get? key).map (f a)).getD a)
      | none => u.get? key := by
  rw [combine, get?_append, get?_map_entries (fun k a => ((u.get? k).map (f a)).getD a) key]
  · cases found : t.get? key with
    | some a => rfl
    | none =>
      change (Table.mk (u.entries.filter fun (k, _) => !k.within t.keys)).get? key = u.get? key
      refine get?_filter (fun k => !k.within t.keys) (fun k like => ?_) u.entries
      rw [Value.within_congr like, Bool.not_eq_true', ← Bool.not_eq_true]
      exact get?_eq_none_iff.mp found
  · intro k a like
    rw [get?_congr like]

theorem distinct_combine {t u : Table α} (f : α → α → α) (first : t.Distinct)
    (second : u.Distinct) : (t.combine f u).Distinct := by
  rw [Distinct, keys_combine, Value.joined, List.pairwise_append]
  refine ⟨first, second.sublist List.filter_sublist, fun k held other kept together => ?_⟩
  have new := (List.mem_filter.mp kept).2
  rw [Bool.not_eq_true', ← Bool.not_eq_true] at new
  exact new (Value.within_iff.mpr ⟨k, held, Value.same_symm together⟩)

/-- A change of the upper table is a change of the combined one, where it goes well with how
entries are combined. -/
theorem combine_alter {f : α → α → α} {g : α → α} {start : α} {t u : Table α}
    (first : t.Distinct) (second : u.Distinct) (known : ∀ a b, f a (g b) = g (f a b))
    (new : ∀ a, f a (g start) = g a) (key : Value) :
    t.combine f (u.alter key start g) = (t.combine f u).alter key start g := by
  refine ext_of_distinct (distinct_combine f first (distinct_alter second ..)) ?_ fun other => ?_
  · rw [keys_combine, keys_alter, keys_alter, keys_combine, Value.joined_register]
  · rw [get?_combine, get?_alter, get?_alter, get?_combine, get?_combine]
    by_cases like : key.same other
    · rw [if_pos like, if_pos like, get?_congr like, get?_congr like]
      cases t.get? other with
      | none => rfl
      | some a =>
        cases u.get? other with
        | none => simp [new]
        | some b => simp [known]
    · rw [if_neg like, if_neg like]

end Table

end AccessPolicy
