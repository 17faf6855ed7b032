import AccessPolicy.Policy.Signature

/-! Which names fit a signature, and what is bound then. -/

namespace AccessPolicy

/-- Names that can be given once parameters are bound and others are taken: no name twice, and
other names than those of parameters only where there is room for them. -/
structure Signature.Fits (signature : Signature) (bound others names : List String) : Prop where
  plain : "self" ∉ names
  once : names.Nodup
  parameter : ∀ name ∈ names, name ∈ signature.parameters → name ∉ bound
  other : ∀ name ∈ names, name ∉ signature.parameters → signature.takesOthers ∧ name ∉ others

namespace Signature

variable {signature : Signature} {bound others names : List String} {name : String}

theorem fits_nil : signature.Fits bound others [] := by
  constructor <;> simp

theorem fits_cons_parameter (parameter : name ∈ signature.parameters) :
    signature.Fits bound others (name :: names) ↔
      name ≠ "self" ∧ name ∉ bound ∧ signature.Fits (bound ++ [name]) others names := by
  constructor
  · intro fits
    obtain ⟨absent, once⟩ := List.nodup_cons.mp fits.once
    refine ⟨fun same => fits.plain (by simp [same]), fits.parameter name (by simp) parameter,
      fun held => fits.plain (by simp [held]), once, fun other held known => ?_,
      fun other held => fits.other other (by simp [held])⟩
    have free := fits.parameter other (by simp [held]) known
    have differ : other ≠ name := fun same => absent (same ▸ held)
    simp [free, differ]
  · rintro ⟨plain, free, fits⟩
    have absent : name ∉ names := fun held => fits.parameter name held parameter (by simp)
    refine ⟨?_, List.nodup_cons.mpr ⟨absent, fits.once⟩, ?_, ?_⟩
    · simp [fits.plain, Ne.symm plain]
    · rintro other held known
      rcases List.mem_cons.mp held with rfl | held
      · exact free
      · exact fun taken => fits.parameter other held known (by simp [taken])
    · rintro other held unknown
      rcases List.mem_cons.mp held with rfl | held
      · exact absurd parameter unknown
      · exact fits.other other held unknown

theorem fits_cons_other (unknown : name ∉ signature.parameters) :
    signature.Fits bound others (name :: names) ↔
      name ≠ "self" ∧ signature.takesOthers ∧ name ∉ others ∧
        signature.Fits bound (others ++ [name]) names := by
  constructor
  · intro fits
    obtain ⟨absent, once⟩ := List.nodup_cons.mp fits.once
    obtain ⟨room, free⟩ := fits.other name (by simp) unknown
    refine ⟨fun same => fits.plain (by simp [same]), room, free,
      fun held => fits.plain (by simp [held]), once,
      fun other held => fits.parameter other (by simp [held]), fun other held strange => ?_⟩
    have free := (fits.other other (by simp [held]) strange).2
    have differ : other ≠ name := fun same => absent (same ▸ held)
    simp [room, free, differ]
  · rintro ⟨plain, room, free, fits⟩
    have absent : name ∉ names := fun held => (fits.other name held unknown).2 (by simp)
    refine ⟨?_, List.nodup_cons.mpr ⟨absent, fits.once⟩, ?_, ?_⟩
    · simp [fits.plain, Ne.symm plain]
    · rintro other held known
      rcases List.mem_cons.mp held with rfl | held
      · exact absurd known unknown
      · exact fits.parameter other held known
    · rintro other held strange
      rcases List.mem_cons.mp held with rfl | held
      · exact ⟨room, free⟩
      · exact ⟨room, fun taken => (fits.other other held strange).2 (by simp [taken])⟩

theorem Fits.perm {given : List String} (fits : signature.Fits bound others names)
    (perm : names.Perm given) : signature.Fits bound others given where
  plain := mt perm.mem_iff.mpr fits.plain
  once := perm.nodup_iff.mp fits.once
  parameter name held := fits.parameter name (perm.mem_iff.mpr held)
  other name held := fits.other name (perm.mem_iff.mpr held)

end Signature

namespace Given

variable {α β : Type}

theorem lookup_cons_ne {name key : String} (differ : name ≠ key) (value : α)
    (rest : List (String × α)) : ((key, value) :: rest).lookup name = rest.lookup name := by
  rw [List.lookup_cons, beq_eq_false_iff_ne.mpr differ]

theorem lookup_isSome_iff {name : String} {bound : List (String × α)} :
    (bound.lookup name).isSome ↔ name ∈ bound.map Prod.fst := by
  simp [List.lookup_isSome_iff]

theorem mem_of_lookup {name : String} {value : α} {bound : List (String × α)}
    (found : bound.lookup name = some value) : (name, value) ∈ bound := by
  obtain ⟨front, rest, rfl, -⟩ := List.lookup_eq_some_iff.mp found
  exact List.mem_append_right front List.mem_cons_self

/-- A name that passes a test is found among the pairs that pass it. -/
theorem lookup_filter {name : String} (test : String → Bool) (passes : test name)
    (pairs : List (String × α)) :
    (pairs.filter fun pair => test pair.1).lookup name = pairs.lookup name := by
  induction pairs with
  | nil => rfl
  | cons pair rest ih =>
    obtain ⟨key, value⟩ := pair
    by_cases same : name = key
    · subst same
      simp [passes]
    · by_cases kept : test key <;> simp [kept, lookup_cons_ne same, ih]

theorem lookup_map (f : String → α → β) (name : String) (pairs : List (String × α)) :
    (pairs.map fun pair => (pair.1, f pair.1 pair.2)).lookup name =
      (pairs.lookup name).map (f name) := by
  induction pairs with
  | nil => rfl
  | cons pair rest ih =>
    obtain ⟨key, value⟩ := pair
    by_cases same : name = key
    · subst same
      simp
    · simp only [List.map_cons, lookup_cons_ne same, ih]

def joined (signature : Signature) (given : Given α) (named : List (String × α)) : Given α where
  bound := given.bound ++ named.filter fun pair => signature.parameters.contains pair.1
  more := given.more
  others := given.others ++ named.filter fun pair => !signature.parameters.contains pair.1

theorem bindNamed_of_fits (operation : String) {signature : Signature}
    (named : List (String × α)) (given : Given α)
    (fits : signature.Fits (given.bound.map Prod.fst) (given.others.map Prod.fst)
      (named.map Prod.fst)) :
    bindNamed operation signature given named = .ok (joined signature given named) := by
  induction named generalizing given with
  | nil => simp [bindNamed, joined]
  | cons pair rest ih =>
    obtain ⟨name, argument⟩ := pair
    by_cases parameter : name ∈ signature.parameters
    · obtain ⟨plain, free, fits⟩ := (Signature.fits_cons_parameter parameter).mp fits
      have unbound : ¬ (given.get? name).isSome := mt lookup_isSome_iff.mp free
      simp only [bindNamed, beq_eq_false_iff_ne.mpr plain, Bool.false_eq_true, if_false,
        List.contains_iff_mem, if_pos parameter, if_neg unbound]
      rw [ih _ (by simpa using fits)]
      simp only [joined, List.filter_cons, List.contains_iff_mem.mpr parameter, Bool.not_true,
        Bool.false_eq_true, if_true, if_false, List.append_assoc, List.singleton_append]
    · obtain ⟨plain, room, free, fits⟩ := (Signature.fits_cons_other parameter).mp fits
      have absent : ¬ (given.others.lookup name).isSome := mt lookup_isSome_iff.mp free
      have strange : signature.parameters.contains name = false := by simpa using parameter
      simp only [bindNamed, beq_eq_false_iff_ne.mpr plain, Bool.false_eq_true, if_false,
        strange, if_pos room, if_neg absent]
      rw [ih _ (by simpa using fits)]
      simp only [joined, List.filter_cons, strange, Bool.not_false, Bool.false_eq_true, if_true,
        if_false, List.append_assoc, List.singleton_append]

theorem bindNamed_of_not_fits (operation : String) {signature : Signature}
    (named : List (String × α)) (given : Given α)
    (unfit : ¬ signature.Fits (given.bound.map Prod.fst) (given.others.map Prod.fst)
      (named.map Prod.fst)) :
    ∃ fault, bindNamed operation signature given named = .error fault := by
  induction named generalizing given with
  | nil => exact absurd Signature.fits_nil unfit
  | cons pair rest ih =>
    obtain ⟨name, argument⟩ := pair
    by_cases plain : name = "self"
    · exact ⟨_, by simp only [bindNamed, plain, beq_self_eq_true, if_true]; rfl⟩
    simp only [bindNamed, beq_eq_false_iff_ne.mpr plain, Bool.false_eq_true, if_false]
    by_cases parameter : name ∈ signature.parameters
    · rw [if_pos (List.contains_iff_mem.mpr parameter)]
      by_cases bound : (given.get? name).isSome
      · exact ⟨_, if_pos bound⟩
      · rw [if_neg bound]
        refine ih _ fun fits => unfit ((Signature.fits_cons_parameter parameter).mpr ⟨plain, ?_, ?_⟩)
        · exact mt lookup_isSome_iff.mpr bound
        · simpa using fits
    · rw [if_neg (mt List.contains_iff_mem.mp parameter)]
      by_cases room : signature.takesOthers
      · rw [if_pos room]
        by_cases taken : (given.others.lookup name).isSome
        · exact ⟨_, if_pos taken⟩
        · rw [if_neg taken]
          refine ih _ fun fits => unfit ((Signature.fits_cons_other parameter).mpr
            ⟨plain, room, ?_, ?_⟩)
          · exact mt lookup_isSome_iff.mpr taken
          · simpa using fits
      · exact ⟨_, if_neg room⟩

end Given

end AccessPolicy
