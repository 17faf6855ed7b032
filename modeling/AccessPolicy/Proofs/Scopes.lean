import AccessPolicy.Policy.Program

/-! Which statements of a program stand outside the block that they need. By the text a statement is
in the scope of all blocks around it; but a reader keeps one open block of each kind, so that one
closes the one of its own kind around it, for all that comes after. -/

namespace AccessPolicy

inductive BlockKind where
  | privilege
  | role
  | grant
  deriving DecidableEq, Repr

abbrev Scopes := BlockKind → Bool

namespace Scopes

def none : Scopes := fun _ => false

def opened (around : Scopes) (kind : BlockKind) : Scopes := fun k => k == kind || around k

def closed (around : Scopes) (kind : BlockKind) : Scopes := fun k => k != kind && around k

def need (around : Scopes) (kind : BlockKind) : Option Scopes :=
  if around kind then some around else Option.none

theorem need_of_open {around : Scopes} {kind : BlockKind} (isOpen : around kind) :
    around.need kind = some around := if_pos isOpen

theorem need_of_closed {around : Scopes} {kind : BlockKind} (closed : ¬ around kind) :
    around.need kind = Option.none := if_neg closed

/-- What is open after some kinds have been closed. By the text alone it is what was open before. -/
def past (lexical : Bool) (around closes : Scopes) : Scopes :=
  fun k => around k && (lexical || !closes k)

@[simp] theorem past_true (around closes : Scopes) : around.past true closes = around := by
  funext k
  simp [past]

@[simp] theorem past_none (around : Scopes) : around.past false none = around := by
  funext k
  simp [past, none]

/-- With a block is closed what is closed in it. -/
theorem closed_past (around closes : Scopes) (kind : BlockKind) :
    ((around.opened kind).past false closes).closed kind =
      around.past false (closes.opened kind) := by
  funext k
  cases same : k == kind <;> simp [opened, past, closed, bne, same]

/-- What no block closes is as open as before. -/
theorem past_of_disjoint {around closes : Scopes} (apart : ∀ k, around k → ¬ closes k) :
    around.past false closes = around := by
  funext k
  cases isOpen : around k with
  | false => simp [past, isOpen]
  | true => simp [past, isOpen, apart k isOpen]

theorem opened_mono {lower upper : Scopes} (below : ∀ k, lower k → upper k) (kind k : BlockKind)
    (isOpen : lower.opened kind k) : upper.opened kind k := by
  simp only [opened, Bool.or_eq_true] at isOpen ⊢
  exact isOpen.imp_right (below k)

theorem past_mono {lower upper : Scopes} (below : ∀ k, lower k → upper k) (closes : Scopes)
    (k : BlockKind) (isOpen : lower.past false closes k) : upper k :=
  below k (Bool.and_eq_true_iff.mp isOpen).1

/-- What is closed by the text is closed where it runs. -/
theorem not_mono {lower upper : Scopes} (below : ∀ k, lower k → upper k) {kind : BlockKind}
    (closed : !upper kind) : !lower kind := by
  rw [Bool.not_eq_true'] at closed ⊢
  exact Bool.eq_false_iff.mpr fun isOpen => Bool.eq_false_iff.mp closed (below kind isOpen)

/-- In the body of a block that has no other of its kind in it, nothing is closed that is open. -/
theorem opened_disjoint {around closes : Scopes} {kind : BlockKind}
    (apart : ∀ k, around k → ¬ closes.opened kind k) (flat : ¬ closes kind) :
    ∀ k, around.opened kind k → ¬ closes k := by
  intro k isOpen closed
  rcases Bool.or_eq_true_iff.mp isOpen with same | before
  · rw [beq_iff_eq] at same
    exact flat (same ▸ closed)
  · exact apart k before (Bool.or_eq_true_iff.mpr (.inr closed))

end Scopes

def Privilege.optionsInclude (options : Value) (extra : List (String × Value)) : Bool :=
  match optionEntries options with
  | .ok entries => (includedBy (mergedOptions entries extra)).isSome
  | .error _ => false

namespace Step

mutual

/-- The kinds of the blocks in a step, which it closes. A grant without a body is no block. -/
def closes : Step → Scopes
  | .privilege _ _ _ _ body => (bodyCloses body).opened .privilege
  | .role _ _ _ body => (bodyCloses body).opened .role
  | .grant _ _ body => if body.isSome then (bodyCloses body).opened .grant else .none
  | .attempt steps => programCloses steps
  | .overridable _ _ operation => operation.closes
  | _ => .none

def bodyCloses : Option (List Step) → Scopes
  | none => .none
  | some steps => programCloses steps

def programCloses : List Step → Scopes
  | [] => .none
  | step :: rest => fun k => step.closes k || programCloses rest k

end

mutual

/-- A statement in the step stands outside the block that it needs: outside the text of one, or else
outside of what is open where it runs. The lower privileges that options include come after the
body. -/
def strays (lexical : Bool) (around : Scopes) : Step → Bool
  | .privilege _ context options extra body =>
    bodyStrays lexical (around.opened .privilege) body ||
      (Privilege.optionsInclude (if context.isMap then context else options) extra &&
        !(around.opened .privilege).past lexical (bodyCloses body) .privilege)
  | .includePrivileges _ => !around .privilege
  | .role _ _ _ body => bodyStrays lexical (around.opened .role) body
  | .includeRoles _ | .title _ | .description _ => !around .role
  | .grant _ _ body => !around .role || bodyStrays lexical (around.opened .grant) body
  | .addPrivileges _ | .restrict .. => !around .grant
  | .attempt steps => programStrays lexical around steps
  | .overridable _ _ operation => operation.strays lexical around
  | _ => false

def bodyStrays (lexical : Bool) (around : Scopes) : Option (List Step) → Bool
  | none => false
  | some steps => programStrays lexical around steps

def programStrays (lexical : Bool) (around : Scopes) : List Step → Bool
  | [] => false
  | step :: rest => step.strays lexical around ||
      programStrays lexical (around.past lexical step.closes) rest

end

mutual

def nests : Step → Bool
  | .privilege _ _ _ _ body => bodyCloses body .privilege || bodyNests body
  | .role _ _ _ body => bodyCloses body .role || bodyNests body
  | .grant _ _ body => bodyCloses body .grant || bodyNests body
  | .attempt steps => programNests steps
  | .overridable _ _ operation => operation.nests
  | _ => false

def bodyNests : Option (List Step) → Bool
  | none => false
  | some steps => programNests steps

def programNests : List Step → Bool
  | [] => false
  | step :: rest => step.nests || programNests rest

end

/-- What is open after a step if it does not stray. -/
def effect (step : Step) (around : Scopes) : Option Scopes :=
  if step.strays false around then none else some (around.past false step.closes)

def bodyEffect (body : Option (List Step)) (around : Scopes) : Option Scopes :=
  if bodyStrays false around body then none else some (around.past false (bodyCloses body))

def programEffect (steps : List Step) (around : Scopes) : Option Scopes :=
  if programStrays false around steps then none else some (around.past false (programCloses steps))

theorem bodyEffect_none : bodyEffect none = some :=
  funext fun around => congrArg some (Scopes.past_none around)

theorem programEffect_eq_none {steps : List Step} {around : Scopes} :
    programEffect steps around = none ↔ programStrays false around steps := by
  unfold programEffect
  split <;> simp_all

theorem programEffect_nil : programEffect [] = some :=
  funext fun around => congrArg some (Scopes.past_none around)

theorem programEffect_cons (step : Step) (rest : List Step) :
    programEffect (step :: rest) = fun around =>
      (step.effect around).bind (programEffect rest) := by
  funext around
  have past : around.past false (programCloses (step :: rest)) =
      (around.past false step.closes).past false (programCloses rest) := by
    funext k
    simp [Scopes.past, programCloses, Bool.and_assoc]
  unfold effect programEffect
  rw [past, programStrays]
  cases step.strays false around <;> rfl

theorem effect_privilege (name context options : Value) (extra : List (String × Value))
    (body : Option (List Step)) :
    effect (.privilege name context options extra body) = fun around =>
      ((bodyEffect body (around.opened .privilege)).bind fun inside =>
        if Privilege.optionsInclude (if context.isMap then context else options) extra then
          inside.need .privilege
        else some inside).map (·.closed .privilege) := by
  funext around
  unfold effect bodyEffect Scopes.need
  rw [strays, closes, ← Scopes.closed_past]
  cases bodyStrays false (around.opened .privilege) body with
  | true => rfl
  | false =>
    cases Privilege.optionsInclude (if context.isMap then context else options) extra with
    | false => rfl
    | true =>
      cases isOpen : (around.opened .privilege).past false (bodyCloses body) .privilege <;>
        simp [isOpen]

theorem effect_role (role title description : Value) (body : Option (List Step)) :
    effect (.role role title description body) = fun around =>
      (bodyEffect body (around.opened .role)).map (·.closed .role) := by
  funext around
  unfold effect bodyEffect
  rw [strays, closes, ← Scopes.closed_past]
  cases bodyStrays false (around.opened .role) body <;> rfl

theorem effect_grant (context privileges : Value) (body : Option (List Step)) :
    effect (.grant context privileges body) = fun around => (around.need .role).bind fun around =>
      if body.isSome then (bodyEffect body (around.opened .grant)).map (·.closed .grant)
      else some around := by
  funext around
  unfold effect bodyEffect Scopes.need
  rw [strays, closes]
  cases around .role with
  | false => rfl
  | true =>
    cases body with
    | none => exact congrArg some (Scopes.past_none around)
    | some steps =>
      simp only [Option.isSome_some, if_true, ← Scopes.closed_past]
      cases stray : bodyStrays false (around.opened .grant) (some steps) <;> simp [stray]

/-- A statement that opens no block, and needs one. -/
theorem effect_of_needs {step : Step} {kind : BlockKind}
    (needs : ∀ around, step.strays false around = !around kind) (opens : step.closes = .none) :
    step.effect = (·.need kind) := by
  funext around
  unfold effect Scopes.need
  rw [needs, opens, Scopes.past_none]
  cases around kind <;> rfl

/-- A statement that neither opens a block nor needs one. -/
theorem effect_of_plain {step : Step} (plain : ∀ around, step.strays false around = false)
    (opens : step.closes = .none) : step.effect = some := by
  funext around
  unfold effect
  rw [plain, opens, Scopes.past_none]
  rfl

mutual

/-- Blocks have names other than null, and no step raises a fault of scope by itself. -/
def isProper : Step → Bool
  | .privilege name _ _ _ body | .role name _ _ body => !(name matches .null) && bodyIsProper body
  | .grant _ _ body => bodyIsProper body
  | .attempt steps => programIsProper steps
  | .overridable _ _ operation => operation.isProper
  | .refuse (.scope _) => false
  | _ => true

def bodyIsProper : Option (List Step) → Bool
  | none => true
  | some steps => programIsProper steps

def programIsProper : List Step → Bool
  | [] => true
  | step :: rest => step.isProper && programIsProper rest

end

mutual

/-- Outside the text of a block that it needs, a statement is so where it runs, too. -/
theorem strays_of_lexical :
    ∀ {lower upper : Scopes} (step : Step), (∀ k, lower k → upper k) →
      step.strays true upper → step.strays false lower
  | _, upper, .privilege _ _ _ _ body, below, out => by
    have inside : bodyStrays true (upper.opened .privilege) body := by
      simpa [strays, Scopes.opened] using out
    exact Bool.or_eq_true_iff.mpr
      (.inl (bodyStrays_of_lexical body (Scopes.opened_mono below _) inside))
  | _, _, .role _ _ _ body, below, out =>
    bodyStrays_of_lexical body (Scopes.opened_mono below _) out
  | _, _, .grant _ _ body, below, out => Bool.or_eq_true_iff.mpr ((Bool.or_eq_true_iff.mp out).imp
      (Scopes.not_mono below) (bodyStrays_of_lexical body (Scopes.opened_mono below _)))
  | _, _, .includePrivileges _, below, out | _, _, .includeRoles _, below, out
  | _, _, .title _, below, out | _, _, .description _, below, out
  | _, _, .addPrivileges _, below, out | _, _, .restrict .., below, out => Scopes.not_mono below out
  | _, _, .attempt steps, below, out => programStrays_of_lexical steps below out
  | _, _, .overridable _ _ operation, below, out => strays_of_lexical operation below out

theorem bodyStrays_of_lexical :
    ∀ {lower upper : Scopes} (body : Option (List Step)), (∀ k, lower k → upper k) →
      bodyStrays true upper body → bodyStrays false lower body
  | _, _, some steps, below, out => programStrays_of_lexical steps below out

theorem programStrays_of_lexical :
    ∀ {lower upper : Scopes} (steps : List Step), (∀ k, lower k → upper k) →
      programStrays true upper steps → programStrays false lower steps
  | _, _, step :: rest, below, out => by
    rw [programStrays, Scopes.past_true] at out
    exact Bool.or_eq_true_iff.mpr ((Bool.or_eq_true_iff.mp out).imp (strays_of_lexical step below)
      (programStrays_of_lexical rest (Scopes.past_mono below _)))

end

mutual

/-- Where no block stands within one of its kind, statements are out of scope by the text alone. -/
theorem strays_eq_lexical :
    ∀ {around : Scopes} (step : Step), (∀ k, around k → ¬ step.closes k) → ¬ step.nests →
      step.strays false around = step.strays true around
  | around, .privilege _ context options extra body, apart, flat => by
    obtain ⟨alone, flat⟩ := not_or.mp (flat ∘ Bool.or_eq_true_iff.mpr)
    have inside := Scopes.opened_disjoint apart alone
    rw [strays, strays, bodyStrays_eq_lexical body inside flat, Scopes.past_of_disjoint inside,
      Scopes.past_true]
  | around, .role _ _ _ body, apart, flat => by
    obtain ⟨alone, flat⟩ := not_or.mp (flat ∘ Bool.or_eq_true_iff.mpr)
    exact bodyStrays_eq_lexical body (Scopes.opened_disjoint apart alone) flat
  | around, .grant _ _ none, _, _ => rfl
  | around, .grant _ _ (some steps), apart, flat => by
    obtain ⟨alone, flat⟩ := not_or.mp (flat ∘ Bool.or_eq_true_iff.mpr)
    rw [strays, strays, bodyStrays_eq_lexical _ (Scopes.opened_disjoint apart alone) flat]
  | around, .attempt steps, apart, flat => programStrays_eq_lexical steps apart flat
  | around, .overridable _ _ operation, apart, flat => strays_eq_lexical operation apart flat
  | _, .registerPrivilege _, _, _ | _, .includePrivileges _, _, _ | _, .registerRole .., _, _
  | _, .includeRoles _, _, _ | _, .title _, _, _ | _, .description _, _, _
  | _, .addPrivileges _, _, _ | _, .restrict .., _, _ | _, .condition .., _, _
  | _, .follow .., _, _ | _, .direct .., _, _ | _, .refuse _, _, _ => rfl

theorem bodyStrays_eq_lexical :
    ∀ {around : Scopes} (body : Option (List Step)), (∀ k, around k → ¬ bodyCloses body k) →
      ¬ bodyNests body → bodyStrays false around body = bodyStrays true around body
  | _, none, _, _ => rfl
  | _, some steps, apart, flat => programStrays_eq_lexical steps apart flat

theorem programStrays_eq_lexical :
    ∀ {around : Scopes} (steps : List Step), (∀ k, around k → ¬ programCloses steps k) →
      ¬ programNests steps → programStrays false around steps = programStrays true around steps
  | _, [], _, _ => rfl
  | around, step :: rest, apart, flat => by
    obtain ⟨first, others⟩ := not_or.mp (flat ∘ Bool.or_eq_true_iff.mpr)
    have here (k : BlockKind) (isOpen : around k) : ¬ step.closes k := fun closed =>
      apart k isOpen (Bool.or_eq_true_iff.mpr (.inl closed))
    have later (k : BlockKind) (isOpen : around k) : ¬ programCloses rest k := fun closed =>
      apart k isOpen (Bool.or_eq_true_iff.mpr (.inr closed))
    rw [programStrays, programStrays, strays_eq_lexical step here first,
      Scopes.past_of_disjoint here, Scopes.past_true, programStrays_eq_lexical rest later others]

end

end Step

end AccessPolicy
