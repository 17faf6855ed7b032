import AccessPolicy.Policy.Source

/-! What actions come to when they are run. An intact session is one in which callers have put
nothing under a name of a reader: there every operation acts on the fields it is written for. -/

namespace AccessPolicy

/-- Nothing has been put under a name, and no open rule has been given up. -/
structure Session.Intact (s : Session) : Prop where
  changes : s.changes = []
  stray : s.stray = none

namespace Session.Intact

variable {s : Session}

theorem change? (intact : s.Intact) (block : Block) (name : String) :
    s.change? block name = none := by
  simp [Session.change?, intact.changes]

theorem withFields (intact : s.Intact) (block : Block) (names : List String)
    (f : Reader → Reader) : s.withFields block names f = { s with reader := f s.reader } := by
  simp [Session.withFields, intact.changes]

theorem loggerFault? (intact : s.Intact) (event : LogEvent) : s.loggerFault? event = none := by
  cases h : event.block? <;> simp [Session.loggerFault?, h, intact.change?]

/-- What a path meets in the reader of a block depends on the reader alone. -/
theorem place (intact : s.Intact) (block : Block) :
    block.place s = block.place { reader := s.reader } := by
  obtain ⟨reader, sink, log, serial, outcomes, changes, retired, stray⟩ := s
  obtain ⟨rfl, rfl⟩ := intact
  rfl

end Session.Intact

namespace Action

variable {α β : Type}

theorem run_bind (action : Action α) (next : α → Action β) (s : Session) :
    (action >>= next).run s = match action.run s with
      | (.ok a, s) => (next a).run s
      | (.error fault, s) => (.error fault, s) := by
  rw [ExceptT.run_bind]
  simp only [bind, StateT.bind]
  rcases action.run s with ⟨_ | _, _⟩ <;> rfl

theorem run_pure (a : α) (s : Session) : (pure a : Action α).run s = (.ok a, s) := rfl

theorem run_get (s : Session) : (get : Action Session).run s = (.ok s, s) := rfl

theorem run_reader (s : Session) : reader.run s = (.ok s.reader, s) := rfl

theorem run_modify (f : Session → Session) (s : Session) :
    (modify f : Action Unit).run s = (.ok (), f s) := rfl

theorem run_modifyTables (f : Tables → Tables) (s : Session) :
    (modifyTables f).run s =
      (.ok (), { s with reader := { s.reader with tables := f s.reader.tables } }) := rfl

theorem run_refuse (fault : Fault) (s : Session) :
    (refuse fault : Action α).run s = (.error fault.told, s) := rfl

theorem run_ensuring (action : Action α) (block : Block) (names : List String)
    (f : Reader → Reader) (s : Session) :
    (ensuring action block names f).run s =
      ((action.run s).1, (action.run s).2.withFields block names f) := rfl

theorem run_tryCatch (action : Action α) (handle : Fault → Action α) (s : Session) :
    (tryCatch action handle).run s = match action.run s with
      | (.ok a, s) => (.ok a, s)
      | (.error fault, s) => (handle fault).run s := by
  simp only [tryCatch, tryCatchThe, MonadExceptOf.tryCatch, ExceptT.tryCatch, ExceptT.run_mk, bind,
    StateT.bind]
  rcases h : action.run s with ⟨_ | _, _⟩ <;> rw [ExceptT.run] at h <;> rw [h] <;> rfl

section Intact

variable {s : Session}

theorem run_requireField (intact : s.Intact) (block : Block) (name : String) :
    (requireField block name).run s = (.ok (), s) := by
  simp [requireField, run_bind, run_get, intact.change?, run_pure]

theorem run_onField (intact : s.Intact) (block : Block) (name : String)
    (other : Value → Except Fault Value) (usual : Action Unit) :
    (onField block name other usual).run s = usual.run s := by
  simp [onField, run_bind, run_get, intact.change?]

theorem run_operate (intact : s.Intact) (block : Block) (name : String)
    (positional : List Value) (operation : Action Unit) :
    (operate block name positional operation).run s = operation.run s := by
  simp [operate, run_bind, run_get, intact.change?]

theorem run_modifyFields (intact : s.Intact) (block : Block) (names : List String)
    (f : Reader → Reader) :
    (modifyFields block names f).run s = (.ok (), { s with reader := f s.reader }) := by
  rw [← intact.withFields block names f]; rfl

end Intact

end Action

end AccessPolicy
