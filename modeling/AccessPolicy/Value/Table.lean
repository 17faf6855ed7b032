import AccessPolicy.Value.Equality

/-! Tables keyed by values, in order of first entry. A key keeps its first spelling and
its place when it is entered again. -/

namespace AccessPolicy

structure Table (α : Type) where
  entries : List (Value × α) := []
  deriving Repr, Inhabited

namespace Table

variable {α β : Type}

def empty : Table α := ⟨[]⟩

def keys (t : Table α) : List Value := t.entries.map Prod.fst

def get? (t : Table α) (key : Value) : Option α :=
  (t.entries.find? fun (k, _) => Value.same k key).map Prod.snd

def contains (t : Table α) (key : Value) : Bool := t.entries.any fun (k, _) => Value.same k key

/-- Change the entry of the key; a new key is entered at the end, from the given start. -/
def alter (t : Table α) (key : Value) (start : α) (f : α → α) : Table α :=
  ⟨go t.entries⟩
where
  go : List (Value × α) → List (Value × α)
    | [] => [(key, f start)]
    | (k, a) :: rest => if Value.same k key then (k, f a) :: rest else (k, a) :: go rest

def put (t : Table α) (key : Value) (value : α) : Table α := t.alter key value fun _ => value

def ofList (entries : List (Value × α)) : Table α :=
  entries.foldl (fun t (k, a) => t.put k a) empty

def merge (t u : Table α) : Table α := u.entries.foldl (fun t (k, a) => t.put k a) t

def map (f : α → β) (t : Table α) : Table β := ⟨t.entries.map fun (k, a) => (k, f a)⟩

end Table

end AccessPolicy
