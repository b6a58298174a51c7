/-!
# Maps from names

A finite map whose keys are names and are listed in their order, by code point. Registries, prompt
templates and labels are such maps, and the order shows in what is printed.
-/

namespace ClusterTriage

/-- Entries in the order of their names, each name once. -/
structure NameMap (α : Type) where
  entries : List (String × α) := []
deriving Repr, DecidableEq, Inhabited

namespace NameMap

variable {α : Type}

def empty : NameMap α := ⟨[]⟩

/-- Puts an entry into a list of entries in its place; an entry of the same name gives way. -/
def insertEntry (name : String) (a : α) : List (String × α) → List (String × α)
  | [] => [(name, a)]
  | (n, b) :: rest =>
    if name < n then (name, a) :: (n, b) :: rest
    else if name = n then (name, a) :: rest
    else (n, b) :: insertEntry name a rest

/-- Binds a name, whatever it was bound to. -/
def insert (m : NameMap α) (name : String) (a : α) : NameMap α :=
  ⟨insertEntry name a m.entries⟩

def find? (m : NameMap α) (name : String) : Option α := m.entries.lookup name

/-- The bound names, in order. -/
def names (m : NameMap α) : List String := m.entries.map (·.1)

def isEmpty (m : NameMap α) : Bool := m.entries.isEmpty

def map {β : Type} (f : α → β) (m : NameMap α) : NameMap β :=
  ⟨m.entries.map fun (name, a) => (name, f a)⟩

/-- Binds names one after another; a later binding of a name counts. -/
def ofList (l : List (String × α)) : NameMap α :=
  l.foldl (fun (m : NameMap α) e => m.insert e.1 e.2) empty

end NameMap
end ClusterTriage
