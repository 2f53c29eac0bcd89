import RefAtlas.Entries

/-! # Dictionaries

A `Dictionary β` holds values under text keys, one value a key, in the order of the keys. Two
dictionaries with the same entries are equal, whatever the order in which they were filled.

* `Dictionary.insert`, `Dictionary.get?`, `Dictionary.ofList`: filling and reading; a later value
  replaces an earlier one under the same key.
* `get?_insert`: reading after one insertion.
-/

namespace RefAtlas
set_option autoImplicit false

variable {β γ : Type}

/-- Values under text keys, in the order of the keys. -/
structure Dictionary (β : Type) where
  entries : List (String × β)
  sorted : entries.Pairwise fun a b => a.1 < b.1

namespace Dictionary

def empty : Dictionary β := ⟨[], List.Pairwise.nil⟩

instance : Inhabited (Dictionary β) := ⟨empty⟩

def insert (d : Dictionary β) (key : String) (value : β) : Dictionary β :=
  ⟨insertEntry key value d.entries, pairwise_insertEntry key value d.sorted⟩

def get? (d : Dictionary β) (key : String) : Option β :=
  (d.entries.find? fun e => e.1 == key).map Prod.snd

def contains (d : Dictionary β) (key : String) : Bool := (d.get? key).isSome

def size (d : Dictionary β) : Nat := d.entries.length

def keys (d : Dictionary β) : List String := d.entries.map Prod.fst

/-- The dictionary of a list of entries; the last value of a repeated key counts. -/
def ofList (l : List (String × β)) : Dictionary β :=
  l.foldl (fun d e => d.insert e.1 e.2) empty

def values (d : Dictionary β) : List β := d.entries.map Prod.snd

def mapEntries (f : String → β → γ) (d : Dictionary β) : Dictionary γ :=
  ⟨d.entries.map fun e => (e.1, f e.1 e.2), d.sorted.map _ fun _ _ h => h⟩

/-! ## Reading what was written -/

theorem ext_entries {d d' : Dictionary β} (h : d.entries = d'.entries) : d = d' := by
  cases d; cases d'; cases h; rfl

theorem get?_empty (key : String) : (empty : Dictionary β).get? key = none := rfl

theorem get?_insert (d : Dictionary β) (key other : String) (value : β) :
    (d.insert key value).get? other = if other = key then some value else d.get? other :=
  find?_insertEntry key other value d.entries

end Dictionary

end RefAtlas
