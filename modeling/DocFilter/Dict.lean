/-!
# Dictionaries in insertion order

The order of the fields in a request decides the order of the clauses made from
them, so a dictionary here is a list of pairs.  `insert` writes over the value of
a key that is already there and leaves the key in its place; a new key goes to the
end.
-/

namespace DocFilter

/-- Keys and their values, oldest first. -/
abbrev Dict (κ : Type) (α : Type) := List (κ × α)

namespace Dict

variable {κ α : Type} [DecidableEq κ]

/-- The value of the first entry under the key. -/
def find? (key : κ) : Dict κ α → Option α
  | [] => none
  | (k, v) :: rest => if k = key then some v else find? key rest

/-- Whether the key has an entry. -/
def contains (key : κ) (d : Dict κ α) : Bool := (d.find? key).isSome

/-- The dictionary with the value written under the key. -/
def insert (key : κ) (value : α) : Dict κ α → Dict κ α
  | [] => [(key, value)]
  | (k, v) :: rest => if k = key then (k, value) :: rest else (k, v) :: insert key value rest

/-- All entries of the second dictionary written into the first, in order. -/
def insertAll (d : Dict κ α) (entries : Dict κ α) : Dict κ α :=
  entries.foldl (fun acc e => acc.insert e.1 e.2) d

/-- A dictionary with distinct keys, from entries that may repeat some. -/
def ofEntries (entries : List (κ × α)) : Dict κ α := insertAll [] entries

/-- The keys, oldest first. -/
def keys (d : Dict κ α) : List κ := d.map Prod.fst

/-- The values, oldest first. -/
def values (d : Dict κ α) : List α := d.map Prod.snd

@[simp] theorem find?_nil (key : κ) : find? key ([] : Dict κ α) = none := rfl

theorem find?_cons (key k : κ) (v : α) (d : Dict κ α) :
    find? key ((k, v) :: d) = if k = key then some v else find? key d := rfl

/-- A key that is new goes to the end. -/
theorem insert_of_not_mem {key : κ} {value : α} {d : Dict κ α} (h : key ∉ d.keys) :
    d.insert key value = d ++ [(key, value)] := by
  induction d with
  | nil => rfl
  | cons e rest ih =>
    obtain ⟨k, v⟩ := e
    simp only [keys, List.map_cons, List.mem_cons, not_or] at h
    simp only [insert, if_neg (Ne.symm h.1), List.cons_append]
    exact congrArg _ (ih h.2)

end Dict
end DocFilter
