namespace Viewsmith.Table

variable {α : Type}

def find? (name : String) : List (String × α) → Option α
  | [] => none
  | (k, v) :: rest => if k = name then some v else find? name rest

def has (name : String) (table : List (String × α)) : Bool :=
  (find? name table).isSome

/-- Put a value under a name, in place of the one that was there. -/
def set (name : String) (value : α) : List (String × α) → List (String × α)
  | [] => [(name, value)]
  | (k, v) :: rest =>
      if name < k then (name, value) :: (k, v) :: rest
      else if name = k then (name, value) :: rest
      else (k, v) :: set name value rest

def erase (name : String) (table : List (String × α)) : List (String × α) :=
  table.filter (fun entry => entry.1 ≠ name)

/-- A table of the entries; of two with one name the later one stays. -/
def ofEntries (entries : List (String × α)) : List (String × α) :=
  entries.foldl (fun table (k, v) => set k v table) []

theorem find?_set_self (name : String) (value : α) (table : List (String × α)) :
    find? name (set name value table) = some value := by
  induction table with
  | nil => simp [set, find?]
  | cons entry rest ih =>
      obtain ⟨k, v⟩ := entry
      unfold set
      split
      · simp [find?]
      · split
        · simp [find?]
        · rename_i h
          simp [find?, Ne.symm h, ih]

theorem find?_set_of_ne {name other : String} (value : α) (table : List (String × α))
    (h : name ≠ other) : find? other (set name value table) = find? other table := by
  induction table with
  | nil => simp [set, find?, h]
  | cons entry rest ih =>
      obtain ⟨k, v⟩ := entry
      unfold set
      split
      · simp [find?, h]
      · split
        · rename_i hk
          subst hk
          simp [find?, h]
        · simp [find?, ih]

theorem find?_erase_self (name : String) (table : List (String × α)) :
    find? name (erase name table) = none := by
  induction table with
  | nil => simp [erase, find?]
  | cons entry rest ih =>
      obtain ⟨k, v⟩ := entry
      by_cases hk : k = name
      · simpa [erase, hk] using ih
      · simpa [erase, find?, hk] using ih

end Viewsmith.Table
