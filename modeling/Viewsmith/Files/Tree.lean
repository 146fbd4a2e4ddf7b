namespace Viewsmith.Files

inductive Content
  | text (s : String)
  | bytes (b : List UInt8)
deriving DecidableEq

inductive Entry
  | directory
  | file (c : Content)
deriving DecidableEq

abbrev Location := List String

structure FileTree where
  entries : List (Location × Entry)
deriving DecidableEq

namespace FileTree

def findEntry : List (Location × Entry) → Location → Option Entry
  | [], _ => none
  | (l, e) :: rest, target => if l = target then some e else findEntry rest target

/-- The entry at a location. The root is always a directory. -/
def get? (t : FileTree) (l : Location) : Option Entry :=
  match l with
  | [] => some .directory
  | _ => findEntry t.entries l

def setEntry : List (Location × Entry) → Location → Entry → List (Location × Entry)
  | [], target, e => [(target, e)]
  | (l, old) :: rest, target, e =>
      if l = target then (l, e) :: rest else (l, old) :: setEntry rest target e

def put (t : FileTree) (l : Location) (e : Entry) : FileTree :=
  ⟨setEntry t.entries l e⟩

def remove (t : FileTree) (l : Location) : FileTree :=
  ⟨t.entries.filter fun entry => !l.isPrefixOf entry.1⟩

theorem findEntry_setEntry_self (entries : List (Location × Entry)) (l : Location) (e : Entry) :
    findEntry (setEntry entries l e) l = some e := by
  induction entries with
  | nil => simp [setEntry, findEntry]
  | cons entry rest ih =>
      obtain ⟨k, old⟩ := entry
      by_cases hk : k = l
      · simp [setEntry, findEntry, hk]
      · simp [setEntry, findEntry, hk, ih]

theorem findEntry_setEntry_of_ne (entries : List (Location × Entry)) {l m : Location} (e : Entry)
    (h : l ≠ m) : findEntry (setEntry entries l e) m = findEntry entries m := by
  induction entries with
  | nil => simp [setEntry, findEntry, h]
  | cons entry rest ih =>
      obtain ⟨k, old⟩ := entry
      by_cases hk : k = l
      · subst hk
        simp [setEntry, findEntry, h]
      · simp [setEntry, findEntry, hk, ih]

theorem get?_put_self (t : FileTree) {l : Location} (e : Entry) (h : l ≠ []) :
    (t.put l e).get? l = some e := by
  cases l with
  | nil => exact absurd rfl h
  | cons name rest => exact findEntry_setEntry_self t.entries (name :: rest) e

theorem get?_put_of_ne (t : FileTree) {l m : Location} (e : Entry) (h : l ≠ m) :
    (t.put l e).get? m = t.get? m := by
  cases m with
  | nil => rfl
  | cons name rest => exact findEntry_setEntry_of_ne t.entries e h

end FileTree

end Viewsmith.Files
