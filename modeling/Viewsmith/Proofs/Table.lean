import Mathlib.Data.String.Basic
import Viewsmith.Table

namespace Viewsmith.Table

variable {α : Type}

def Sorted (table : List (String × α)) : Prop := (table.map Prod.fst).Pairwise (· < ·)

theorem sorted_nil : Sorted ([] : List (String × α)) := List.Pairwise.nil

theorem sorted_cons {k : String} {v : α} {rest : List (String × α)} :
    Sorted ((k, v) :: rest) ↔ (∀ name ∈ rest.map Prod.fst, k < name) ∧ Sorted rest := by
  rw [Sorted, List.map_cons, List.pairwise_cons]
  rfl

theorem mem_keys_set {name other : String} {v : α} {table : List (String × α)}
    (h : other ∈ (set name v table).map Prod.fst) : other = name ∨ other ∈ table.map Prod.fst := by
  induction table with
  | nil => simpa [set] using h
  | cons entry rest ih =>
      obtain ⟨k, w⟩ := entry
      unfold set at h
      split at h
      · simpa using h
      · split at h
        · rename_i hk
          simpa [hk] using h
        · rw [List.map_cons, List.mem_cons] at h ⊢
          rcases h with rfl | h
          · exact .inr (.inl rfl)
          · rcases ih h with rfl | h
            · exact .inl rfl
            · exact .inr (.inr h)

theorem Sorted.set {table : List (String × α)} (h : Sorted table) (name : String) (v : α) :
    Sorted (Table.set name v table) := by
  induction table with
  | nil => exact List.pairwise_singleton _ _
  | cons entry rest ih =>
      obtain ⟨k, w⟩ := entry
      obtain ⟨hfirst, hrest⟩ := sorted_cons.mp h
      unfold Table.set
      split
      · rename_i hlt
        refine sorted_cons.mpr ⟨fun other hother => ?_, h⟩
        rcases List.mem_cons.mp hother with rfl | hother
        · exact hlt
        · exact hlt.trans (hfirst other hother)
      · split
        · rename_i hk
          subst hk
          exact sorted_cons.mpr ⟨hfirst, hrest⟩
        · rename_i hlt hk
          refine sorted_cons.mpr ⟨fun other hother => ?_, ih hrest⟩
          rcases mem_keys_set hother with rfl | hother
          · exact lt_of_le_of_ne (not_lt.mp hlt) (Ne.symm hk)
          · exact hfirst other hother

theorem find?_of_not_mem {key : String} {table : List (String × α)}
    (h : key ∉ table.map Prod.fst) : find? key table = none := by
  induction table with
  | nil => rfl
  | cons entry rest ih =>
      obtain ⟨k, v⟩ := entry
      rw [List.map_cons, List.mem_cons, not_or] at h
      rw [find?, if_neg (Ne.symm h.1), ih h.2]

theorem mem_set {e : String × α} {name : String} {v : α} {table : List (String × α)}
    (h : e ∈ set name v table) : e = (name, v) ∨ e ∈ table := by
  induction table with
  | nil => exact .inl (List.mem_singleton.mp h)
  | cons entry rest ih =>
      obtain ⟨k, w⟩ := entry
      unfold set at h
      split at h
      · exact (List.mem_cons.mp h).imp_right id
      · split at h
        · exact (List.mem_cons.mp h).imp_right (List.mem_cons_of_mem _)
        · obtain rfl | hmem := List.mem_cons.mp h
          · exact .inr List.mem_cons_self
          · exact (ih hmem).imp_right (List.mem_cons_of_mem _)

theorem mem_of_find? {name : String} {v : α} {table : List (String × α)}
    (h : find? name table = some v) : (name, v) ∈ table := by
  induction table with
  | nil => cases h
  | cons entry rest ih =>
      obtain ⟨k, w⟩ := entry
      by_cases hk : k = name
      · subst hk
        rw [find?, if_pos rfl] at h
        cases h
        exact List.mem_cons_self
      · rw [find?, if_neg hk] at h
        exact List.mem_cons_of_mem _ (ih h)

theorem Sorted.mem_iff {name : String} {v : α} {table : List (String × α)} (h : Sorted table) :
    (name, v) ∈ table ↔ find? name table = some v := by
  refine ⟨fun hmem => ?_, mem_of_find?⟩
  induction table with
  | nil => cases hmem
  | cons entry rest ih =>
      obtain ⟨k, w⟩ := entry
      obtain ⟨hfirst, hrest⟩ := sorted_cons.mp h
      rw [find?]
      obtain heq | hmem := List.mem_cons.mp hmem
      · obtain ⟨rfl, rfl⟩ := Prod.mk.inj heq
        rw [if_pos rfl]
      · have hlt : k < name := hfirst name (List.mem_map_of_mem hmem)
        rw [if_neg hlt.ne, ih hrest hmem]

end Viewsmith.Table
