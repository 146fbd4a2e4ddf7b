import Viewsmith.Proofs.Table
import Viewsmith.Settings.Config

namespace Viewsmith.Settings

/-- A reading of settings that can tell tables from all else, but not one table from another. -/
def BlindToTables {α : Type} (read : Setting → α) : Prop :=
  ∀ f g, read (.table f) = read (.table g)

theorem merge_of_not_table {old new : Setting} (h : ∀ fields, new ≠ .table fields) :
    old.merge new = new := by
  cases new with
  | table fields => exact absurd rfl (h fields)
  | _ => rw [Setting.merge]; simp

theorem merge_tables (old new : List (String × Setting)) :
    (Setting.table old).merge (.table new) = .table (mergeFields old new) := by
  rw [Setting.merge]

theorem exists_merge_table (old : Setting) (fields : List (String × Setting)) :
    ∃ merged, old.merge (.table fields) = .table merged := by
  unfold Setting.merge
  exact ⟨_, rfl⟩

theorem read_merge {α : Type} {read : Setting → α} (h : BlindToTables read) (old new : Setting) :
    read (old.merge new) = read new := by
  by_cases ht : ∃ fields, new = .table fields
  · obtain ⟨fields, rfl⟩ := ht
    obtain ⟨merged, hmerged⟩ := exists_merge_table old fields
    rw [hmerged]
    exact h _ _
  · rw [merge_of_not_table fun fields hf => ht ⟨fields, hf⟩]

section

variable {α : Type} {read : Setting → α} (hread : BlindToTables read) (key : String)

include hread

theorem find?_mergeFields {new : List (String × Setting)} (hnew : Table.Sorted new)
    (old : List (String × Setting)) : (Table.find? key (mergeFields old new)).map read =
      ((Table.find? key new).or (Table.find? key old)).map read := by
  induction new generalizing old with
  | nil => rw [mergeFields]; rfl
  | cons entry rest ih =>
      obtain ⟨k, v⟩ := entry
      obtain ⟨hfirst, hrest⟩ := Table.sorted_cons.mp hnew
      rw [mergeFields, ih hrest, Table.find?]
      by_cases hk : k = key
      · subst hk
        have habsent : Table.find? k rest = none :=
          Table.find?_of_not_mem fun hmem => lt_irrefl k (hfirst k hmem)
        rw [habsent, Option.none_or, Table.find?_set_self, if_pos rfl, Option.some_or, Option.map_some,
          Option.map_some]
        cases Table.find? k old with
        | none => rfl
        | some o => exact congrArg some (read_merge hread o v)
      · rw [if_neg hk, Table.find?_set_of_ne _ _ hk]

def winning (key : String) (layers : List (List (String × Setting))) : Option Setting :=
  layers.findSome? (Table.find? key)

theorem find?_foldl_mergeFields {layers : List (List (String × Setting))}
    (hlayers : ∀ fields ∈ layers, Table.Sorted fields) (old : List (String × Setting)) :
    (Table.find? key (layers.foldl mergeFields old)).map read =
      ((winning key layers.reverse).or (Table.find? key old)).map read := by
  induction layers generalizing old with
  | nil => rfl
  | cons fields layers ih =>
      rw [List.forall_mem_cons] at hlayers
      have hlast : winning key (fields :: layers).reverse =
          (winning key layers.reverse).or (Table.find? key fields) := by
        rw [winning, winning, List.reverse_cons, List.findSome?_append]
        simp
      rw [List.foldl_cons, ih hlayers.2, hlast]
      cases winning key layers.reverse with
      | some v => rfl
      | none => exact find?_mergeFields hread key hlayers.1 old

end

end Viewsmith.Settings
