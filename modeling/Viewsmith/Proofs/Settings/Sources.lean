import Viewsmith.Proofs.Settings.Merging

namespace Viewsmith.Settings

open Files (FileTree isFile readText)

section

theorem sorted_of_map_set {α : Type} {made : Option α} {key : String} {value : α → Node}
    {fields changed : List (String × Node)} (hfields : Table.Sorted fields)
    (h : (made.map fun inner => Table.set key (value inner) fields) = some changed) :
    Table.Sorted changed := by
  obtain ⟨inner, _, rfl⟩ := Option.map_eq_some_iff.mp h
  exact hfields.set _ _

theorem sorted_addValue {key : String} {v : Setting} {path : List String}
    {fields changed : List (String × Node)} (hfields : Table.Sorted fields)
    (h : addValue key v path fields = some changed) : Table.Sorted changed := by
  cases path with
  | nil =>
      rw [addValue] at h
      split at h
      · cases h
      · cases h
        exact hfields.set _ _
  | cons k path =>
      rw [addValue] at h
      split at h
      · exact sorted_of_map_set hfields h
      · split at h
        · cases h
        · exact sorted_of_map_set hfields h
      · split at h
        · cases h
        · exact sorted_of_map_set hfields h
      · cases h

theorem sorted_atPath {change : Option Node → Option Node} {path : List String}
    {fields changed : List (String × Node)} (hfields : Table.Sorted fields)
    (h : atPath change path fields = some changed) : Table.Sorted changed := by
  unfold atPath at h
  split at h
  · cases h
  · exact sorted_of_map_set hfields h
  · split at h
    · exact sorted_of_map_set hfields h
    · exact sorted_of_map_set hfields h
    · exact sorted_of_map_set hfields h
    · cases h

variable {d d' : Document}

theorem Document.sorted_add {keys : List String} {v : Setting} (hd : Table.Sorted d.root)
    (h : d.add keys v = some d') : Table.Sorted d'.root := by
  obtain ⟨root, hroot, rfl⟩ := Option.map_eq_some_iff.mp h
  split at hroot
  · exact sorted_addValue hd hroot
  · exact sorted_atPath hd hroot

theorem Document.sorted_begin {isArray : Bool} {keys : List String} (hd : Table.Sorted d.root)
    (h : d.begin isArray keys = some d') : Table.Sorted d'.root := by
  obtain ⟨root, hroot, rfl⟩ := Option.map_eq_some_iff.mp h
  exact sorted_atPath hd hroot

theorem sorted_readHeader {text rest : List Char} (hd : Table.Sorted d.root)
    (h : readHeader d text = some (d', rest)) : Table.Sorted d'.root := by
  unfold readHeader at h
  split at h
  · split at h
    · obtain ⟨begun, hbegun, he⟩ := Option.map_eq_some_iff.mp h
      cases he
      exact Document.sorted_begin hd hbegun
    · cases h
  · split at h
    · obtain ⟨begun, hbegun, he⟩ := Option.map_eq_some_iff.mp h
      cases he
      exact Document.sorted_begin hd hbegun
    · cases h

theorem sorted_readPair {text rest : List Char} (hd : Table.Sorted d.root)
    (h : readPair d text = some (d', rest)) : Table.Sorted d'.root := by
  unfold readPair at h
  split at h
  · simp only at h
    split at h
    · obtain ⟨added, hadded, he⟩ := Option.map_eq_some_iff.mp h
      cases he
      exact Document.sorted_add hd hadded
    · cases h
  · cases h

theorem sorted_readLines {fuel : Nat} {text : List Char} (hd : Table.Sorted d.root)
    (h : readLines fuel d text = some d') : Table.Sorted d'.root := by
  induction fuel generalizing d text with
  | zero => cases h
  | succ fuel ih =>
      rw [readLines] at h
      split at h
      · cases h
        exact hd
      · split at h
        · rename_i hheader
          obtain ⟨more, _, hmore⟩ := Option.bind_eq_some_iff.mp h
          exact ih (sorted_readHeader hd hheader) hmore
        · cases h
      · split at h
        · exact ih hd h
        · split at h
          · rename_i hpair
            obtain ⟨more, _, hmore⟩ := Option.bind_eq_some_iff.mp h
            exact ih (sorted_readPair hd hpair) hmore
          · cases h

theorem keys_settingsOf (fields : List (String × Node)) :
    (settingsOf fields).map Prod.fst = fields.map Prod.fst := by
  induction fields with
  | nil => rfl
  | cons entry rest ih =>
      obtain ⟨k, n⟩ := entry
      rw [settingsOf, List.map_cons, List.map_cons, ih]

theorem sorted_parseToml {source : String} {fields : List (String × Setting)}
    (h : parseToml source = some fields) : Table.Sorted fields := by
  obtain ⟨d, hd, rfl⟩ := Option.map_eq_some_iff.mp h
  have hroot : Table.Sorted d.root := sorted_readLines Table.sorted_nil hd
  rw [Table.Sorted, keys_settingsOf]
  exact hroot

end

section

theorem variableKeys_ne_nil {name : String} {keys : List String} (h : variableKeys name = some keys) :
    keys ≠ [] := by
  unfold variableKeys at h
  split at h
  · cases h
  · simp only at h
    split at h
    · cases h
    · cases h
      intro hempty
      exact Text.pieces_ne_nil _ _ (List.map_eq_nil_iff.mp hempty)

def environmentFields (environment : List (String × String)) : List (String × Setting) :=
  fieldsOf (environmentTable environment)

def mergeVariable (acc : Setting) (v : String × String) : Setting :=
  match variableKeys v.1 with
  | some keys => acc.merge (nest (variableValue v.2) keys)
  | none => acc

theorem environmentTable_eq (environment : List (String × String)) :
    environmentTable environment = environment.foldl mergeVariable (.table []) := rfl

theorem foldl_mergeVariable (environment : List (String × String)) {fields : List (String × Setting)}
    (hfields : Table.Sorted fields) :
    ∃ all, environment.foldl mergeVariable (.table fields) = .table all ∧ Table.Sorted all := by
  induction environment generalizing fields with
  | nil => exact ⟨fields, rfl, hfields⟩
  | cons entry rest ih =>
      rw [List.foldl_cons, mergeVariable]
      cases hkeys : variableKeys entry.1 with
      | none => exact ih hfields
      | some keys =>
          cases keys with
          | nil => exact absurd rfl (variableKeys_ne_nil hkeys)
          | cons k keys =>
              simp only
              rw [nest, merge_tables, mergeFields, mergeFields]
              exact ih (hfields.set _ _)

theorem environmentTable_spec (environment : List (String × String)) :
    environmentTable environment = .table (environmentFields environment) ∧
      Table.Sorted (environmentFields environment) := by
  obtain ⟨all, hall, hsorted⟩ := foldl_mergeVariable environment Table.sorted_nil
  rw [environmentFields, environmentTable_eq, hall]
  exact ⟨rfl, hsorted⟩

end

section

variable (t : FileTree) (path : String)

def BadFile : Prop :=
  isFile t path = true ∧ ∀ source, readText t path = .ok source → parseToml source = none

def fileFields : List (String × Setting) :=
  if isFile t path then
    match readText t path with
    | .ok source => (parseToml source).getD []
    | .error _ => []
  else []

theorem sorted_fileFields : Table.Sorted (fileFields t path) := by
  unfold fileFields
  split
  · split
    · rename_i source _
      cases hparse : parseToml source with
      | none => exact Table.sorted_nil
      | some fields => exact sorted_parseToml hparse
    · exact Table.sorted_nil
  · exact Table.sorted_nil

theorem mergeFile_cases (old : List (String × Setting)) :
    (BadFile t path ∧ mergeFile t (.table old) path = .error .invalidFile) ∨
      (¬ BadFile t path ∧
        mergeFile t (.table old) path = .ok (.table (mergeFields old (fileFields t path)))) := by
  unfold mergeFile fileFields
  cases hfile : isFile t path with
  | false =>
      refine .inr ⟨fun hbad => ?_, by simp [mergeFields]⟩
      rw [hbad.1] at hfile
      cases hfile
  | true =>
      cases hread : readText t path with
      | error e =>
          refine .inl ⟨⟨hfile, fun source hsource => ?_⟩, by simp⟩
          rw [hread] at hsource
          cases hsource
      | ok source =>
          cases hparse : parseToml source with
          | none =>
              refine .inl ⟨⟨hfile, fun source' hsource => ?_⟩, by simp [hparse]⟩
              rw [hread] at hsource
              cases hsource
              exact hparse
          | some fields =>
              refine .inr ⟨fun hbad => ?_, ?_⟩
              · rw [hbad.2 source hread] at hparse
                cases hparse
              · simp [hparse, merge_tables]

/-- Files are merged one over the other, unless one of them is bad. -/
theorem mergeFiles_cases (paths : List String) (old : List (String × Setting)) :
    ((∃ path ∈ paths, BadFile t path) ∧ mergeFiles t (.table old) paths = .error .invalidFile) ∨
      ((∀ path ∈ paths, ¬ BadFile t path) ∧ mergeFiles t (.table old) paths =
        .ok (.table ((paths.map (fileFields t)).foldl mergeFields old))) := by
  induction paths generalizing old with
  | nil => exact .inr ⟨fun _ h => absurd h List.not_mem_nil, rfl⟩
  | cons path paths ih =>
      rw [mergeFiles]
      rcases mergeFile_cases t path old with ⟨hbad, hmerge⟩ | ⟨hgood, hmerge⟩
      · exact .inl ⟨⟨path, List.mem_cons_self, hbad⟩, by rw [hmerge]⟩
      · rw [hmerge]
        rcases ih (mergeFields old (fileFields t path)) with ⟨⟨bad, hmem, hbad⟩, hrest⟩ | ⟨hgood', hrest⟩
        · exact .inl ⟨⟨bad, List.mem_cons_of_mem _ hmem, hbad⟩, hrest⟩
        · exact .inr ⟨List.forall_mem_cons.mpr ⟨hgood, hgood'⟩, hrest⟩

end

end Viewsmith.Settings
