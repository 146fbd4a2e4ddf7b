import Viewsmith.Proofs.Failure
import Viewsmith.Proofs.Settings.Sources

namespace Viewsmith.Settings

open Files (FileTree isFile)

def textOf : Setting → Option String
  | .text s => some s
  | _ => none

def countOf : Setting → Option UInt32
  | .signed n => if inCountRange n then some (UInt32.ofNat n.toNat) else none
  | .unsigned n => if inCountRange n then some (UInt32.ofNat n) else none
  | _ => none

theorem countOf_signed_toNat (n : UInt32) : countOf (.signed n.toNat) = some n := by
  have hrange : inCountRange n.toNat = true := by
    have hn := n.toNat_lt
    have hpow : Int.pow 2 32 = 4294967296 := rfl
    rw [inCountRange, hpow, Bool.and_eq_true, decide_eq_true_eq, decide_eq_true_eq]
    omega
  rw [countOf, if_pos hrange, Int.toNat_natCast, UInt32.ofNat_toNat]

/-- The value for a key: the flag if it is given, else the first one of the layers, else the default.
There is none if the value of the layers has the wrong type. -/
def chosen {α : Type} (flag : Option α) (layers : List (List (String × Setting))) (key : String)
    (read : Setting → Option α) (default : α) : Option α :=
  flag.or ((winning key layers).elim (some default) read)

structure Flags where
  partialsDir : Option String := none
  paginateBy : Option UInt32 := none
  slugField : Option String := none
  deleteSuccessUrl : Option String := none

/-- Every value of a configuration is the chosen one. No flag gives the directory of the apps. -/
structure InForce (flags : Flags) (layers : List (List (String × Setting))) (config : Config) :
    Prop where
  appsDir : chosen none layers "apps_dir" textOf "server/apps" = some config.appsDir
  partialsDir : chosen (flags.partialsDir.map some) layers "partials_dir"
    (fun v => (textOf v).map some) none = some config.partialsDir
  paginateBy : chosen flags.paginateBy layers "paginate_by" countOf View.defaultPaginateBy =
    some config.paginateBy
  slugField : chosen flags.slugField layers "slug_field" textOf View.defaultSlugField =
    some config.slugField
  deleteSuccessUrl : chosen flags.deleteSuccessUrl layers "delete_success_url" textOf
    View.defaultDeleteSuccessUrl = some config.deleteSuccessUrl

def textKeys : List String := ["apps_dir", "partials_dir", "slug_field", "delete_success_url"]

def IllTyped (layers : List (List (String × Setting))) : Prop :=
  (∃ key ∈ textKeys, ∃ v, winning key layers = some v ∧ textOf v = none) ∨
    ∃ v, winning "paginate_by" layers = some v ∧ countOf v = none

section

variable {layers : List (List (String × Setting))}

theorem exists_chosen_iff {α : Type} {key : String} {read : Setting → Option α} (default : α) :
    (∃ a, chosen none layers key read default = some a) ↔
      ¬ ∃ v, winning key layers = some v ∧ read v = none := by
  rw [chosen, Option.none_or]
  cases winning key layers with
  | none => simp
  | some v => simp [← Option.ne_none_iff_exists']

theorem chosen_of_layers {α : Type} {key : String} {read : Setting → Option α} {default a : α}
    (flag : Option α) (h : chosen none layers key read default = some a) :
    chosen flag layers key read default = some (flag.getD a) := by
  cases flag with
  | none => exact h
  | some b => rfl

/-- There is a configuration unless a first value is of the wrong type. -/
theorem exists_inForce_iff : (∃ config, InForce {} layers config) ↔ ¬ IllTyped layers := by
  constructor
  · rintro ⟨config, h⟩ (⟨key, hkey, hv⟩ | hcount)
    · simp only [textKeys, List.mem_cons, List.not_mem_nil, or_false] at hkey
      rcases hkey with rfl | rfl | rfl | rfl
      · exact (exists_chosen_iff _).mp ⟨_, h.appsDir⟩ hv
      · exact (exists_chosen_iff _).mp ⟨_, h.partialsDir⟩ (by simpa using hv)
      · exact (exists_chosen_iff _).mp ⟨_, h.slugField⟩ hv
      · exact (exists_chosen_iff _).mp ⟨_, h.deleteSuccessUrl⟩ hv
    · exact (exists_chosen_iff _).mp ⟨_, h.paginateBy⟩ hcount
  · intro h
    rw [IllTyped, not_or] at h
    obtain ⟨htexts, hcount⟩ := h
    have htext (key : String) (hkey : key ∈ textKeys) :
        ¬ ∃ v, winning key layers = some v ∧ textOf v = none := by
      intro hv
      exact htexts ⟨key, hkey, hv⟩
    have hpath : ¬ ∃ v, winning "partials_dir" layers = some v ∧ (textOf v).map some = none := by
      simpa using htext "partials_dir" (by decide)
    obtain ⟨appsDir, happs⟩ := (exists_chosen_iff "server/apps").mpr (htext "apps_dir" (by decide))
    obtain ⟨partialsDir, hpartials⟩ := (exists_chosen_iff none).mpr hpath
    obtain ⟨paginateBy, hpaginate⟩ := (exists_chosen_iff View.defaultPaginateBy).mpr hcount
    obtain ⟨slugField, hslug⟩ :=
      (exists_chosen_iff View.defaultSlugField).mpr (htext "slug_field" (by decide))
    obtain ⟨url, hurl⟩ :=
      (exists_chosen_iff View.defaultDeleteSuccessUrl).mpr (htext "delete_success_url" (by decide))
    exact ⟨⟨appsDir, partialsDir, paginateBy, slugField, url⟩,
      ⟨happs, hpartials, hpaginate, hslug, hurl⟩⟩

end

def layersOf (t : FileTree) (environment : List (String × String)) (paths : List String) :
    List (List (String × Setting)) :=
  environmentFields environment :: (paths.map (fileFields t)).reverse

section

variable {fields : List (String × Setting)}

theorem textField_eq_ok_iff {key default expected s : String} :
    textField fields key default expected = .ok s ↔
      (Table.find? key fields).elim (some default) textOf = some s := by
  rw [textField]
  cases Table.find? key fields with
  | none => simp
  | some v => cases v <;> simp [textOf]

theorem optionalPath_eq_ok_iff {key : String} {s : Option String} :
    optionalPath fields key = .ok s ↔
      (Table.find? key fields).elim (some none) (fun v => (textOf v).map some) = some s := by
  rw [optionalPath]
  cases Table.find? key fields with
  | none => simp
  | some v => cases v <;> simp [textOf]

theorem countField_eq_ok_iff {key : String} {default n : UInt32} :
    countField fields key default = .ok n ↔
      (Table.find? key fields).elim (some default) countOf = some n := by
  unfold countField
  split
  · rename_i h
    rw [h, Option.elim_none, Except.ok.injEq, Option.some.injEq]
  · rename_i m h
    rw [h, Option.elim_some, countOf]
    split <;> simp
  · rename_i m h
    rw [h, Option.elim_some, countOf]
    split <;> simp
  · rename_i other hs hu h
    rw [h, Option.elim_some, countOf]
    · simp
    · simpa using hs
    · simpa using hu

end

def defaultFields : List (String × Setting) := fieldsOf defaultTable

section

variable {layers : List (List (String × Setting))} (hlayers : ∀ fields ∈ layers, Table.Sorted fields)

include hlayers

/-- What is read of the merged tables is what is chosen from the layers. -/
theorem elim_foldl_mergeFields {α : Type} {read : Setting → Option α} (hread : BlindToTables read)
    (key : String) (default : α)
    (hdefault : (Table.find? key defaultFields).elim (some default) read = some default) :
    (Table.find? key (layers.foldl mergeFields defaultFields)).elim (some default) read =
      chosen none layers.reverse key read default := by
  have hmap := find?_foldl_mergeFields hread key hlayers defaultFields
  have helim (o : Option Setting) : o.elim (some default) read = (o.map read).getD (some default) := by
    cases o <;> rfl
  rw [helim, hmap, ← helim, chosen, Option.none_or]
  cases winning key layers.reverse with
  | none => exact hdefault
  | some v => rfl

theorem decode_eq_ok_iff (config : Config) :
    decode (.table (layers.foldl mergeFields defaultFields)) = .ok config ↔
      InForce {} layers.reverse config := by
  have htext : BlindToTables textOf := fun _ _ => rfl
  have hpath : BlindToTables fun v => (textOf v).map some := fun _ _ => rfl
  have hcount : BlindToTables countOf := fun _ _ => rfl
  have happs := elim_foldl_mergeFields hlayers htext "apps_dir" "server/apps" rfl
  have hurl := elim_foldl_mergeFields hlayers htext "delete_success_url"
    View.defaultDeleteSuccessUrl rfl
  have hdefault : Table.find? "paginate_by" defaultFields =
      some (.signed View.defaultPaginateBy.toNat) := rfl
  have hpaginate := elim_foldl_mergeFields hlayers hcount "paginate_by" View.defaultPaginateBy
    (by rw [hdefault, Option.elim_some, countOf_signed_toNat])
  have hpartials := elim_foldl_mergeFields hlayers hpath "partials_dir" none rfl
  have hslug := elim_foldl_mergeFields hlayers htext "slug_field" View.defaultSlugField rfl
  simp only [decode, fieldsOf, bind_eq_ok_iff, textField_eq_ok_iff, countField_eq_ok_iff,
    optionalPath_eq_ok_iff, happs, hurl, hpaginate, hpartials, hslug]
  constructor
  · rintro ⟨appsDir, happs, url, hurl, paginateBy, hpaginate, partialsDir, hpartials, slugField, hslug,
      hconfig⟩
    cases hconfig
    exact ⟨happs, hpartials, hpaginate, hslug, hurl⟩
  · rintro ⟨happs, hpartials, hpaginate, hslug, hurl⟩
    exact ⟨_, happs, _, hurl, _, hpaginate, _, hpartials, _, hslug, rfl⟩

end

section

variable (t : FileTree) (environment : List (String × String)) (paths : List String)

/-- Loading fails at a bad file, or it decodes what the layers hold. -/
theorem ofFiles_cases :
    ((∃ path ∈ paths, BadFile t path) ∧ Config.ofFiles t environment paths = .error .invalidFile) ∨
      ((∀ path ∈ paths, ¬ BadFile t path) ∧ Config.ofFiles t environment paths = decode
        (.table ((layersOf t environment paths).reverse.foldl mergeFields defaultFields))) := by
  rw [Config.ofFiles]
  rcases mergeFiles_cases t paths defaultFields with ⟨hbad, hmerge⟩ | ⟨hgood, hmerge⟩
  · refine .inl ⟨hbad, ?_⟩
    rw [show defaultTable = .table defaultFields from rfl, hmerge]
    rfl
  · refine .inr ⟨hgood, ?_⟩
    have hlayers : (layersOf t environment paths).reverse =
        paths.map (fileFields t) ++ [environmentFields environment] := by
      rw [layersOf, List.reverse_cons, List.reverse_reverse]
    rw [show defaultTable = .table defaultFields from rfl, hmerge, hlayers, List.foldl_append,
      List.foldl_cons, List.foldl_nil, ← merge_tables, ← (environmentTable_spec environment).1]
    rfl

theorem sorted_of_mem_layersOf : ∀ fields ∈ layersOf t environment paths, Table.Sorted fields := by
  intro fields hfields
  rcases List.mem_cons.mp hfields with rfl | hfields
  · exact (environmentTable_spec environment).2
  · obtain ⟨path, _, rfl⟩ := List.mem_map.mp (List.mem_reverse.mp hfields)
    exact sorted_fileFields t path

theorem ofFiles_eq_ok_iff (config : Config) : Config.ofFiles t environment paths = .ok config ↔
    (∀ path ∈ paths, ¬ BadFile t path) ∧ InForce {} (layersOf t environment paths) config := by
  have hsorted : ∀ fields ∈ (layersOf t environment paths).reverse, Table.Sorted fields := by
    simpa using sorted_of_mem_layersOf t environment paths
  have hdecode := decode_eq_ok_iff hsorted config
  rw [List.reverse_reverse] at hdecode
  rcases ofFiles_cases t environment paths with ⟨⟨path, hpath, hbad⟩, hload⟩ | ⟨hgood, hload⟩
  · rw [hload]
    constructor
    · intro h
      cases h
    · rintro ⟨hgood, _⟩
      exact absurd hbad (hgood path hpath)
  · rw [hload, hdecode, and_iff_right hgood]

theorem ofFiles_eq_error_iff : (∃ e, Config.ofFiles t environment paths = .error e) ↔
    (∃ path ∈ paths, BadFile t path) ∨ IllTyped (layersOf t environment paths) := by
  have hok : (∃ config, Config.ofFiles t environment paths = .ok config) ↔
      (∀ path ∈ paths, ¬ BadFile t path) ∧ ¬ IllTyped (layersOf t environment paths) := by
    simp only [ofFiles_eq_ok_iff, exists_and_left, exists_inForce_iff]
  have herror : (∃ e, Config.ofFiles t environment paths = .error e) ↔
      ¬ ∃ config, Config.ofFiles t environment paths = .ok config := by
    cases Config.ofFiles t environment paths <;> simp
  rw [herror, hok, not_and_or, not_not]
  simp only [not_forall, not_not, exists_prop]

theorem ofFiles_of_absent {path : String} (h : isFile t path = false) (rest : List String) :
    Config.ofFiles t environment (path :: rest) = Config.ofFiles t environment rest := by
  have hmerge (base : Setting) : mergeFile t base path = .ok base := by
    rw [mergeFile, h, if_neg Bool.false_ne_true]
  rw [Config.ofFiles, Config.ofFiles, mergeFiles, hmerge]

end

end Viewsmith.Settings
