import Mathlib.Data.Option.Basic
import Viewsmith.Proofs.Files.Components
import Viewsmith.Scaffold.Overrides

namespace Viewsmith.Scaffold

open Files
open Settings (Config)
open View (Kind Registry)

structure SameOverrides (t u : FileTree) (dir dir' : String) : Prop where
  directory : isDirectory t dir = isDirectory u dir'
  file : ∀ k, isFile t (overridePath dir k) = isFile u (overridePath dir' k)
  text : ∀ k, readText t (overridePath dir k) = readText u (overridePath dir' k)

theorem SameOverrides.refl (t : FileTree) (dir : String) : SameOverrides t t dir dir :=
  ⟨rfl, fun _ => rfl, fun _ => rfl⟩

theorem join_overridePath (cwd dir : String) (k : Kind) :
    join cwd (overridePath dir k) = overridePath (join cwd dir) k :=
  join_assoc cwd dir _

theorem components_overridePath (dir : String) (k : Kind) : components (overridePath dir k) =
    components dir ++ [.name (k.partialName ++ ".py.hbs")] := by
  have hname : components (k.partialName ++ ".py.hbs") = [.name (k.partialName ++ ".py.hbs")] := by
    cases k <;> decide
  rw [overridePath, components_join _ _ (by cases k <;> decide), hname]

section

variable {t u : FileTree} {cwd cwd' dir dir' : String}

theorem loadKinds_of_sameOverrides (h : SameOverrides t u (join cwd dir) (join cwd' dir'))
    {ks : List Kind} {r loaded : Registry} {names : List String}
    (hload : loadKinds t (join cwd) dir ks r = (loaded, .ok names)) :
    loadKinds u (join cwd') dir' ks r = (loaded, .ok names) := by
  induction ks generalizing r loaded names with
  | nil => exact hload
  | cons k ks ih =>
      have hfile := h.file k
      have htext := h.text k
      rw [← join_overridePath, ← join_overridePath] at hfile htext
      rw [loadKinds] at hload ⊢
      rw [← hfile, ← htext]
      split at hload
      · rename_i hno
        rw [if_pos hno]
        exact ih hload
      · rename_i hyes
        rw [if_neg hyes]
        split at hload
        · cases hload
        · split at hload
          · rename_i hrest
            rw [ih hrest]
            exact hload
          · cases hload

theorem loadOverrides_of_sameOverrides (h : SameOverrides t u (join cwd dir) (join cwd' dir'))
    {r loaded : Registry} {names : List String}
    (hload : loadOverrides t cwd dir r = (loaded, .ok names)) :
    loadOverrides u cwd' dir' r = (loaded, .ok names) := by
  rw [loadOverrides] at hload ⊢
  rw [← h.directory]
  split at hload
  · rename_i hdir
    rw [if_pos hdir]
    exact loadKinds_of_sameOverrides h hload
  · cases hload

theorem isDirectory_of_loadOverrides {r loaded : Registry} {names : List String}
    (hload : loadOverrides t cwd dir r = (loaded, .ok names)) :
    isDirectory t (join cwd dir) = true := by
  rw [loadOverrides] at hload
  split at hload
  · assumption
  · cases hload

theorem registryWith_eq_ok_iff {r : Registry} : registryWith t cwd (some dir) = .ok r ↔
    ∃ names, loadOverrides t cwd dir Registry.builtin = (r, .ok names) := by
  unfold registryWith
  simp only
  cases loadOverrides t cwd dir Registry.builtin with
  | mk loaded result => cases result <;> simp

theorem registryWith_of_sameOverrides {partials partials' : Option String} {r : Registry}
    (h : Option.Rel (SameOverrides t u) (partials.map (join cwd)) (partials'.map (join cwd')))
    (hregistry : registryWith t cwd partials = .ok r) : registryWith u cwd' partials' = .ok r := by
  cases partials with
  | none =>
      cases partials' with
      | none => exact hregistry
      | some dir' => cases h
  | some dir =>
      cases partials' with
      | none => cases h
      | some dir' =>
          obtain ⟨hsame⟩ := h
          obtain ⟨names, hload⟩ := registryWith_eq_ok_iff.mp hregistry
          exact registryWith_eq_ok_iff.mpr ⟨names, loadOverrides_of_sameOverrides hsame hload⟩

end

/-- No partials of its own are in force for the project: it sets no directory of them, or sets one that
holds none. -/
def NoOverrides (t : FileTree) (root : String) (config : Config) : Prop :=
  ∀ dir, config.partialsPath? root = some dir →
    isDirectory t (join root dir) = true ∧ ∀ k, isFile t (join root (overridePath dir k)) = false

theorem loadKinds_of_absent {t : FileTree} {seen : String → String} {dir : String}
    (h : ∀ k, isFile t (seen (overridePath dir k)) = false) (ks : List Kind) (r : Registry) :
    loadKinds t seen dir ks r = (r, .ok []) := by
  induction ks with
  | nil => rfl
  | cons k ks ih =>
      rw [loadKinds, if_pos (by rw [h k]; rfl), ih]

theorem registryWith_of_noOverrides {t : FileTree} {root : String} {config : Config}
    (h : NoOverrides t root config) :
    registryWith t root (config.partialsPath? root) = .ok Registry.builtin := by
  cases hdir : config.partialsPath? root with
  | none => rfl
  | some dir =>
      obtain ⟨hthere, habsent⟩ := h dir hdir
      refine registryWith_eq_ok_iff.mpr ⟨[], ?_⟩
      rw [loadOverrides, if_pos hthere, loadKinds_of_absent habsent]

end Viewsmith.Scaffold
