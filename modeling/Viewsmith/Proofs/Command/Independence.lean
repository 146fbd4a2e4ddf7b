import Viewsmith.Proofs.Command.BuiltinRuns
import Viewsmith.Proofs.Command.Reach
import Viewsmith.Proofs.Scaffold.Alike

namespace Viewsmith.Command

open Files Scaffold View
open Settings (Config)

/-- For one app the second tree is like the first one: it is the same below the directory of the app,
and above that directory it can only have more directories. -/
structure SameApp (apps : Location) (app : String) (t u : FileTree) : Prop where
  wellFormed : WellFormed t
  wellFormed' : WellFormed u
  directory : ∀ l, t.get? l = some .directory → u.get? l = some .directory
  own : ∀ l, apps ++ [app] <+: l → u.get? l = t.get? l
  above : ∀ l, l <+: apps → Spared t u l

theorem isFileAt_of_spared {t u : FileTree} {l : Location} (h : Spared t u l) :
    isFileAt u l = isFileAt t l := by
  rcases h with hsame | ⟨hnone, hnew⟩
  · rw [isFileAt, isFileAt, hsame]
  · simp [isFileAt, hnone, hnew]

namespace SameApp

variable {t u : FileTree} {root appsDir app : String}

/-- Every path into the directory of the app finds the trees alike. -/
theorem alike {path : String} {base : List Component} {rest : List String}
    (h : SameApp (follow [] base) app t u) (hg : Grounded t base)
    (hpath : components path = base ++ (app :: rest).map .name) : Alike t u path where
  wellFormed := h.wellFormed
  wellFormed' := h.wellFormed'
  grounded := by
    rw [hpath]
    exact hg.append _
  directory := h.directory
  place := by
    rw [place, hpath, follow_append, follow_names]
    exact h.own _ ⟨rest, by simp⟩
  above l hl := by
    rcases h.wellFormed.isAbove_cases hg hpath hl with hdir | ⟨hbegins, _⟩
    · simp [isFileAt, hdir, h.directory l hdir]
    · have happ : follow [] base ++ [app] <+: follow [] base ++ app :: rest := ⟨rest, by simp⟩
      rcases List.prefix_or_prefix_of_prefix hbegins happ with hshort | hlong
      · rcases List.prefix_concat_iff.mp hshort with rfl | hshort
        · rw [isFileAt, isFileAt, h.own _ List.prefix_rfl]
        · exact isFileAt_of_spared (h.above l hshort)
      · rw [isFileAt, isFileAt, h.own l hlong]

/-- The step: what the same change makes of two such trees is like each other again. -/
theorem step {apps : Location} {t' u' : FileTree} (h : SameApp apps app t u) (hkeeps : Keeps t t')
    (hkeeps' : Keeps u u') (hchange : SameChange t t' u u') : SameApp apps app t' u' where
  wellFormed := hkeeps.wellFormed h.wellFormed
  wellFormed' := hkeeps'.wellFormed h.wellFormed'
  directory l hl := by
    rcases hchange l with ⟨ht, _⟩ | hsame
    · exact hkeeps'.directory l (h.directory l (ht.symm.trans hl))
    · exact hsame.symm.trans hl
  own l hl := by
    rcases hchange l with ⟨ht, hu⟩ | hsame
    · rw [hu, ht, h.own l hl]
    · exact hsame.symm
  above l hl := by
    rcases hchange l with ⟨ht, hu⟩ | hsame
    · rw [Spared, hu, ht]
      exact h.above l hl
    · exact .inl hsame.symm

end SameApp

def Into (root appsDir app : String) (files : List GeneratedFile) : Prop :=
  ∀ f ∈ files, (∃ rest : List String, components (join root f.path) =
      components (join root appsDir) ++ (app :: rest).map .name) ∧
    ∃ steps n, NamesFile (join root f.path) steps n

section

variable {root appsDir app : String}

theorem writeFiles_sameApp {files : List GeneratedFile} {w : Writing} {u : FileTree}
    (color force : Bool) (hfiles : Into root appsDir app files)
    (hg : Grounded w.tree (components (join root appsDir)))
    (h : SameApp (place (join root appsDir)) app w.tree u) :
    ∃ v, writeFiles color root force files { w with tree := u } =
        ({ (writeFiles color root force files w).1 with tree := v },
          (writeFiles color root force files w).2) ∧
      SameChange w.tree (writeFiles color root force files w).1.tree u v := by
  induction files generalizing w u with
  | nil => exact ⟨u, rfl, SameChange.refl _ _⟩
  | cons f files ih =>
      obtain ⟨⟨⟨rest, hpath⟩, steps, n, hp⟩, hothers⟩ := List.forall_mem_cons.mp hfiles
      obtain ⟨hresult, hchange⟩ := (h.alike hg hpath).writeTo hp force
      have hkeeps := (GeneratedFile.writeTo_changedAt w.tree root force hp).toKeeps
      have hkeeps' := (GeneratedFile.writeTo_changedAt u root force hp).toKeeps
      cases hwrite : f.writeTo w.tree root force with
      | mk t' r =>
          cases hwrite' : f.writeTo u root force with
          | mk u' r' =>
              rw [hwrite, hwrite'] at hresult hchange
              rw [hwrite] at hkeeps
              rw [hwrite'] at hkeeps'
              obtain rfl : r' = r := hresult
              cases r' with
              | error e =>
                  rw [writeFiles_cons_of_error hwrite,
                    writeFiles_cons_of_error (w := { w with tree := u }) hwrite']
                  exact ⟨u', rfl, hchange⟩
              | ok o =>
                  have hstep := h.step hkeeps hkeeps' hchange
                  have htree := note_tree { w with tree := t' } color f o
                  obtain ⟨v, hv, hrest⟩ := ih (w := { w with tree := t' }.note color f o) (u := u') hothers
                    (by rw [htree]; exact hg.mono hkeeps.directory) (by rw [htree]; exact hstep)
                  rw [writeFiles_cons_of_ok hwrite, writeFiles_cons_of_ok (w := { w with tree := u }) hwrite']
                  rw [htree] at hrest
                  rw [← note_with_tree] at hv
                  exact ⟨v, hv, hchange.trans hrest⟩

end

section

variable {root appsDir : String} {t u : FileTree} {r : Run} (hr : r.Confined appsDir)

include hr

theorem Run.Confined.into {g : Generator} {files : List GeneratedFile}
    (hprepare : r.command.prepare t root r.config = .ok (g, files)) :
    Into root appsDir r.command.target.appName files := by
  obtain ⟨views, others, rfl, _, hviews, _, _, hothers⟩ := ViewCommand.files_of_prepare hprepare
  have hnames : ∀ f ∈ views :: others, ∃ steps n, NamesFile (join root f.path) steps n :=
    List.forall_mem_cons.mpr ⟨hviews, hothers⟩
  intro f hf
  obtain ⟨rest, hpath, _⟩ := hr.components_path hprepare hf
  exact ⟨⟨rest, hpath⟩, hnames f hf⟩

theorem Run.Confined.prepare_sameApp (hpartials : (r.command.applyTo r.config).partialsDir = none)
    (hg : Grounded t (components (join root appsDir)))
    (h : SameApp (place (join root appsDir)) r.command.target.appName t u) :
    r.command.prepare u root r.config = r.command.prepare t root r.config := by
  have hlist : isListRegistered u (join root appsDir) r.command.target =
      isListRegistered t (join root appsDir) r.command.target := by
    have hpath := hr.components_urlsPath root
    have hlast := hpath.trans (List.append_assoc _ [_] [_]).symm
    exact isListRegistered_congr ((h.alike hg hpath).sameFound hlast).readText_eq_ok_iff
  have hpackage : isDirectory u (packagePath root appsDir r.command.target.appName) =
      isDirectory t (packagePath root appsDir r.command.target.appName) := by
    have hpath := hr.components_packagePath root
    have hlast := hpath.trans (List.append_assoc _ [_] [_]).symm
    exact ((h.alike hg hpath).sameFound hlast).isDirectory_eq
  have hnone : (r.command.applyTo r.config).partialsPath? root = none := by
    rw [Config.partialsPath?, hpartials]
    rfl
  rw [← hr.apps] at hlist hpackage
  refine prepare_congr ?_ hlist hpackage
  rw [hnone, registryWith_none, registryWith_none]

theorem Run.Confined.report_sameApp (hpartials : (r.command.applyTo r.config).partialsDir = none)
    (hg : Grounded t (components (join root appsDir)))
    (h : SameApp (place (join root appsDir)) r.command.target.appName t u) :
    ∃ v, r.report root u = { r.report root t with tree := v } ∧
      SameChange t (r.report root t).tree u v := by
  have hsame := hr.prepare_sameApp hpartials hg h
  rw [Run.report, Run.report, ViewCommand.runIn, ViewCommand.runIn, hsame]
  cases hprepare : r.command.prepare t root r.config with
  | error f => exact ⟨u, rfl, SameChange.refl t u⟩
  | ok prepared =>
      obtain ⟨g, files⟩ := prepared
      have hinto := hr.into hprepare
      cases hstdout : r.command.stdout with
      | true => exact ⟨u, rfl, SameChange.refl t u⟩
      | false =>
          have halike : ∀ f ∈ files, Alike t u (join root f.path) ∧
              ∃ steps n, NamesFile (join root f.path) steps n := by
            intro f hf
            obtain ⟨⟨rest, hpath⟩, hnames⟩ := hinto f hf
            exact ⟨h.alike hg hpath, hnames⟩
          have hcheck := Alike.checkConflicts_eq halike r.command.force
          cases hchecked : checkConflicts t root r.command.force files with
          | error f =>
              simp only [Bool.false_eq_true, if_false, ViewCommand.write, hcheck, hchecked]
              exact ⟨u, rfl, SameChange.refl t u⟩
          | ok _ =>
              obtain ⟨v, hwrite, hchange⟩ := writeFiles_sameApp (w := r.command.start r.color t) r.color
                r.command.force hinto hg h
              have hstart : r.command.start r.color u = { r.command.start r.color t with tree := u } := rfl
              simp only [Bool.false_eq_true, if_false]
              rw [ViewCommand.write_of_checkConflicts g hchecked,
                ViewCommand.write_of_checkConflicts g (hcheck.trans hchecked), hstart, hwrite,
                ViewCommand.finish_tree]
              exact ⟨v, ViewCommand.finish_with_tree _ _ _ _ _ _, hchange⟩

end

section

variable {root appsDir : String} {t : FileTree} {r s : Run}

/-- A run leaves everything below the directory of another app alone. -/
theorem Run.Confined.get?_other (hr : r.Confined appsDir) (hwell : WellFormed t)
    (hg : Grounded t (components (join root appsDir))) {app : String}
    (happ : r.command.target.appName ≠ app) {l : Location}
    (hl : place (join root appsDir) ++ [app] <+: l) :
    (r.report root t).tree.get? l = t.get? l := by
  refine Run.get?_eq fun g files hprepare f hf => ?_
  obtain ⟨rest, hpath, _⟩ := hr.components_path hprepare hf
  refine clear_of_not_prefix hwell hg hpath fun hbegins => absurd ?_ happ
  have hfirst := hl.trans hbegins
  rw [place, List.prefix_append_right_inj, List.cons_prefix_cons] at hfirst
  exact hfirst.1.symm

theorem Run.Confined.spared (hr : r.Confined appsDir) {l : Location}
    (hl : ¬ place (join root appsDir) ++ [r.command.target.appName] <+: l) :
    Spared t (r.report root t).tree l := by
  refine Run.spared fun g files hprepare f hf hplace => hl ?_
  obtain ⟨rest, hpath, _⟩ := hr.components_path hprepare hf
  rw [← hplace, place.eq_1 (join root f.path), hpath, follow_append, follow_names]
  exact ⟨rest, by simp [place]⟩

/-- For one app the tree after a run for another app is like the tree before it. -/
theorem Run.Confined.sameApp (hr : r.Confined appsDir) (hwell : WellFormed t)
    (hg : Grounded t (components (join root appsDir))) {app : String}
    (happ : r.command.target.appName ≠ app) :
    SameApp (place (join root appsDir)) app t (r.report root t).tree where
  wellFormed := hwell
  wellFormed' := (r.keeps root t).wellFormed hwell
  directory := (r.keeps root t).directory
  own _ hl := hr.get?_other hwell hg happ hl
  above l hl := by
    refine hr.spared fun hlonger => ?_
    have hlength := (hlonger.trans hl).length_le
    rw [List.length_append, List.length_singleton] at hlength
    omega

end

section

variable {t u t' v v' : FileTree} {l : Location}

/-- Where the other change leaves a place alone, it does not matter which of them comes first. Here `t'`
is `t` after the one change, `u` is `t` after the other, and `v` and `v'` have both. -/
theorem get?_eq_of_alone (hchange : t'.get? l = t.get? l ∧ v.get? l = u.get? l ∨ t'.get? l = v.get? l)
    (halone : u.get? l = t.get? l) (halone' : v'.get? l = t'.get? l) : v.get? l = v'.get? l := by
  rcases hchange with ⟨ht, hv⟩ | hsame
  · rw [hv, halone, halone', ht]
  · rw [halone', hsame]

theorem get?_eq_of_spared
    (hchange : t'.get? l = t.get? l ∧ v.get? l = u.get? l ∨ t'.get? l = v.get? l)
    (hchange' : u.get? l = t.get? l ∧ v'.get? l = t'.get? l ∨ u.get? l = v'.get? l)
    (hspared : Spared t' v' l) (hspared' : Spared u v l) : v'.get? l = v.get? l := by
  rcases hchange with ⟨ht, hv⟩ | hsame
  · rcases hchange' with ⟨hu, hv'⟩ | hsame'
    · rw [hv', hv, ht, hu]
    · rw [hv, hsame']
  · rcases hchange' with ⟨_, hv'⟩ | hsame'
    · rw [hv', hsame]
    · rcases hspared with hkept | ⟨hnone, hnew⟩
      · rw [hkept, hsame]
      · -- The directory that is new in `v'` was there in `u`, so it stayed in `v`.
        rcases hspared' with hkept' | ⟨hnone', _⟩
        · rw [hkept', hsame']
        · rw [hsame', hnew] at hnone'
          cases hnone'

end

/-- Runs for different apps can change places. Without partials of their own, whatever their targets,
flags and settings are, they leave the same files and directories in either order, and each of them
prints the same and fails or succeeds in the same way whether it comes first or second. -/
theorem runs_commute {root appsDir : String} {names : List String} {t : FileTree} {r s : Run}
    (hwell : WellFormed t) (hroot : Grounded t (components root))
    (happs : components appsDir = names.map .name) (hr : r.Confined appsDir)
    (hs : s.Confined appsDir) (hpartials : (r.command.applyTo r.config).partialsDir = none)
    (hpartials' : (s.command.applyTo s.config).partialsDir = none)
    (hdiffer : r.command.target.appName ≠ s.command.target.appName) :
    (∀ l, (treeAfter root t [r, s]).get? l = (treeAfter root t [s, r]).get? l) ∧
      ((r.report root (s.report root t).tree).printed = (r.report root t).printed ∧
        (r.report root (s.report root t).tree).failure = (r.report root t).failure) ∧
      (s.report root (r.report root t).tree).printed = (s.report root t).printed ∧
        (s.report root (r.report root t).tree).failure = (s.report root t).failure := by
  have hg := grounded_join hroot happs
  obtain ⟨trees, hsecond, hchange⟩ :=
    hr.report_sameApp hpartials hg (hs.sameApp hwell hg hdiffer.symm)
  obtain ⟨trees', hsecond', hchange'⟩ :=
    hs.report_sameApp hpartials' hg (hr.sameApp hwell hg hdiffer)
  have hkeeps := r.keeps root t
  have hkeeps' := s.keeps root t
  have htrees : (treeAfter root t [r, s]) = trees' := by
    rw [treeAfter, treeAfter, hsecond', treeAfter]
  have htrees' : (treeAfter root t [s, r]) = trees := by
    rw [treeAfter, treeAfter, hsecond, treeAfter]
  refine ⟨fun l => ?_, ?_, ?_⟩
  · rw [htrees, htrees']
    by_cases hown : place (join root appsDir) ++ [r.command.target.appName] <+: l
    · have halone := hs.get?_other hwell hg hdiffer.symm hown
      have halone' := hs.get?_other (hkeeps.wellFormed hwell) (hg.mono hkeeps.directory)
        hdiffer.symm hown
      rw [hsecond'] at halone'
      exact (get?_eq_of_alone (hchange l) halone halone').symm
    by_cases hown' : place (join root appsDir) ++ [s.command.target.appName] <+: l
    · have halone := hr.get?_other hwell hg hdiffer hown'
      have halone' := hr.get?_other (hkeeps'.wellFormed hwell) (hg.mono hkeeps'.directory)
        hdiffer hown'
      rw [hsecond] at halone'
      exact get?_eq_of_alone (hchange' l) halone halone'
    · have hspared := hs.spared (t := (r.report root t).tree) hown'
      have hspared' := hr.spared (t := (s.report root t).tree) hown
      rw [hsecond'] at hspared
      rw [hsecond] at hspared'
      exact get?_eq_of_spared (hchange l) (hchange' l) hspared hspared'
  · rw [hsecond]
    exact ⟨rfl, rfl⟩
  · rw [hsecond']
    exact ⟨rfl, rfl⟩

def postFormRun : Run where
  command := { postViews { create := true } with force := true }
  config := {}
  color := true

def itemRun : Run where
  command := { target := ⟨"shop", "Item"⟩, options := { delete := true }, viewFile := some "Items" }
  config := { paginateBy := 7 }
  color := false

theorem runs_commute_post_item :
    (∀ l, (treeAfter "/" (blogProject []) [postFormRun, itemRun]).get? l =
        (treeAfter "/" (blogProject []) [itemRun, postFormRun]).get? l) ∧
      (itemRun.report "/" (postFormRun.report "/" (blogProject [])).tree).printed =
        (itemRun.report "/" (blogProject [])).printed := by
  have hwell : WellFormed (blogProject []) := wellFormed_of_entries (by decide +kernel)
  have hroot : Grounded (blogProject []) (components "/") := .of_names (by decide +kernel) _
  have happs : components "server/apps" = ["server", "apps"].map .name := by decide +kernel
  have hpost : postFormRun.Confined "server/apps" := {
    apps := rfl
    accepted := ⟨"blog:Post", by rfl⟩
    app := by decide
    view := nofun }
  have hitem : itemRun.Confined "server/apps" := {
    apps := rfl
    accepted := ⟨"shop:Item", by rfl⟩
    app := by decide
    view := by rintro _ ⟨⟩; decide }
  obtain ⟨htrees, _, hprinted, _⟩ :=
    runs_commute hwell hroot happs hpost hitem rfl rfl (by decide)
  exact ⟨htrees, hprinted⟩

end Viewsmith.Command
