import Viewsmith.Proofs.Command.BuiltinRuns
import Viewsmith.Proofs.Command.Sequences

namespace Viewsmith.Command

open Files Scaffold View

def contentBytes : Content → List UInt8
  | .text s => s.toUTF8.data.toList
  | .bytes b => b

/-- A file that is at a place stays there, and what it held stays at its beginning. -/
def Grows (t u : FileTree) (p : Location) : Prop :=
  ∀ c, t.get? p = some (.file c) →
    ∃ d, u.get? p = some (.file d) ∧ contentBytes c <+: contentBytes d

def Content.Extends (c d : Content) : Prop :=
  d = c ∨ ∃ s more, c = .text s ∧ d = .text (s ++ more)

/-- A file that is at a place stays there and is only extended. -/
def ExtendedAt (t u : FileTree) (p : Location) : Prop :=
  ∀ c, t.get? p = some (.file c) → ∃ d, u.get? p = some (.file d) ∧ Content.Extends c d

theorem Content.Extends.trans {c d e : Content} (h : Extends c d) (h' : Extends d e) :
    Extends c e := by
  rcases h with rfl | ⟨s, more, rfl, rfl⟩
  · exact h'
  · rcases h' with rfl | ⟨s', more', hs, rfl⟩
    · exact .inr ⟨s, more, rfl, rfl⟩
    · cases hs
      exact .inr ⟨s, more ++ more', rfl, by rw [String.append_assoc]⟩

theorem ExtendedAt.refl (t : FileTree) (p : Location) : ExtendedAt t t p :=
  fun c hc => ⟨c, hc, .inl rfl⟩

theorem ExtendedAt.trans {t u v : FileTree} {p : Location} (h : ExtendedAt t u p)
    (h' : ExtendedAt u v p) : ExtendedAt t v p := by
  intro c hc
  obtain ⟨d, hd, hcd⟩ := h c hc
  obtain ⟨e, he, hde⟩ := h' d hd
  exact ⟨e, he, hcd.trans hde⟩

theorem ExtendedAt.of_spared {t u : FileTree} {p : Location} (h : Spared t u p) :
    ExtendedAt t u p := by
  intro c hc
  rcases h with hsame | ⟨hnone, _⟩
  · exact ⟨c, hsame.trans hc, .inl rfl⟩
  · rw [hc] at hnone
    cases hnone

theorem contentBytes_append (s more : String) :
    contentBytes (.text s) <+: contentBytes (.text (s ++ more)) := by
  refine ⟨more.toUTF8.data.toList, ?_⟩
  simp [contentBytes, String.toUTF8]

theorem ExtendedAt.grows {t u : FileTree} {p : Location} (h : ExtendedAt t u p) : Grows t u p := by
  intro c hc
  obtain ⟨d, hd, rfl | ⟨s, more, rfl, rfl⟩⟩ := h c hc
  · exact ⟨d, hd, List.prefix_rfl⟩
  · exact ⟨_, hd, contentBytes_append s more⟩

theorem exists_appendSections_eq (old : String) (sections : List ViewSection) :
    ∃ more, appendSections old sections = old ++ more := by
  have hended : ∃ ending, endedLine old = old ++ ending := by
    unfold endedLine
    split
    · exact ⟨"", String.append_empty.symm⟩
    · exact ⟨"", String.append_empty.symm⟩
    · exact ⟨"\n", rfl⟩
  obtain ⟨ending, hending⟩ := hended
  exact ⟨ending ++ String.join (sections.map (·.body)), by
    rw [appendSections_eq_join, hending, String.append_assoc]⟩

/-- A views module that is there is read before it is written, so it can only be extended. One that
seems not to be there is not there: nothing above it can be missing. -/
theorem extendedAt_writeTo {t : FileTree} {root : String} {f : GeneratedFile} {m : Merge}
    {steps : List Component} {n : String} (hm : f.merge = some m)
    (hp : NamesFile (join root f.path) steps n) (hwell : WellFormed t)
    (hg : Grounded t (components (join root f.path))) (force : Bool) (p : Location) :
    ExtendedAt t (f.writeTo t root force).1 p := by
  by_cases hplace : p = place (join root f.path)
  · subst hplace
    cases hwrite : f.writeTo t root force with
    | mk u o =>
        cases o with
        | error e => exact ExtendedAt.of_spared (GeneratedFile.spared_of_writeTo_error hp hwrite _)
        | ok o =>
            rcases GeneratedFile.writeTo_merge_ok hp hm hwrite with
              ⟨habsent, hw, _, _⟩ | ⟨old, hread, hu, _⟩
            · intro c hc
              rw [hwell.get?_place_eq_none hp hg hw habsent] at hc
              cases hc
            · by_cases hmissing : m.missingIn old = []
              · rw [if_pos hmissing] at hu
                rw [hu]
                exact ExtendedAt.refl t _
              · rw [if_neg hmissing] at hu
                obtain ⟨more, hmore⟩ := exists_appendSections_eq old (m.missingIn old)
                intro c hc
                rw [((readText_eq_ok_iff hp old).mp hread).2] at hc
                cases hc
                refine ⟨.text (old ++ more), ?_, .inr ⟨old, more, rfl, rfl⟩⟩
                rw [hu, hmore]
                exact FileTree.get?_put_self t _ hp.place_ne_nil
  · exact ExtendedAt.of_spared ((GeneratedFile.writeTo_changedAt t root force hp).elsewhere p hplace)

section

variable {root appsDir : String} {p : Location} {t : FileTree}
  (hp : IsViewsModule (place (join root appsDir)) p)

include hp

/-- One run: the only file that it writes anew is the form, and that is no views module. -/
theorem Run.Confined.extendedAt {r : Run} (hr : r.Confined appsDir) (hwell : WellFormed t)
    (hg : Grounded t (components (join root appsDir))) : ExtendedAt t (r.report root t).tree p := by
  rcases r.tree_cases root t with hsame | ⟨g, files, hprepare, hnames, htree⟩
  · rw [hsame]
    exact ExtendedAt.refl t p
  · obtain ⟨hviews, hform⟩ := hr.places hprepare hg hp
    obtain ⟨_, _, _, _, _, views, others, header, rfl, hpath, _, hmerge, _⟩ :=
      ViewCommand.prepare_parts hprepare
    obtain ⟨⟨steps, n, hname⟩, hrest⟩ := List.forall_mem_cons.mp hnames
    have hforms : ∀ f ∈ others, place (join root f.path) ≠ p := by
      intro f hf
      rw [ViewCommand.path_of_mem_others hprepare hf]
      exact hform
    rw [← hpath] at hviews
    have hfirst := extendedAt_writeTo hmerge hname hwell hviews r.command.force p
    rw [htree]
    cases hwrite : views.writeTo t root r.command.force with
    | mk u o =>
        rw [hwrite] at hfirst
        cases o with
        | error e =>
            rw [writeFiles_cons_of_error (w := r.command.start r.color t) hwrite]
            exact hfirst
        | ok o =>
            rw [writeFiles_cons_of_ok (w := r.command.start r.color t) hwrite]
            have hspared := writeFiles_spared hrest r.color r.command.force hforms
              ({ r.command.start r.color t with tree := u }.note r.color views o)
            rw [note_tree] at hspared
            exact hfirst.trans (ExtendedAt.of_spared hspared)

theorem extendedAt_treeAfter {runs : List Run} (hruns : ∀ r ∈ runs, r.Confined appsDir)
    (hwell : WellFormed t) (hg : Grounded t (components (join root appsDir))) :
    ExtendedAt t (treeAfter root t runs) p := by
  refine treeAfter_invariant (ExtendedAt t · p) (fun e he h => ?_) (ExtendedAt.refl t p)
  have hkeeps := keeps_of_mem_history e he
  exact h.trans ((hruns e.2 (run_of_mem_history he)).extendedAt hp (hkeeps.wellFormed hwell)
    (hg.mono hkeeps.directory))

end

/-- Existing views modules only grow. Whatever runs come one after another below a directory of apps
that is made of names, a views module that is there at some point is there at every later point, and
its bytes are the first bytes of what it holds then. -/
theorem views_modules_only_grow {root appsDir : String} {names : List String} {t : FileTree}
    {before after : List Run} {p : Location} {c : Content} (hwell : WellFormed t)
    (hroot : Grounded t (components root)) (happs : components appsDir = names.map .name)
    (hruns : ∀ r ∈ before ++ after, r.Confined appsDir)
    (hp : IsViewsModule (place (join root appsDir)) p)
    (hthere : (treeAfter root t before).get? p = some (.file c)) :
    ∃ d, (treeAfter root t (before ++ after)).get? p = some (.file d) ∧
      contentBytes c <+: contentBytes d := by
  have hkeeps := keeps_treeAfter root t before
  have hg := (grounded_join hroot happs).mono hkeeps.directory
  have hafter : ∀ r ∈ after, r.Confined appsDir :=
    fun r hr => hruns r (List.mem_append_right before hr)
  rw [treeAfter_append]
  exact (extendedAt_treeAfter hp hafter (hkeeps.wellFormed hwell) hg).grows c hthere

def forcedFormRun : Run where
  command := { target := ⟨"blog", "Views"⟩, options := { create := true }, force := true }
  config := {}
  color := false

theorem confined_forcedFormRun : forcedFormRun.Confined "server/apps" where
  apps := rfl
  accepted := ⟨"blog:Views", by rfl⟩
  app := by decide
  view := nofun

def brokenViewsProject : FileTree :=
  blogProject [(["server", "apps", "blog", "views.py"], .file (.bytes [0xff]))]

theorem views_modules_only_grow_forced :
    ∃ d, (treeAfter "/" brokenViewsProject ([forcedFormRun] ++ [forcedFormRun])).get?
        ["server", "apps", "blog", "views.py"] = some (.file d) ∧
      [0xff] <+: contentBytes d := by
  have hruns : ∀ r ∈ [] ++ [forcedFormRun], r.Confined "server/apps" := by
    simp [confined_forcedFormRun]
  have hruns' : ∀ r ∈ [forcedFormRun] ++ [forcedFormRun], r.Confined "server/apps" := by
    simp [confined_forcedFormRun]
  have hplace : IsViewsModule (place (join "/" "server/apps")) ["server", "apps", "blog", "views.py"] :=
    ⟨"blog", .inl (by decide)⟩
  have hnames : components "server/apps" = ["server", "apps"].map .name := by decide
  have hwell : WellFormed brokenViewsProject := wellFormed_of_entries (by decide)
  have hroot : Grounded brokenViewsProject (components "/") := .of_names (by decide) _
  have hthere : (treeAfter "/" brokenViewsProject []).get? ["server", "apps", "blog", "views.py"] =
      some (.file (.bytes [0xff])) := by rfl
  obtain ⟨c, hc, hfirst⟩ := views_modules_only_grow hwell hroot hnames hruns hplace hthere
  obtain ⟨d, hd, hsecond⟩ := views_modules_only_grow hwell hroot hnames hruns' hplace hc
  exact ⟨d, hd, hfirst.trans hsecond⟩

end Viewsmith.Command
