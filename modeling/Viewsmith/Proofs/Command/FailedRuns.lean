import Viewsmith.Proofs.Command.BuiltinRuns

namespace Viewsmith.Command

open Files Scaffold
open Settings (Config)

/-- What is changed when files are written and one of them fails: the module of the views may have
been written or merged by then, and directories may have been made. -/
def Disturbs (t : FileTree) (root : String) (views : GeneratedFile) (others : List GeneratedFile) :
    Prop :=
  (pathExists t (join root views.path) = false ∧
    (Writable t (join root views.path) ∨ NeedsDirectory t (join root views.path))) ∨
  ∃ m content, views.merge = some m ∧ readText t (join root views.path) = .ok content ∧
    (appendSections content (m.missingIn content) ≠ content ∨
      ∃ f ∈ others, NeedsDirectory t (join root f.path))

section

variable {color force : Bool} {t : FileTree} {root : String} {w : Writing}
  {views : GeneratedFile} {others : List GeneratedFile}

theorem get?_of_writeFiles_failed (hmerge : ∀ f ∈ others, f.merge = none)
    (hnames : ∀ f ∈ others, ∃ steps n, NamesFile (join root f.path) steps n)
    (hone : others.length ≤ 1) (hfail : (writeFiles color root force others w).2 ≠ none) :
    ∃ f, others = [f] ∧ ∀ l, (writeFiles color root force others w).1.tree.get? l =
      (makePath w.tree (dirOf (join root f.path))).1.get? l := by
  match others, hone with
  | [], _ => exact absurd rfl hfail
  | [f], _ =>
      obtain ⟨steps, n, hp⟩ := hnames f (List.mem_singleton_self f)
      refine ⟨f, rfl, fun l => ?_⟩
      cases hwrite : f.writeTo w.tree root force with
      | mk u r =>
          cases r with
          | ok o =>
              rw [writeFiles_cons_of_ok hwrite] at hfail
              exact absurd rfl hfail
          | error e =>
              rw [writeFiles_cons_of_error hwrite]
              exact GeneratedFile.get?_of_writeTo_error hp (hmerge f (List.mem_singleton_self f)) hwrite l

theorem get?_makePath_of_some {l : Location} {e : Entry} (h : t.get? l = some e) (path : String) :
    (makePath t path).1.get? l = some e := by
  rw [get?_makePath, if_neg (by simp [h]), h]

/-- When the views module was written before the failure, it is seen. -/
theorem written_views_disturb {steps : List Component} {n : String} {u : FileTree}
    (hp : NamesFile (join root views.path) steps n)
    (hexists : pathExists t (join root views.path) = false)
    (hw : Writable t (join root views.path))
    (hkept : ∀ l e, (written t (join root views.path) views.content).get? l = some e →
      u.get? l = some e) :
    ∃ l, u.get? l ≠ t.get? l := by
  rcases inReach_or_needsDirectory hp hw with hreach | ⟨l, hl, hnone⟩
  · refine ⟨place (join root views.path), fun hsame => ?_⟩
    have hplace := hkept _ _ (FileTree.get?_put_self _ _ hp.place_ne_nil)
    rw [hsame] at hplace
    have hthere := (pathExists_iff hp).mpr ⟨hreach, by simp [hplace]⟩
    rw [hexists] at hthere
    cases hthere
  · refine ⟨l, fun hsame => ?_⟩
    obtain ⟨e, he⟩ : ∃ e, (written t (join root views.path) views.content).get? l = some e := by
      rw [get?_written hp]
      split
      · exact ⟨_, rfl⟩
      · exact ⟨_, if_pos ⟨hl, hnone⟩⟩
    have hlater := hkept l e he
    rw [hsame, hnone] at hlater
    cases hlater

variable {m : Merge} (hm : views.merge = some m) (hmerge : ∀ f ∈ others, f.merge = none)
  (hnames : ∀ f ∈ others, ∃ steps n, NamesFile (join root f.path) steps n)
  (hone : others.length ≤ 1)
  (hfail : (writeFiles color root force (views :: others) w).2 ≠ none)

include hmerge hnames hone hfail

theorem unchanged_iff_of_absent (hviews : ∃ steps n, NamesFile (join root views.path) steps n)
    (hexists : pathExists w.tree (join root views.path) = false) :
    (∀ l, (writeFiles color root force (views :: others) w).1.tree.get? l = w.tree.get? l) ↔
      ¬ Disturbs w.tree root views others := by
  obtain ⟨steps, n, hp⟩ := hviews
  have hunread (content : String) : readText w.tree (join root views.path) ≠ .ok content := by
    intro hread
    obtain ⟨l, hl⟩ := readText_eq_ok hread
    rw [pathExists_of_find hl] at hexists
    cases hexists
  have hwrite := GeneratedFile.writeTo_of_absent force hexists
  by_cases hw : Writable w.tree (join root views.path)
  · rw [writeWhole_of_writable views hp false hw] at hwrite
    rw [writeFiles_cons_of_ok hwrite] at hfail ⊢
    obtain ⟨f, _, htree⟩ := get?_of_writeFiles_failed hmerge hnames hone hfail
    rw [note_tree] at htree
    obtain ⟨l, hl⟩ := written_views_disturb hp hexists hw
      fun l e he => (htree l).trans (get?_makePath_of_some he _)
    exact iff_of_false (fun hsame => hl (hsame l)) (not_not_intro (.inl ⟨hexists, .inl hw⟩))
  · obtain ⟨e, he⟩ := writeWhole_of_not_writable views hp false hw
    rw [he] at hwrite
    rw [writeFiles_cons_of_error hwrite, get?_makePath_eq_iff]
    simp [Disturbs, hexists, hw, hunread]

include hm

theorem unchanged_iff_of_merged (hexists : pathExists w.tree (join root views.path) = true)
    (hadmissible : Admissible w.tree root force views) :
    (∀ l, (writeFiles color root force (views :: others) w).1.tree.get? l = w.tree.get? l) ↔
      ¬ Disturbs w.tree root views others := by
  have hreadable := hadmissible hexists
  rw [hm] at hreadable
  obtain ⟨content, hread, hmissing⟩ := hreadable
  obtain ⟨l₀, _, hne, hget, happend⟩ := appendTo_of_readText m hread
  rw [← GeneratedFile.writeTo_of_merge force hm hexists, if_neg hmissing] at happend
  rw [writeFiles_cons_of_ok happend] at hfail ⊢
  obtain ⟨f, rfl, htree⟩ := get?_of_writeFiles_failed hmerge hnames hone hfail
  rw [note_tree] at htree
  generalize hafter : appendSections content (m.missingIn content) = after at htree
  have hopened : opened (w.tree.put l₀ (.file (.text after))) (dirOf (join root f.path)) =
      opened w.tree (dirOf (join root f.path)) := opened_congr fun above _ => isFileAt_put hget _
  have hdisturbs : Disturbs w.tree root views [f] ↔
      after ≠ content ∨ NeedsDirectory w.tree (join root f.path) := by
    simp [Disturbs, hexists, hm, hread, hafter]
  have hplace : (w.tree.put l₀ (.file (.text after))).get? l₀ = some (.file (.text after)) :=
    FileTree.get?_put_self _ _ hne
  rw [hdisturbs, not_or, not_not]
  constructor
  · intro hsame
    have heq : after = content := by
      have hl₀ := (htree l₀).trans (get?_makePath_of_some hplace _)
      rw [hsame, hget] at hl₀
      simpa using hl₀.symm
    refine ⟨heq, ?_⟩
    rintro ⟨l, hl, hnone⟩
    have hl₀ : l₀ ≠ l := by
      rintro rfl
      rw [hget] at hnone
      cases hnone
    have hmade := htree l
    rw [get?_makePath, hopened, FileTree.get?_put_of_ne _ _ hl₀, if_pos ⟨hl, hnone⟩, hsame,
      hnone] at hmade
    cases hmade
  · rintro ⟨rfl, hneed⟩ l
    by_cases hl : l₀ = l
    · rw [← hl, htree, get?_makePath_of_some hplace, hget]
    · rw [htree, get?_makePath, hopened, FileTree.get?_put_of_ne _ _ hl, if_neg]
      rintro ⟨ho, hnone⟩
      exact hneed ⟨l, ho, hnone⟩

end

section

variable (color force : Bool) {root : String} (w : Writing) {views form : GeneratedFile}
  {steps steps' : List Component} {n n' : String}

/-- If the second file cannot be written, the first one stays. -/
theorem writeFiles_blocked (hp : NamesFile (join root views.path) steps n)
    (hp' : NamesFile (join root form.path) steps' n')
    (habsent : pathExists w.tree (join root views.path) = false)
    (hw : Writable w.tree (join root views.path)) (hmerge : form.merge = none)
    (hblocked : ¬ Writable (written w.tree (join root views.path) views.content)
      (join root form.path)) :
    (writeFiles color root force [views, form] w).2 ≠ none ∧
      (writeFiles color root force [views, form] w).1.tree.get? (place (join root views.path)) =
        some (.file (.text views.content)) := by
  have hfirst := GeneratedFile.writeTo_of_absent force habsent
  rw [writeWhole_of_writable views hp false hw] at hfirst
  rw [writeFiles_cons_of_ok hfirst]
  generalize hnote : Writing.note _ color views _ = w'
  have htree : w'.tree = written w.tree (join root views.path) views.content := by
    rw [← hnote, note_tree]
  cases hsecond : form.writeTo w'.tree root force with
  | mk u o =>
      cases o with
      | error e =>
          rw [writeFiles_cons_of_error hsecond]
          refine ⟨Option.some_ne_none e, ?_⟩
          rw [GeneratedFile.get?_of_writeTo_error hp' hmerge hsecond]
          refine get?_makePath_of_some ?_ _
          rw [htree, get?_written hp, if_pos rfl]
      | ok o =>
          rw [htree] at hsecond
          exact absurd (GeneratedFile.writeTo_whole_ok hp' hmerge hsecond).1 hblocked

end

/-- A failing run leaves every file and directory as it was, unless it comes to write its files and
what is written before one of them fails can be seen. -/
theorem failed_run_unchanged_iff (c : ViewCommand) (color : Bool) (t : FileTree) (root : String)
    (config : Config) (hfail : (c.runIn color t root config).failure ≠ none) :
    (∀ l, (c.runIn color t root config).tree.get? l = t.get? l) ↔
      ¬ ∃ g views others, c.prepare t root config = .ok (g, views :: others) ∧ c.stdout = false ∧
        checkConflicts t root c.force (views :: others) = .ok () ∧ Disturbs t root views others := by
  rcases c.runIn_cases color t root config with ⟨f, hprepare, hrun⟩ |
    ⟨g, files, hprepare, ⟨_, hrun⟩ | ⟨f, _, hcheck, hrun⟩ | ⟨hstdout, hcheck, hrun⟩⟩
  · simp [hrun, hprepare]
  · simp [hrun] at hfail
  · rw [hrun]
    refine iff_of_true (fun l => rfl) ?_
    rintro ⟨g', views, others, hprepare', _, hcheck', _⟩
    rw [hprepare] at hprepare'
    cases hprepare'
    rw [hcheck] at hcheck'
    cases hcheck'
  · obtain ⟨views, others, rfl, ⟨m, hm⟩, hviews, hone, hmerge, hnames⟩ :=
      ViewCommand.files_of_prepare hprepare
    rw [hrun, ViewCommand.finish_failure] at hfail
    rw [hrun, ViewCommand.finish_tree]
    have hadmissible : Admissible t root c.force views :=
      (checkConflicts_eq_ok_iff _ _ _ _).mp hcheck views List.mem_cons_self
    have hiff : (∀ l, (writeFiles color root c.force (views :: others) (c.start color t)).1.tree.get? l =
        t.get? l) ↔ ¬ Disturbs t root views others := by
      cases hexists : pathExists t (join root views.path) with
      | false => exact unchanged_iff_of_absent hmerge hnames hone hfail hviews hexists
      | true => exact unchanged_iff_of_merged hm hmerge hnames hone hfail hexists hadmissible
    rw [hiff, not_iff_not]
    constructor
    · intro hdisturbs
      exact ⟨g, views, others, hprepare, hstdout, hcheck, hdisturbs⟩
    · rintro ⟨g', views', others', hprepare', _, _, hdisturbs⟩
      rw [hprepare] at hprepare'
      cases hprepare'
      exact hdisturbs

def postFormProject : FileTree :=
  blogProject [(["server", "apps", "blog", "forms"], .directory),
    (["server", "apps", "blog", "forms", "post.py"], .file (.text "x"))]

theorem exists_conflict_postForm : ∃ g views form,
    (postViews { create := true }).prepare postFormProject "/" {} = .ok (g, [views, form]) ∧
      (∃ m, views.merge = some m) ∧ form.merge = none ∧
      join "/" views.path = "/server/apps/blog/views.py" ∧
      join "/" form.path = "/server/apps/blog/forms/post.py" ∧
      checkConflicts postFormProject "/" false [views, form] ≠ .ok () := by
  obtain ⟨g, views, others, hprepare, hviews, _, ⟨_, hm⟩, _, hothers⟩ :=
    exists_prepare_post { create := true } postFormProject (by decide) (by decide +kernel)
  obtain ⟨form, rfl, hwhole, hform⟩ := hothers rfl
  refine ⟨g, views, form, hprepare, ⟨_, hm⟩, hwhole, hviews, hform, ?_⟩
  have hexists : pathExists postFormProject "/server/apps/blog/forms/post.py" = true := by
    decide +kernel
  rw [ne_eq, checkConflicts_eq_ok_iff, List.forall_mem_cons, List.forall_mem_singleton]
  rintro ⟨-, hadmissible⟩
  rw [Admissible, hwhole, hform] at hadmissible
  exact absurd (hadmissible hexists) Bool.false_ne_true

theorem failed_run_unchanged_post :
    ((postViews { create := true }).runIn false postFormProject "/" {}).failure ≠ none ∧
      ∀ l, ((postViews { create := true }).runIn false postFormProject "/" {}).tree.get? l =
        postFormProject.get? l := by
  obtain ⟨g, views, form, hprepare, _, _, _, _, hconflict⟩ := exists_conflict_postForm
  have hfail := ViewCommand.failure_of_conflict false hprepare rfl hconflict
  refine ⟨hfail, (failed_run_unchanged_iff _ false postFormProject "/" {} hfail).mpr ?_⟩
  rintro ⟨g', views', others', hprepare', _, hcheck, _⟩
  have hfiles := (Prod.mk.inj (Except.ok.inj (hprepare.symm.trans hprepare'))).2
  rw [← hfiles] at hcheck
  exact hconflict hcheck

def blockedProject : FileTree :=
  blogProject [(["server", "apps", "blog", "forms"], .file (.text "x"))]

theorem namesFile_views : NamesFile "/server/apps/blog/views.py"
    [.name "server", .name "apps", .name "blog"] "views.py" :=
  ⟨by decide, by decide⟩

theorem namesFile_form : NamesFile "/server/apps/blog/forms/post.py"
    [.name "server", .name "apps", .name "blog", .name "forms"] "post.py" :=
  ⟨by decide, by decide⟩

theorem writable_views {t : FileTree}
    (hmade : (makePath t (dirOf "/server/apps/blog/views.py")).2 = none)
    (hfree : t.get? (place "/server/apps/blog/views.py") ≠ some .directory)
    (hapart : place "/server/apps/blog/views.py" ∉ opened t (dirOf "/server/apps/blog/views.py")) :
    Writable t "/server/apps/blog/views.py" where
  valid := rfl
  short := (short_iff namesFile_views).mpr (by decide)
  dir := (makePath_eq_none_iff _ _).mp hmade
  free := hfree
  apart := hapart

theorem not_writable_form (s : String) :
    ¬ Writable (written blockedProject "/server/apps/blog/views.py" s)
      "/server/apps/blog/forms/post.py" := by
  intro hw
  have hplace : place "/server/apps/blog/views.py" = ["server", "apps", "blog", "views.py"] := by
    decide
  have hfile : (written blockedProject "/server/apps/blog/views.py" s).get?
      ["server", "apps", "blog", "forms"] = some (.file (.text "x")) :=
    get?_written_of_some namesFile_views s (by rw [hplace]; decide) (by decide)
  rcases hw.dir with hempty | ⟨_, hpassable⟩
  · exact absurd hempty (by decide)
  · rw [namesFile_form.components_dirOf] at hpassable
    have hfree : isFileAt (written blockedProject "/server/apps/blog/views.py" s)
      ["server", "apps", "blog", "forms"] = false := hpassable.2.2.2.2.2.2.2.1
    rw [isFileAt, hfile] at hfree
    cases hfree

/-- The form cannot be written, and by then the views have been. -/
theorem failed_run_leaves_views :
    ((postViews { create := true }).runIn false blockedProject "/" {}).failure ≠ none ∧
      blockedProject.get? ["server", "apps", "blog", "views.py"] = none ∧
      ((postViews { create := true }).runIn false blockedProject "/" {}).tree.get?
        ["server", "apps", "blog", "views.py"] ≠ none := by
  obtain ⟨g, views, others, hprepare, hviews, _, _, _, hothers⟩ :=
    exists_prepare_post { create := true } blockedProject (by decide) (by decide +kernel)
  obtain ⟨form, rfl, hmerge, hform⟩ := hothers rfl
  have habsent : pathExists blockedProject "/server/apps/blog/views.py" = false := by
    decide +kernel
  have habsent' : pathExists blockedProject "/server/apps/blog/forms/post.py" = false := by
    decide +kernel
  have hcheck : checkConflicts blockedProject "/" false [views, form] = .ok () := by
    rw [checkConflicts_eq_ok_iff, List.forall_mem_cons, List.forall_mem_singleton, Admissible,
      Admissible, hviews, hform, habsent, habsent']
    exact ⟨fun hthere => absurd hthere Bool.false_ne_true, fun hthere => absurd hthere Bool.false_ne_true⟩
  have hwritable : Writable blockedProject "/server/apps/blog/views.py" :=
    writable_views (by decide +kernel) (by decide +kernel) (by decide +kernel)
  have hplace : place "/server/apps/blog/views.py" = ["server", "apps", "blog", "views.py"] := by
    decide +kernel
  obtain ⟨hfail, hget⟩ := writeFiles_blocked false false
    ((postViews { create := true }).start false blockedProject)
    (hviews ▸ namesFile_views) (hform ▸ namesFile_form) (hviews ▸ habsent) (hviews ▸ hwritable)
    hmerge (hviews ▸ hform ▸ not_writable_form _)
  rw [hviews, hplace] at hget
  rw [ViewCommand.runIn_of_prepare false hprepare rfl hcheck, ViewCommand.finish_failure,
    ViewCommand.finish_tree]
  exact ⟨hfail, by decide, ne_of_eq_of_ne hget (Option.some_ne_none _)⟩

end Viewsmith.Command
