import Viewsmith.Proofs.Scaffold.Overrides

namespace Viewsmith.Scaffold

open Files
open View (Kind Registry)

def overridden (t : FileTree) (seen : String → String) (dir : String) (ks : List Kind) : List Kind :=
  ks.filter fun k => isFile t (seen (overridePath dir k))

/-- The registry `loaded` has the texts of the overrides of some views, all of which can be read, and
otherwise what `r` has. -/
structure TakesOver (t : FileTree) (seen : String → String) (dir : String) (ks : List Kind)
    (r loaded : Registry) : Prop where
  taken : ∀ k ∈ ks, ∃ text, readText t (seen (overridePath dir k)) = .ok text ∧
    loaded.lookup? k.partialName = some text
  other : ∀ name, name ∉ ks.map Kind.partialName → loaded.lookup? name = r.lookup? name
  unchanged : ks = [] → loaded = r

def unreadable (dir : String) (k : Kind) (e : IoError) : Failure :=
  (Failure.ofCause (.io e)).within ("Failed to read partial: " ++ overridePath dir k)

section

variable {t : FileTree} {seen : String → String} {dir : String} {k : Kind} {ks : List Kind}
  {r loaded : Registry}

theorem TakesOver.refl (t : FileTree) (seen : String → String) (dir : String) (r : Registry) :
    TakesOver t seen dir [] r r :=
  ⟨fun _ hk => absurd hk List.not_mem_nil, fun _ _ => rfl, fun _ => rfl⟩

theorem TakesOver.cons {text : String} (hread : readText t (seen (overridePath dir k)) = .ok text)
    (hk : k ∉ ks) (h : TakesOver t seen dir ks (r.register k.partialName text) loaded) :
    TakesOver t seen dir (k :: ks) r loaded where
  taken := by
    have hname : k.partialName ∉ ks.map Kind.partialName := by
      rw [List.mem_map]
      rintro ⟨l, hl, hsame⟩
      exact hk (Kind.className_injective hsame ▸ hl)
    rw [List.forall_mem_cons]
    refine ⟨⟨text, hread, ?_⟩, h.taken⟩
    rw [h.other _ hname, Registry.lookup?_register_self]
  other name hname := by
    rw [List.map_cons, List.mem_cons, not_or] at hname
    rw [h.other name hname.2, Registry.lookup?_register_of_ne r text (Ne.symm hname.1)]
  unchanged hnil := absurd hnil (List.cons_ne_nil k ks)

theorem overridden_cons_of_absent (h : isFile t (seen (overridePath dir k)) = false) :
    overridden t seen dir (k :: ks) = overridden t seen dir ks :=
  List.filter_cons_of_neg (by rw [h]; exact Bool.false_ne_true)

theorem overridden_cons_of_there (h : isFile t (seen (overridePath dir k)) = true) :
    overridden t seen dir (k :: ks) = k :: overridden t seen dir ks :=
  List.filter_cons_of_pos h

theorem loadKinds_of_absent_cons (h : isFile t (seen (overridePath dir k)) = false) :
    loadKinds t seen dir (k :: ks) r = loadKinds t seen dir ks r := by
  rw [loadKinds, if_pos (by rw [h]; rfl)]

theorem loadKinds_of_error {e : IoError} (h : isFile t (seen (overridePath dir k)) = true)
    (hread : readText t (seen (overridePath dir k)) = .error e) :
    loadKinds t seen dir (k :: ks) r = (r, .error (unreadable dir k e)) := by
  rw [loadKinds, if_neg (by rw [h]; exact Bool.false_ne_true), hread]
  rfl

theorem loadKinds_of_text {text : String} (h : isFile t (seen (overridePath dir k)) = true)
    (hread : readText t (seen (overridePath dir k)) = .ok text) :
    loadKinds t seen dir (k :: ks) r =
      ((loadKinds t seen dir ks (r.register k.partialName text)).1,
        (loadKinds t seen dir ks (r.register k.partialName text)).2.map (k.partialName :: ·)) := by
  rw [loadKinds, if_neg (by rw [h]; exact Bool.false_ne_true), hread]
  dsimp only
  cases loadKinds t seen dir ks (r.register k.partialName text) with
  | mk loaded result => cases result <;> rfl

variable (t seen dir) in
/-- The loop takes over one override after another, up to the first one that cannot be read. -/
theorem loadKinds_cases (hnodup : ks.Nodup) (r : Registry) :
    (∃ loaded, loadKinds t seen dir ks r =
        (loaded, .ok ((overridden t seen dir ks).map Kind.partialName)) ∧
      TakesOver t seen dir (overridden t seen dir ks) r loaded) ∨
    ∃ before k after e loaded, ks = before ++ k :: after ∧
      isFile t (seen (overridePath dir k)) = true ∧
      readText t (seen (overridePath dir k)) = .error e ∧
      loadKinds t seen dir ks r = (loaded, .error (unreadable dir k e)) ∧
      TakesOver t seen dir (overridden t seen dir before) r loaded := by
  induction ks generalizing r with
  | nil => exact .inl ⟨r, rfl, TakesOver.refl t seen dir r⟩
  | cons k ks ih =>
      obtain ⟨hk, hnodup⟩ := List.nodup_cons.mp hnodup
      cases hfile : isFile t (seen (overridePath dir k)) with
      | false =>
          rw [loadKinds_of_absent_cons hfile, overridden_cons_of_absent hfile]
          obtain hall | ⟨before, k', after, e, loaded, rfl, hthere, hread, hload, htakes⟩ := ih hnodup r
          · exact .inl hall
          · refine .inr ⟨k :: before, k', after, e, loaded, rfl, hthere, hread, hload, ?_⟩
            rw [overridden_cons_of_absent hfile]
            exact htakes
      | true =>
          cases htext : readText t (seen (overridePath dir k)) with
          | error e =>
              exact .inr ⟨[], k, ks, e, r, rfl, hfile, htext, loadKinds_of_error hfile htext,
                TakesOver.refl t seen dir r⟩
          | ok text =>
              rw [loadKinds_of_text hfile htext, overridden_cons_of_there hfile]
              obtain ⟨loaded, hload, htakes⟩ | ⟨before, k', after, e, loaded, rfl, hthere, hread, hload, htakes⟩ :=
                ih hnodup (r.register k.partialName text)
              · refine .inl ⟨loaded, ?_, htakes.cons htext fun hmem => hk (List.mem_filter.mp hmem).1⟩
                rw [hload]
                rfl
              · refine .inr ⟨k :: before, k', after, e, loaded, rfl, hthere, hread, ?_, ?_⟩
                · rw [hload]
                  rfl
                · rw [overridden_cons_of_there hfile]
                  exact htakes.cons htext fun hmem =>
                    hk (List.mem_append_left _ (List.mem_filter.mp hmem).1)

end

/-- Loading overrides takes over the overrides of all views, or it fails. It fails and leaves the
registry alone if there is no such directory. It also fails at the first override, in file order, that
is a regular file and no text; the overrides of the views before that one have been taken over by
then, and everything else is as it was. -/
theorem overrides_loaded_in_order (t : FileTree) (cwd dir : String) (r : Registry) :
    (isDirectory t (join cwd dir) = true ∧ ∃ loaded, loadOverrides t cwd dir r =
        (loaded, .ok ((overridden t (join cwd) dir Kind.all).map Kind.partialName)) ∧
      TakesOver t (join cwd) dir (overridden t (join cwd) dir Kind.all) r loaded) ∨
    (isDirectory t (join cwd dir) = false ∧ loadOverrides t cwd dir r =
      (r, .error (.refuse ("Partials directory not found: " ++ dir)))) ∨
    (isDirectory t (join cwd dir) = true ∧ ∃ before k after e loaded,
      Kind.all = before ++ k :: after ∧ isFile t (join cwd (overridePath dir k)) = true ∧
      readText t (join cwd (overridePath dir k)) = .error e ∧
      loadOverrides t cwd dir r = (loaded, .error (unreadable dir k e)) ∧
      TakesOver t (join cwd) dir (overridden t (join cwd) dir before) r loaded) := by
  rw [loadOverrides]
  cases hdir : isDirectory t (join cwd dir) with
  | false => exact .inr (.inl ⟨rfl, rfl⟩)
  | true =>
      rw [if_pos rfl]
      have hnodup : Kind.all.Nodup := by decide
      obtain hall | hfailed := loadKinds_cases t (join cwd) dir hnodup r
      · exact .inl ⟨rfl, hall⟩
      · exact .inr (.inr ⟨rfl, hfailed⟩)

def halfReadableProject : FileTree :=
  ⟨[(["partials"], .directory),
    (["partials", "ListView.py.hbs"], .file (.text "mine")),
    (["partials", "DetailView.py.hbs"], .file (.bytes [0xff]))]⟩

/-- The load fails, and by then the first override has replaced a partial. -/
theorem failed_load_replaces_partial :
    ∃ loaded failure, loadOverrides halfReadableProject "/" "partials" Registry.builtin =
        (loaded, .error failure) ∧
      loaded.lookup? "ListView" = some "mine" ∧
      Registry.builtin.lookup? "ListView" ≠ some "mine" := by
  have hdir : isDirectory halfReadableProject (join "/" "partials") = true := by decide
  have hlist : isFile halfReadableProject (join "/" (overridePath "partials" .list)) = true := by decide
  have hmine : readText halfReadableProject (join "/" (overridePath "partials" .list)) =
      .ok "mine" := by rfl
  have hdetail : isFile halfReadableProject (join "/" (overridePath "partials" .detail)) = true := by
    decide
  have hbytes : readText halfReadableProject (join "/" (overridePath "partials" .detail)) =
      .error .notText := by rfl
  refine ⟨Registry.builtin.register "ListView" "mine", unreadable "partials" .detail .notText, ?_,
    Registry.lookup?_register_self _ _ _, by decide⟩
  rw [loadOverrides, if_pos hdir, Kind.all, loadKinds_of_text hlist hmine,
    loadKinds_of_error hdetail hbytes]
  rfl

end Viewsmith.Scaffold
