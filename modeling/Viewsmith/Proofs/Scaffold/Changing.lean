import Viewsmith.Proofs.Files.WellFormed
import Viewsmith.Proofs.Scaffold.Writing

namespace Viewsmith.Scaffold

open Files

structure Keeps (t u : FileTree) : Prop where
  wellFormed : WellFormed t → WellFormed u
  directory : ∀ l, t.get? l = some .directory → u.get? l = some .directory

/-- A place is as it was, or has a new directory. -/
def Spared (t u : FileTree) (l : Location) : Prop :=
  u.get? l = t.get? l ∨ t.get? l = none ∧ u.get? l = some .directory

structure ChangedAt (p : Location) (t u : FileTree) : Prop extends Keeps t u where
  elsewhere : ∀ l, l ≠ p → Spared t u l

theorem Keeps.refl (t : FileTree) : Keeps t t := ⟨fun h => h, fun _ h => h⟩

theorem Keeps.trans {t u v : FileTree} (h : Keeps t u) (h' : Keeps u v) : Keeps t v :=
  ⟨fun hwell => h'.wellFormed (h.wellFormed hwell), fun l hl => h'.directory l (h.directory l hl)⟩

theorem Spared.refl (t : FileTree) (l : Location) : Spared t t l := .inl rfl

theorem Spared.trans {t u v : FileTree} {l : Location} (h : Spared t u l) (h' : Spared u v l) :
    Spared t v l := by
  rcases h with hsame | ⟨hnone, hnew⟩
  · rcases h' with hsame' | ⟨hnone', hnew'⟩
    · exact .inl (hsame'.trans hsame)
    · exact .inr ⟨hsame.symm.trans hnone', hnew'⟩
  · rcases h' with hsame' | ⟨hnone', _⟩
    · exact .inr ⟨hnone, hsame'.trans hnew⟩
    · rw [hnew] at hnone'
      cases hnone'

theorem spared_makePath (t : FileTree) (path : String) (l : Location) :
    Spared t (makePath t path).1 l := by
  unfold Spared
  rw [get?_makePath]
  by_cases hnew : l ∈ opened t path ∧ t.get? l = none
  · rw [if_pos hnew]
    exact .inr ⟨hnew.2, rfl⟩
  · rw [if_neg hnew]
    exact .inl rfl

namespace ChangedAt

theorem refl (p : Location) (t : FileTree) : ChangedAt p t t where
  toKeeps := Keeps.refl t
  elsewhere l _ := Spared.refl t l

theorem makePath (p : Location) (t : FileTree) (path : String) :
    ChangedAt p t (Files.makePath t path).1 where
  wellFormed h := h.makePath path
  directory l h := by rw [get?_makePath, if_neg (by simp [h]), h]
  elsewhere l _ := spared_makePath t path l

variable {t : FileTree} {path n : String} {steps : List Component}

theorem put (hp : NamesFile path steps n) (hr : InReach t path steps n)
    (hfree : t.get? (place path) ≠ some .directory) (c : Content) :
    ChangedAt (place path) t (t.put (place path) (.file c)) where
  wellFormed h := h.put_place hp hr hfree c
  directory l h := by
    have hne : place path ≠ l := by
      rintro rfl
      exact hfree h
    rw [FileTree.get?_put_of_ne _ _ hne, h]
  elsewhere l hl := .inl (FileTree.get?_put_of_ne _ _ (Ne.symm hl))

theorem written (hp : NamesFile path steps n) (hw : Writable t path) (s : String) :
    ChangedAt (place path) t (Scaffold.written t path s) where
  wellFormed h := (h.makePath _).put_place hp
    (inReach_makePath hp hw.valid ((short_iff hp).mp hw.short) hw.dir)
    ((get?_makePath_place_iff path).mpr ⟨hw.free, hw.apart⟩) _
  directory l h := written_directory_stays hp hw s h
  elsewhere l hl := by
    rcases written_elsewhere hp s hl with hsame | ⟨hnone, hnew, _⟩
    · exact .inl hsame
    · exact .inr ⟨hnone, hnew⟩

end ChangedAt

theorem Merge.appendTo_changedAt {t : FileTree} {path n : String} {steps : List Component}
    (hp : NamesFile path steps n) (m : Merge) : ChangedAt (place path) t (m.appendTo t path).1 := by
  cases hread : readText t path with
  | error e =>
      rw [appendTo_of_error m hread]
      exact ChangedAt.refl _ _
  | ok content =>
      obtain ⟨hr, hget⟩ := (readText_eq_ok_iff hp content).mp hread
      obtain ⟨l, hl, _, _, happend⟩ := appendTo_of_readText m hread
      obtain ⟨_, rfl, _⟩ := (find_eq_ok_iff hp _ _).mp hl
      rw [happend]
      by_cases hmissing : m.missingIn content = []
      · rw [if_pos hmissing]
        exact ChangedAt.refl _ _
      · rw [if_neg hmissing]
        exact ChangedAt.put hp hr (by simp [hget]) _

theorem GeneratedFile.writeTo_changedAt (t : FileTree) (root : String) (force : Bool)
    {f : GeneratedFile} {steps : List Component} {n : String}
    (hp : NamesFile (join root f.path) steps n) :
    ChangedAt (place (join root f.path)) t (f.writeTo t root force).1 := by
  rcases writeTo_cases t force hp with ⟨m, _, _, hwrite⟩ |
    ⟨_, _, _, e, hwrite⟩ | ⟨_, ⟨hw, o, _, hwrite⟩ | ⟨_, e, hwrite⟩⟩
  · rw [hwrite]
    exact m.appendTo_changedAt hp
  · rw [hwrite]
    exact ChangedAt.refl _ _
  · rw [hwrite]
    exact ChangedAt.written hp hw f.content
  · rw [hwrite]
    exact ChangedAt.makePath _ _ _

theorem GeneratedFile.spared_of_writeTo_error {t u : FileTree} {root : String} {force : Bool}
    {f : GeneratedFile} {steps : List Component} {n : String} {e : Failure}
    (hp : NamesFile (join root f.path) steps n) (h : f.writeTo t root force = (u, .error e))
    (l : Location) : Spared t u l := by
  rcases writeTo_cases t force hp with ⟨m, _, _, hwrite⟩ |
    ⟨_, _, _, e, hwrite⟩ | ⟨_, ⟨_, o, _, hwrite⟩ | ⟨_, e, hwrite⟩⟩
  · rw [hwrite] at h
    cases hread : readText t (join root f.path) with
    | error e =>
        rw [appendTo_of_error m hread, Prod.mk.injEq] at h
        rw [← h.1]
        exact Spared.refl t l
    | ok content =>
        obtain ⟨_, _, _, _, happend⟩ := appendTo_of_readText m hread
        rw [happend, Prod.mk.injEq] at h
        exact absurd h.2 (by simp)
  · rw [hwrite, Prod.mk.injEq] at h
    rw [← h.1]
    exact Spared.refl t l
  · rw [hwrite, Prod.mk.injEq] at h
    exact absurd h.2 (by simp)
  · rw [hwrite, Prod.mk.injEq] at h
    rw [← h.1]
    exact spared_makePath t _ l

end Viewsmith.Scaffold
