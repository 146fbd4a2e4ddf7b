import Viewsmith.Proofs.Files.Blocking
import Viewsmith.Proofs.Scaffold.Conflicts

namespace Viewsmith.Scaffold

open Files

/-- To a path the second tree looks like the first one: it has the same entry in its place and files
in the same places above it, and has at least the directories of the first one. -/
structure Alike (t u : FileTree) (path : String) : Prop where
  wellFormed : WellFormed t
  wellFormed' : WellFormed u
  grounded : Grounded t (components path)
  directory : ∀ l, t.get? l = some .directory → u.get? l = some .directory
  place : u.get? (place path) = t.get? (place path)
  above : ∀ l, IsAbove path l → isFileAt u l = isFileAt t l

/-- Two changes, from `t` to `t'` and from `u` to `u'`, that do the same: a place is left alone by both
of them, or has the same entry after both. -/
def SameChange (t t' u u' : FileTree) : Prop :=
  ∀ l, t'.get? l = t.get? l ∧ u'.get? l = u.get? l ∨ t'.get? l = u'.get? l

theorem SameChange.refl (t u : FileTree) : SameChange t t u u := fun _ => .inl ⟨rfl, rfl⟩

theorem SameChange.trans {t t' t'' u u' u'' : FileTree} (h : SameChange t t' u u')
    (h' : SameChange t' t'' u' u'') : SameChange t t'' u u'' := by
  intro l
  rcases h l with ⟨ht, hu⟩ | hsame
  · rcases h' l with ⟨ht', hu'⟩ | hsame'
    · exact .inl ⟨ht'.trans ht, hu'.trans hu⟩
    · exact .inr hsame'
  · rcases h' l with ⟨ht', hu'⟩ | hsame'
    · exact .inr (ht'.trans (hsame.trans hu'.symm))
    · exact .inr hsame'

theorem SameChange.put {t t' u u' : FileTree} (h : SameChange t t' u u') {l : Location}
    (hl : l ≠ []) (e : Entry) : SameChange t (t'.put l e) u (u'.put l e) := by
  intro m
  by_cases hm : l = m
  · rw [← hm, FileTree.get?_put_self _ _ hl, FileTree.get?_put_self _ _ hl]
    exact .inr rfl
  · rw [FileTree.get?_put_of_ne _ _ hm, FileTree.get?_put_of_ne _ _ hm]
    exact h m

namespace Alike

variable {t u : FileTree} {path n : String} {steps : List Component}

theorem sameFound (h : Alike t u path) (hc : components path = steps ++ [.name n]) :
    SameFound t u path :=
  h.wellFormed.find_eq_ok_iff_of_kept h.grounded hc h.directory h.place

theorem sameFiles (h : Alike t u path) (hc : components path = steps ++ [.name n]) :
    SameFiles t u [] (components (dirOf path)) := by
  rintro above ⟨below, hsteps⟩
  rw [components_dirOf hc] at hsteps
  refine h.above _ ⟨above, below ++ [.name n], ?_, by simp, rfl⟩
  rw [hc, ← hsteps, List.append_assoc]

theorem makePath_error_eq (h : Alike t u path) (hc : components path = steps ++ [.name n]) :
    (makePath u (dirOf path)).2 = (makePath t (dirOf path)).2 := by
  have hg : Grounded t (components (dirOf path)) := by
    rw [components_dirOf hc]
    exact (hc ▸ h.grounded).dropLast
  exact makePath_error_congr h.wellFormed h.wellFormed' hg (hg.mono h.directory) (h.sameFiles hc)

/-- A place on the way of directories to be made is a directory afterwards, in both trees. -/
theorem sameChange_makePath (h : Alike t u path) (hc : components path = steps ++ [.name n]) :
    SameChange t (makePath t (dirOf path)).1 u (makePath u (dirOf path)).1 := by
  have hopened := opened_congr (h.sameFiles hc)
  intro l
  by_cases hl : l ∈ opened t (dirOf path)
  · have hl' : l ∈ opened u (dirOf path) := by
      rw [hopened]
      exact hl
    rw [get?_makePath_of_mem_opened hl, get?_makePath_of_mem_opened hl']
    exact .inr rfl
  · rw [get?_makePath, get?_makePath, hopened]
    simp [hl]

theorem writeWhole (h : Alike t u path) (hp : NamesFile path steps n) (f : GeneratedFile)
    (existed : Bool) :
    (f.writeWhole u path existed).2 = (f.writeWhole t path existed).2 ∧
      SameChange t (f.writeWhole t path existed).1 u (f.writeWhole u path existed).1 := by
  have herror := h.makePath_error_eq hp.components_eq
  have hmade := h.sameChange_makePath hp.components_eq
  have hpair (v : FileTree) {e : Option IoError} (he : (makePath v (dirOf path)).2 = e) :
      makePath v (dirOf path) = ((makePath v (dirOf path)).1, e) := Prod.ext rfl he
  cases hstop : (makePath t (dirOf path)).2 with
  | some e =>
      rw [writeWhole_eq_error f existed (hpair t hstop),
        writeWhole_eq_error f existed (hpair u (herror.trans hstop))]
      exact ⟨rfl, hmade⟩
  | none =>
      have hwalk (v : FileTree) (hv : (makePath v (dirOf path)).2 = none) :
          walk (makePath v (dirOf path)).1 [] steps = .ok (follow [] steps) := by
        rw [← hp.components_dirOf]
        exact walk_makePath ((makePath_eq_none_iff _ _).mp hv)
      have hplace : (makePath u (dirOf path)).1.get? (Files.place path) =
          (makePath t (dirOf path)).1.get? (Files.place path) := by
        rw [get?_makePath, get?_makePath, opened_congr (h.sameFiles hp.components_eq), h.place]
      rw [writeWhole_eq_write f existed (hpair t hstop),
        writeWhole_eq_write f existed (hpair u (herror.trans hstop)),
        writeText_of_walk hp (hwalk t hstop), writeText_of_walk hp (hwalk u (herror.trans hstop)), hplace]
      cases checkPath path with
      | error e => exact ⟨rfl, hmade⟩
      | ok _ =>
          by_cases hlong : nameLimit < n.utf8ByteSize
          · simp only [if_pos hlong]
            exact ⟨trivial, hmade⟩
          · by_cases hdir : (makePath t (dirOf path)).1.get? (Files.place path) = some .directory
            · simp only [if_neg hlong, if_pos hdir]
              exact ⟨trivial, hmade⟩
            · simp only [if_neg hlong, if_neg hdir]
              exact ⟨trivial, hmade.put hp.place_ne_nil _⟩

theorem appendTo (h : Alike t u path) (hp : NamesFile path steps n) (m : Merge)
    (hexists : pathExists t path = true) :
    (m.appendTo u path).2 = (m.appendTo t path).2 ∧
      SameChange t (m.appendTo t path).1 u (m.appendTo u path).1 := by
  have hfound := h.sameFound hp.components_eq
  have hsame := hfound.readText_eq hexists
  cases hread : readText t path with
  | error e =>
      rw [appendTo_of_error m hread, appendTo_of_error m (hsame.trans hread)]
      exact ⟨rfl, SameChange.refl t u⟩
  | ok old =>
      obtain ⟨l, hfind, hl, _, happend⟩ := appendTo_of_readText m hread
      obtain ⟨l', hfind', _, _, happend'⟩ := appendTo_of_readText m (hsame.trans hread)
      rw [hfound, hfind] at hfind'
      cases hfind'
      rw [happend, happend']
      refine ⟨rfl, ?_⟩
      split
      · exact SameChange.refl t u
      · exact (SameChange.refl t u).put hl _

theorem writeTo {f : GeneratedFile} {root : String} (h : Alike t u (join root f.path))
    (hp : NamesFile (join root f.path) steps n) (force : Bool) :
    (f.writeTo u root force).2 = (f.writeTo t root force).2 ∧
      SameChange t (f.writeTo t root force).1 u (f.writeTo u root force).1 := by
  have hsame := (h.sameFound hp.components_eq).pathExists_eq
  cases hexists : pathExists t (join root f.path) with
  | false =>
      rw [GeneratedFile.writeTo_of_absent force hexists,
        GeneratedFile.writeTo_of_absent force (hsame.trans hexists)]
      exact h.writeWhole hp f false
  | true =>
      cases hm : f.merge with
      | some m =>
          rw [GeneratedFile.writeTo_of_merge force hm hexists,
            GeneratedFile.writeTo_of_merge force hm (hsame.trans hexists)]
          exact h.appendTo hp m hexists
      | none =>
          cases force with
          | true =>
              rw [GeneratedFile.writeTo_of_force hm hexists,
                GeneratedFile.writeTo_of_force hm (hsame.trans hexists)]
              exact h.writeWhole hp f true
          | false =>
              rw [GeneratedFile.writeTo_of_refused hm hexists,
                GeneratedFile.writeTo_of_refused hm (hsame.trans hexists)]
              exact ⟨rfl, SameChange.refl t u⟩

theorem checkConflicts_eq {root : String} {files : List GeneratedFile}
    (h : ∀ f ∈ files, Alike t u (join root f.path) ∧
      ∃ steps n, NamesFile (join root f.path) steps n) (force : Bool) :
    checkConflicts u root force files = checkConflicts t root force files := by
  have hlists : conflicts u root force files = conflicts t root force files := by
    induction files with
    | nil => rfl
    | cons f rest ih =>
        obtain ⟨⟨halike, steps, n, hp⟩, hrest⟩ := List.forall_mem_cons.mp h
        have hfound := halike.sameFound hp.components_eq
        rw [conflicts_cons, conflicts_cons, hfound.pathExists_eq, ih hrest]
        cases hexists : pathExists t (join root f.path) with
        | false => simp only [Bool.not_false, if_true]
        | true => rw [hfound.readText_eq hexists]
  rw [checkConflicts, checkConflicts, hlists]

end Alike

end Viewsmith.Scaffold
