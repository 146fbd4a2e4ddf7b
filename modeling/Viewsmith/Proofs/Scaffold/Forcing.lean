import Viewsmith.Proofs.Files.Lacking
import Viewsmith.Proofs.Scaffold.Conflicts
import Viewsmith.Proofs.Scaffold.Overrides

namespace Viewsmith.Scaffold

open Files
open View (Kind)

section

variable {t u : FileTree} {root : String} {f : GeneratedFile} {files : List GeneratedFile}
  {force : Bool} {o : Outcome} {e : Failure}

theorem Admissible.toForce (h : Admissible t root false f) : Admissible t root true f := by
  rw [admissible_iff] at h ⊢
  rcases h with habsent | hextensible | ⟨_, hforce⟩
  · exact .inl habsent
  · exact .inr (.inl hextensible)
  · cases hforce

theorem checkConflicts_force (h : checkConflicts t root false files = .ok ()) :
    checkConflicts t root true files = .ok () := by
  rw [checkConflicts_eq_ok_iff] at h ⊢
  exact fun f hf => (h f hf).toForce

theorem checkConflicts_refused (h : checkConflicts t root true files = .ok ())
    (hfail : checkConflicts t root false files = .error e) :
    files.filter (isInTheWay t root) ≠ [] ∧ e = .refuse (existsMessage (Text.join ", "
      ((files.filter (isInTheWay t root)).map fun f => join root f.path))) := by
  have hextensible : ∀ f ∈ files, ∀ m, f.merge = some m → pathExists t (join root f.path) = true →
      IsExtensible t (join root f.path) m := by
    intro f hf m hm hexists
    rcases (admissible_iff _ _ _ _).mp ((checkConflicts_eq_ok_iff _ _ _ _).mp h f hf) with
      habsent | ⟨m', hm', hextensible⟩ | ⟨hnone, _⟩
    · rw [hexists] at habsent
      cases habsent
    · rw [hm] at hm'
      cases hm'
      exact hextensible
    · rw [hm] at hnone
      cases hnone
  rw [checkConflicts, conflicts_of_isExtensible hextensible] at hfail
  cases hnames : files.filter (isInTheWay t root) with
  | nil =>
      rw [hnames] at hfail
      cases hfail
  | cons f rest =>
      rw [hnames] at hfail
      exact ⟨List.cons_ne_nil _ _, (Except.error.inj hfail).symm⟩

namespace GeneratedFile

theorem writeTo_force_of_merge {m : Merge} (hm : f.merge = some m) :
    f.writeTo t root true = f.writeTo t root false := by
  cases hexists : pathExists t (join root f.path) with
  | false => rw [writeTo_of_absent true hexists, writeTo_of_absent false hexists]
  | true => rw [writeTo_of_merge true hm hexists, writeTo_of_merge false hm hexists]

/-- A file that is no views module is refused where force makes a difference. -/
theorem writeTo_force_cases (t : FileTree) (root : String) (f : GeneratedFile) :
    f.writeTo t root true = f.writeTo t root false ∨
      f.merge = none ∧ pathExists t (join root f.path) = true ∧
        f.writeTo t root false = (t, .error (.refuse (existsMessage (join root f.path)))) := by
  rcases f.writeTo_dispatch t false with ⟨m, hm, _⟩ | ⟨hm, hexists, _, hwrite⟩ | ⟨hnew, _⟩
  · exact .inl (writeTo_force_of_merge hm)
  · exact .inr ⟨hm, hexists, hwrite⟩
  · have habsent : pathExists t (join root f.path) = false := by
      rw [← Bool.not_eq_true]
      exact fun hexists => Bool.false_ne_true (hnew hexists).2
    exact .inl (by rw [writeTo_of_absent true habsent, writeTo_of_absent false habsent])

theorem writeTo_force (h : f.writeTo t root false = (u, .ok o)) :
    f.writeTo t root true = (u, .ok o) := by
  rcases writeTo_force_cases t root f with hsame | ⟨_, _, hrefused⟩
  · rw [hsame, h]
  · rw [h] at hrefused
    cases hrefused

theorem exists_writeTo_force {n : String} {steps : List Component}
    (hp : NamesFile (join root f.path) steps n) (hwhole : f.merge = none)
    (hw : Writable t (join root f.path)) : ∃ u o, f.writeTo t root true = (u, .ok o) := by
  rcases f.writeTo_cases t true hp with ⟨m, hm, _⟩ | ⟨_, _, hforce, _⟩ | ⟨_, ⟨_, o, _, hwrite⟩ | ⟨hnot, _⟩⟩
  · rw [hwhole] at hm
    cases hm
  · cases hforce
  · exact ⟨_, o, hwrite⟩
  · exact absurd hw hnot

theorem writeTo_refused {v : FileTree} (h : f.writeTo t root true = (u, .ok o))
    (hfail : f.writeTo t root false = (v, .error e)) :
    pathExists t (join root f.path) = true ∧ e = .refuse (existsMessage (join root f.path)) := by
  rcases writeTo_force_cases t root f with hsame | ⟨_, hexists, hrefused⟩
  · rw [h, hfail] at hsame
    cases hsame
  · rw [hfail] at hrefused
    cases hrefused
    exact ⟨hexists, rfl⟩

end GeneratedFile

end

end Viewsmith.Scaffold

namespace Viewsmith.Files.Lacks

open Scaffold
open View (Kind)

variable {p : Location} {t u : FileTree} (h : Lacks p t u)

include h

section

variable {path n : String} {steps : List Component}

theorem get?_written (hp : NamesFile path steps n) (hw : Writable t path) (s : String) {l : Location}
    (hl : l = place path ∨ l ≠ p) : (written u path s).get? l = (written t path s).get? l := by
  rw [Scaffold.get?_written hp, Scaffold.get?_written hp]
  by_cases hself : l = place path
  · rw [if_pos hself, if_pos hself]
  · rw [if_neg hself, if_neg hself, opened_of_creatable hw.dir (h.creatable hw.dir),
      h.elsewhere l (hl.resolve_left hself)]

protected theorem written (hp : NamesFile path steps n) (hw : Writable t path)
    (hne : place path ≠ p) (s : String) : Lacks p (written t path s) (written u path s) where
  file := by
    obtain ⟨c, hc⟩ := (isFileAt_iff t p).mp h.file
    exact (isFileAt_iff _ p).mpr ⟨c, get?_written_of_some hp s (Ne.symm hne) hc⟩
  gone := by
    rw [Scaffold.get?_written hp, if_neg (Ne.symm hne),
      opened_of_creatable hw.dir (h.creatable hw.dir), if_neg, h.gone]
    rintro ⟨hopened, _⟩
    exact Bool.false_ne_true ((isFileAt_of_mem_opened hopened).symm.trans h.file)
  elsewhere l hl := h.get?_written hp hw s (.inr hl)

protected theorem put {l : Location} (hne : l ≠ p) (e : Entry) : Lacks p (t.put l e) (u.put l e) where
  file := by
    rw [isFileAt, FileTree.get?_put_of_ne _ _ hne]
    exact h.file
  gone := by rw [FileTree.get?_put_of_ne _ _ hne, h.gone]
  elsewhere m hm := by
    by_cases hl : l = m
    · rw [← hl]
      cases l with
      | nil => rfl
      | cons n l =>
          have hcons := List.cons_ne_nil n l
          rw [FileTree.get?_put_self _ _ hcons, FileTree.get?_put_self _ _ hcons]
    · rw [FileTree.get?_put_of_ne _ _ hl, FileTree.get?_put_of_ne _ _ hl, h.elsewhere m hm]

end

section

variable {root n : String} {steps : List Component} {f : GeneratedFile} {t' : FileTree} {o : Outcome}

/-- What was checked for a views module holds where another file is missing. -/
theorem admissible {force force' : Bool} {m : Merge} (hp : NamesFile (join root f.path) steps n)
    (hne : place (join root f.path) ≠ p) (hm : f.merge = some m)
    (hchecked : Admissible t root force f) : Admissible u root force' f := by
  have hfound := h.sameFound hp.components_eq hne
  intro hexists
  have hbefore := hchecked (hfound.pathExists_eq.symm.trans hexists)
  rw [hm] at hbefore ⊢
  obtain ⟨content, hread, hmissing⟩ := hbefore
  exact ⟨content, (hfound.readText_eq_ok_iff content).mpr hread, hmissing⟩

theorem admissible_missing {force : Bool} (hp : NamesFile (join root f.path) steps n)
    (hplace : place (join root f.path) = p) : Admissible u root force f := by
  intro hexists
  rw [h.pathExists_self hp hplace] at hexists
  cases hexists

theorem writeTo {force : Bool} {m : Merge} (hp : NamesFile (join root f.path) steps n)
    (hne : place (join root f.path) ≠ p) (hm : f.merge = some m)
    (hwrite : f.writeTo t root force = (t', .ok o)) :
    ∃ u', f.writeTo u root force = (u', .ok o) ∧ Lacks p t' u' := by
  have hfound := h.sameFound hp.components_eq hne
  cases hexists : pathExists t (join root f.path) with
  | false =>
      rw [GeneratedFile.writeTo_of_absent force hexists] at hwrite
      rw [GeneratedFile.writeTo_of_absent force (hfound.pathExists_eq.trans hexists)]
      by_cases hw : Writable t (join root f.path)
      · rw [writeWhole_of_writable f hp false hw, Prod.mk.injEq] at hwrite
        obtain ⟨rfl, hcreated⟩ := hwrite
        rw [← hcreated]
        exact ⟨_, writeWhole_of_writable f hp false (h.writable hw), h.written hp hw hne f.content⟩
      · obtain ⟨e, he⟩ := writeWhole_of_not_writable f hp false hw
        rw [he] at hwrite
        cases hwrite
  | true =>
      rw [GeneratedFile.writeTo_of_merge force hm hexists] at hwrite
      rw [GeneratedFile.writeTo_of_merge force hm (hfound.pathExists_eq.trans hexists)]
      cases hread : readText t (join root f.path) with
      | error e =>
          rw [appendTo_of_error m hread] at hwrite
          cases hwrite
      | ok old =>
          obtain ⟨l, hfind, _, _, happend⟩ := appendTo_of_readText m hread
          obtain ⟨l', hfind', _, _, happend'⟩ := appendTo_of_readText m ((hfound.readText_eq_ok_iff old).mpr hread)
          obtain ⟨_, rfl, _⟩ := (Files.find_eq_ok_iff hp _ _).mp hfind
          obtain ⟨_, rfl, _⟩ := (Files.find_eq_ok_iff hp _ _).mp hfind'
          rw [happend, Prod.mk.injEq] at hwrite
          obtain ⟨rfl, hmerged⟩ := hwrite
          rw [← hmerged]
          refine ⟨_, happend', ?_⟩
          split
          · exact h
          · exact h.put hne _

/-- The missing file is new where force would have replaced it. -/
theorem writeTo_missing (hp : NamesFile (join root f.path) steps n)
    (hplace : place (join root f.path) = p) (hm : f.merge = none)
    (hwrite : f.writeTo t root true = (t', .ok o)) :
    ∃ u', f.writeTo u root false = (u', .ok .created) ∧ ∀ l, u'.get? l = t'.get? l := by
  obtain ⟨hw, rfl, _⟩ := GeneratedFile.writeTo_whole_ok hp hm hwrite
  rw [GeneratedFile.writeTo_of_absent false (h.pathExists_self hp hplace)]
  refine ⟨_, writeWhole_of_writable f hp false (h.writable hw), fun l => ?_⟩
  refine h.get?_written hp hw f.content ?_
  rw [hplace]
  exact Decidable.em _

end

/-- A directory of partials holds the same overrides if the missing file is none of them. -/
theorem sameOverrides {dir : String} (hdir : isDirectory t dir = true)
    (hother : ∀ (l : Location) (k : Kind), p ≠ l ++ [k.partialName ++ ".py.hbs"]) :
    SameOverrides t u dir dir := by
  have hfind (k : Kind) : find u (overridePath dir k) = find t (overridePath dir k) := by
    have hc := components_overridePath dir k
    have hwalk := (isDirectory_iff_walk (checkPath_of_isDirectory hdir)).mp hdir
    refine h.find_eq_of_walk hc ?_ hwalk
    rw [place_of_components hc]
    exact Ne.symm (hother _ k)
  refine ⟨?_, fun k => ?_, fun k => ?_⟩
  · rw [hdir, h.isDirectory_of hdir]
  · rw [isFile, isFile, hfind]
  · rw [readText, readText, hfind]

end Viewsmith.Files.Lacks
