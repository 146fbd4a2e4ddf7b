import Mathlib.Data.List.Forall2
import Viewsmith.Proofs.Routing.Pattern
import Viewsmith.Proofs.Scaffold.Generator
import Viewsmith.Proofs.View.Naming

namespace Viewsmith.View

open Routing

inductive Segment
  | word (w : List Char)
  | chars (p : CharClass)

namespace Segment

def items : Segment → List Item
  | .word w => literal w
  | .chars p => [.many p]

def Fits (d : Digits) : Segment → List Char → Prop
  | .word w, part => part = w
  | .chars p, part => part ≠ [] ∧ ∀ c ∈ part, p.has d c = true

def SlashFree (d : Digits) : Segment → Prop
  | .word w => '/' ∉ w
  | .chars p => p.has d '/' = false

theorem Fits.slash_not_mem {d : Digits} {s : Segment} {part : List Char} (h : s.Fits d part)
    (hs : s.SlashFree d) : '/' ∉ part := by
  cases s with
  | word w =>
      rw [show part = w from h]
      exact hs
  | chars p =>
      intro hmem
      have hslash : p.has d '/' = true := h.2 '/' hmem
      rw [show p.has d '/' = false from hs] at hslash
      cases hslash

end Segment

def closedItems (segs : List Segment) : List Item :=
  segs.flatMap (fun s => s.items ++ literal ['/']) ++ [.finish]

def slashed (parts : List (List Char)) : List Char := parts.flatMap (· ++ ['/'])

section

variable {d : Digits} {first : Bool} {cs : List Char}

theorem fits_segment {s : Segment} {items : List Item} :
    fits d first (s.items ++ literal ['/'] ++ items) cs = true ↔
      ∃ part after, s.Fits d part ∧ cs = part ++ '/' :: after ∧ fits d false items after = true := by
  have hslash (first : Bool) (cs : List Char) :
      fits d first (literal ['/'] ++ items) cs = true ↔
        ∃ after, cs = '/' :: after ∧ fits d false items after = true := by
    rw [fits_literal, List.isEmpty_cons, Bool.and_false]
    rfl
  rw [List.append_assoc]
  cases s with
  | word w =>
      rw [Segment.items, fits_literal]
      constructor
      · rintro ⟨rest, rfl, hrest⟩
        obtain ⟨after, rfl, hafter⟩ := (hslash _ _).mp hrest
        exact ⟨w, after, rfl, rfl, hafter⟩
      · rintro ⟨part, after, rfl, rfl, hafter⟩
        exact ⟨'/' :: after, rfl, (hslash _ _).mpr ⟨after, rfl, hafter⟩⟩
  | chars p =>
      rw [Segment.items, List.singleton_append, fits, someThen_iff]
      constructor
      · rintro ⟨part, rest, hne, hpart, rfl, hrest⟩
        obtain ⟨after, rfl, hafter⟩ := (hslash _ _).mp hrest
        exact ⟨part, after, ⟨hne, hpart⟩, rfl, hafter⟩
      · rintro ⟨part, after, ⟨hne, hpart⟩, rfl, hafter⟩
        exact ⟨part, '/' :: after, hne, hpart, rfl, (hslash _ _).mpr ⟨after, rfl, hafter⟩⟩

theorem fits_closedItems {segs : List Segment} : fits d first (closedItems segs) cs = true ↔
    ∃ parts ending, List.Forall₂ (Segment.Fits d) segs parts ∧ (ending = [] ∨ ending = ['\n']) ∧
      cs = slashed parts ++ ending := by
  induction segs generalizing first cs with
  | nil => simp [closedItems, fits, slashed]
  | cons s segs ih =>
      have hitems : closedItems (s :: segs) = s.items ++ literal ['/'] ++ closedItems segs := by
        simp [closedItems]
      rw [hitems, fits_segment]
      constructor
      · rintro ⟨part, after, hpart, rfl, hafter⟩
        obtain ⟨parts, ending, hparts, hending, rfl⟩ := ih.mp hafter
        exact ⟨part :: parts, ending, .cons hpart hparts, hending, by simp [slashed]⟩
      · rintro ⟨all, ending, hall, hending, rfl⟩
        obtain ⟨part, parts, hpart, hparts, rfl⟩ := List.forall₂_cons_left_iff.mp hall
        exact ⟨part, slashed parts ++ ending, hpart, by simp [slashed],
          ih.mpr ⟨parts, ending, hparts, hending, rfl⟩⟩

end

theorem pieces_slashed {parts : List (List Char)} {ending : List Char}
    (hparts : ∀ part ∈ parts, '/' ∉ part) (hending : '/' ∉ ending) :
    Text.pieces '/' (slashed parts ++ ending) = parts ++ [ending] := by
  induction parts with
  | nil => exact Text.pieces_of_not_mem hending
  | cons part parts ih =>
      rw [List.forall_mem_cons] at hparts
      have hslashed : slashed (part :: parts) ++ ending = part ++ '/' :: (slashed parts ++ ending) := by
        simp [slashed]
      rw [hslashed, Text.pieces_append_cons, Text.pieces_of_not_mem hparts.1, ih hparts.2]
      rfl

def slugClass : CharClass := .among [('-', '-'), ('a', 'z'), ('A', 'Z'), ('0', '9'), ('_', '_')]

def lookupClass (slugField : String) : CharClass :=
  if slugField = "" || slugField = "pk" || slugField = "id" then .digit else slugClass

def viewSegments (slugField : String) : Kind → List Segment
  | .list => []
  | .detail => [.chars (lookupClass slugField)]
  | .create => [.word "create".toList]
  | .update => [.word "update".toList, .chars .digit]
  | .delete => [.word "delete".toList, .chars .digit]

def modelSegment (model : String) : Segment := .word (Text.lower model).toList

theorem scan_routeTail (slugField : String) (k : Kind) :
    ∃ ts, scan .plain (routeTail slugField k).toList = some ts ∧ ts.head? ≠ some .plus ∧
      grouped false ts = some (literal ['/'] ++ closedItems (viewSegments slugField k)) := by
  cases k with
  | detail =>
      rw [routeTail, viewSegments, lookupGroup, lookupClass]
      split
      · exact ⟨_, rfl, head_one_ne_plus _ _, rfl⟩
      · exact ⟨_, rfl, head_one_ne_plus _ _, rfl⟩
  | list | create | update | delete =>
      rw [routeTail, viewSegments]
      exact ⟨_, rfl, head_one_ne_plus _ _, rfl⟩

theorem mem_marks_of_reserved : ∀ c ∈ reserved, c ∈ marks := by simp [reserved, marks]

/-- A pattern is read as the segments of its view behind the one of the model. -/
theorem items?_routeFor {model : String} (h : isClassName model = true) (slugField : String)
    (k : Kind) : items? (routeFor model slugField k).regex =
      some (.start :: closedItems (modelSegment model :: viewSegments slugField k)) := by
  obtain ⟨ts, hscan, hplus, hgrouped⟩ := scan_routeTail slugField k
  have hregex : (routeFor model slugField k).regex.toList =
      '^' :: ((Text.lower model).toList ++ (routeTail slugField k).toList) := by
    simp [routeFor, String.toList_append]
  have hitems : closedItems (modelSegment model :: viewSegments slugField k) =
      literal (Text.lower model).toList ++
        (literal ['/'] ++ closedItems (viewSegments slugField k)) := by
    simp [closedItems, modelSegment, Segment.items]
  have hplain : ∀ c ∈ (Text.lower model).toList, c ∉ reserved :=
    fun c hc hmark => mark_not_mem_lower h (mem_marks_of_reserved c hmark) hc
  rw [items?, hregex, scan, scan_literal hplain, hscan, hitems]
  simp only [Option.map_some, Option.bind_some]
  rw [grouped, grouped_literal hplus, hgrouped]
  rfl

def Route.accepts (d : Digits) (r : Route) (path : String) : Bool := matchesPath d r.regex path

/-- The route that a path leads to: patterns are tried in their order. -/
def firstAccepting (d : Digits) (rs : List Route) (path : String) : Option Route :=
  rs.find? (·.accepts d path)

section

variable {d : Digits} {model slugField : String} {k l : Kind} {path : String}

theorem accepts_routeFor_iff (h : isClassName model = true) :
    (routeFor model slugField k).accepts d path = true ↔
      ∃ parts ending, List.Forall₂ (Segment.Fits d) (viewSegments slugField k) parts ∧
        (ending = [] ∨ ending = ['\n']) ∧
        path.toList = slashed ((Text.lower model).toList :: parts) ++ ending := by
  rw [Route.accepts, matchesPath, items?_routeFor h]
  simp only [search_start, fits_closedItems, List.forall₂_cons_left_iff, modelSegment, Segment.Fits]
  constructor
  · rintro ⟨_, ending, ⟨_, parts, rfl, hparts, rfl⟩, hending, hpath⟩
    exact ⟨parts, ending, hparts, hending, hpath⟩
  · rintro ⟨parts, ending, hparts, hending, hpath⟩
    exact ⟨_, ending, ⟨_, parts, rfl, hparts, rfl⟩, hending, hpath⟩

def FindsBySlug (slugField : String) : Prop := slugField ∉ ["", "pk", "id"]

instance (slugField : String) : Decidable (FindsBySlug slugField) :=
  inferInstanceAs (Decidable (slugField ∉ ["", "pk", "id"]))

theorem lookupClass_of_findsBySlug (h : FindsBySlug slugField) :
    lookupClass slugField = slugClass := by
  simp only [FindsBySlug, List.mem_cons, List.not_mem_nil, or_false, not_or] at h
  simp [lookupClass, h]

theorem lookupClass_of_not_findsBySlug (h : ¬ FindsBySlug slugField) :
    lookupClass slugField = .digit := by
  simp only [FindsBySlug, List.mem_cons, List.not_mem_nil, or_false, not_not] at h
  rcases h with rfl | rfl | rfl <;> rfl

theorem not_has_slash_digit : CharClass.digit.has d '/' = false := d.ascii '/' (by decide)

theorem not_has_slash_lookup : (lookupClass slugField).has d '/' = false := by
  by_cases h : FindsBySlug slugField
  · rw [lookupClass_of_findsBySlug h]
    rfl
  · rw [lookupClass_of_not_findsBySlug h]
    exact not_has_slash_digit

theorem create_fits_lookup_iff :
    (Segment.chars (lookupClass slugField)).Fits d "create".toList ↔ FindsBySlug slugField := by
  constructor
  · rintro ⟨-, hchars⟩
    by_contra h
    rw [lookupClass_of_not_findsBySlug h] at hchars
    have hdigit : d.has 'c' = true := hchars 'c' (by decide)
    rw [d.ascii 'c' (by decide)] at hdigit
    cases hdigit
  · intro h
    rw [lookupClass_of_findsBySlug h]
    exact ⟨by decide, by simp [slugClass, CharClass.has]⟩

end

section

variable {d : Digits} {slugField : String} {k l : Kind} {parts : List (List Char)}

theorem slash_not_mem_of_fits {segs : List Segment} (hsegs : ∀ s ∈ segs, s.SlashFree d)
    (h : List.Forall₂ (Segment.Fits d) segs parts) : ∀ part ∈ parts, '/' ∉ part := by
  induction h with
  | nil => exact fun _ hmem => absurd hmem List.not_mem_nil
  | cons hpart _ ih =>
      rw [List.forall_mem_cons] at hsegs ⊢
      exact ⟨hpart.slash_not_mem hsegs.1, ih hsegs.2⟩

theorem slashFree_viewSegments : ∀ s ∈ viewSegments slugField k, s.SlashFree d := by
  have hdigit : (Segment.chars .digit).SlashFree d := not_has_slash_digit
  cases k with
  | list => exact fun _ hs => absurd hs List.not_mem_nil
  | detail => exact List.forall_mem_singleton.mpr not_has_slash_lookup
  | create => simp [viewSegments, Segment.SlashFree]
  | update | delete => simpa [viewSegments, Segment.SlashFree] using hdigit

theorem pair_of_length_eq (hne : k ≠ l)
    (h : (viewSegments slugField k).length = (viewSegments slugField l).length) :
    (k = .detail ∧ l = .create) ∨ (k = .create ∧ l = .detail) ∨
      (k = .update ∧ l = .delete) ∨ (k = .delete ∧ l = .update) := by
  revert hne h
  cases k <;> cases l <;> simp [viewSegments]

/-- Parts fit the segments of two views only if both are the part that the create view has. -/
theorem fits_two_iff (hne : k ≠ l) :
    (List.Forall₂ (Segment.Fits d) (viewSegments slugField k) parts ∧
      List.Forall₂ (Segment.Fits d) (viewSegments slugField l) parts) ↔
    FindsBySlug slugField ∧ ((k = .detail ∧ l = .create) ∨ (k = .create ∧ l = .detail)) ∧
      parts = ["create".toList] := by
  have hcreate : List.Forall₂ (Segment.Fits d) (viewSegments slugField .create) parts ↔
      parts = ["create".toList] := by
    simp [viewSegments, List.forall₂_cons_left_iff, Segment.Fits]
  have hdetail : List.Forall₂ (Segment.Fits d) (viewSegments slugField .detail)
      ["create".toList] ↔ FindsBySlug slugField := by
    rw [viewSegments, List.forall₂_cons, create_fits_lookup_iff]
    exact and_iff_left .nil
  have hapart : ¬ (List.Forall₂ (Segment.Fits d) (viewSegments slugField .update) parts ∧
      List.Forall₂ (Segment.Fits d) (viewSegments slugField .delete) parts) := by
    rintro ⟨hupdate, hdelete⟩
    obtain ⟨part, rest, hpart, -, rfl⟩ := List.forall₂_cons_left_iff.mp hupdate
    obtain ⟨part', rest', hpart', -, heq⟩ := List.forall₂_cons_left_iff.mp hdelete
    have hwords : "update".toList = "delete".toList :=
      hpart.symm.trans ((List.cons.inj heq).1.trans hpart')
    exact absurd hwords (by decide)
  constructor
  · rintro ⟨hk, hl⟩
    rcases pair_of_length_eq hne (hk.length_eq.trans hl.length_eq.symm) with
      ⟨rfl, rfl⟩ | ⟨rfl, rfl⟩ | ⟨rfl, rfl⟩ | ⟨rfl, rfl⟩
    · rw [hcreate.mp hl] at hk ⊢
      exact ⟨hdetail.mp hk, .inl ⟨rfl, rfl⟩, rfl⟩
    · rw [hcreate.mp hk] at hl ⊢
      exact ⟨hdetail.mp hl, .inr ⟨rfl, rfl⟩, rfl⟩
    · exact absurd ⟨hk, hl⟩ hapart
    · exact absurd ⟨hl, hk⟩ hapart
  · rintro ⟨hslug, ⟨rfl, rfl⟩ | ⟨rfl, rfl⟩, rfl⟩
    · exact ⟨hdetail.mpr hslug, hcreate.mpr rfl⟩
    · exact ⟨hcreate.mpr rfl, hdetail.mpr hslug⟩

end

/-- The path of the create view, and the same path with a line feed, which `$` lets pass. -/
def createPaths (model : String) : List String :=
  [Text.lower model ++ "/create/", Text.lower model ++ "/create/\n"]

section

variable {d : Digits} {model slugField path : String} {k l : Kind} {o : Options} {r s : Route}

theorem mem_createPaths_iff : path ∈ createPaths model ↔ ∃ ending, (ending = [] ∨ ending = ['\n']) ∧
    path.toList = slashed [(Text.lower model).toList, "create".toList] ++ ending := by
  simp [createPaths, ← String.toList_inj, slashed]

theorem accepts_both_iff (d : Digits) (slugField path : String) (h : isClassName model = true)
    (hne : k ≠ l) :
    ((routeFor model slugField k).accepts d path = true ∧
      (routeFor model slugField l).accepts d path = true) ↔
    FindsBySlug slugField ∧ ((k = .detail ∧ l = .create) ∨ (k = .create ∧ l = .detail)) ∧
      path ∈ createPaths model := by
  rw [mem_createPaths_iff, accepts_routeFor_iff h, accepts_routeFor_iff h]
  constructor
  · rintro ⟨⟨parts, ending, hk, hending, hpath⟩, parts', ending', hl, hending', hpath'⟩
    -- No part has a slash, so the path determines its parts, whichever view it is read for.
    have hslash {ending : List Char} (h : ending = [] ∨ ending = ['\n']) : '/' ∉ ending := by
      rcases h with rfl | rfl <;> decide
    have hmodel {parts : List (List Char)} (hparts : ∀ part ∈ parts, '/' ∉ part) :
        ∀ part ∈ (Text.lower model).toList :: parts, '/' ∉ part :=
      List.forall_mem_cons.mpr ⟨mark_not_mem_lower h (by decide), hparts⟩
    have hpieces := pieces_slashed (hmodel (slash_not_mem_of_fits slashFree_viewSegments hk))
      (hslash hending)
    have hpieces' := pieces_slashed (hmodel (slash_not_mem_of_fits slashFree_viewSegments hl))
      (hslash hending')
    rw [← hpath', hpath, hpieces] at hpieces'
    obtain ⟨hparts, -⟩ := List.append_inj' hpieces' rfl
    rw [← (List.cons.inj hparts).2] at hl
    obtain ⟨hslug, hkinds, rfl⟩ := (fits_two_iff hne).mp ⟨hk, hl⟩
    exact ⟨hslug, hkinds, ending, hending, hpath⟩
  · rintro ⟨hslug, hkinds, ending, hending, hpath⟩
    obtain ⟨hk, hl⟩ := (fits_two_iff (d := d) hne).mpr ⟨hslug, hkinds, rfl⟩
    exact ⟨⟨_, ending, hk, hending, hpath⟩, _, ending, hl, hending, hpath⟩

theorem mem_routes_iff : r ∈ routes model slugField o ↔
    o.has r.kind = true ∧ r = routeFor model slugField r.kind := by
  rw [routes, List.mem_map]
  constructor
  · rintro ⟨k, hk, rfl⟩
    exact ⟨(o.mem_enabled k).mp hk, rfl⟩
  · rintro ⟨hr, heq⟩
    exact ⟨r.kind, (o.mem_enabled _).mpr hr, heq.symm⟩

theorem kinds_sublist : ((routes model slugField o).map Route.kind).Sublist Kind.all := by
  have hkinds : (routes model slugField o).map Route.kind = o.enabled := by
    rw [routes, List.map_map]
    exact List.map_id _
  rw [hkinds]
  exact List.filter_sublist

theorem routes_accept_both_iff (h : isClassName model = true) (hr : r ∈ routes model slugField o)
    (hs : s ∈ routes model slugField o) (hne : r ≠ s) :
    (r.accepts d path = true ∧ s.accepts d path = true) ↔ FindsBySlug slugField ∧
      ((r.kind = .detail ∧ s.kind = .create) ∨ (r.kind = .create ∧ s.kind = .detail)) ∧
      path ∈ createPaths model := by
  obtain ⟨-, hr⟩ := mem_routes_iff.mp hr
  obtain ⟨-, hs⟩ := mem_routes_iff.mp hs
  have hkinds : r.kind ≠ s.kind := by
    intro heq
    rw [heq] at hr
    exact hne (hr.trans hs.symm)
  have hiff := accepts_both_iff d slugField path h hkinds
  rwa [← hr, ← hs] at hiff

/-- A route that a path leads to comes before all others that match it. -/
theorem kinds_sublist_of_firstAccepting (hr : firstAccepting d (routes model slugField o) path = some r)
    (hs : s ∈ routes model slugField o) (hpath : s.accepts d path = true) (hne : s ≠ r) :
    [r.kind, s.kind].Sublist Kind.all := by
  obtain ⟨-, before, after, hroutes, hbefore⟩ := List.find?_eq_some_iff_append.mp hr
  rw [hroutes, List.mem_append, List.mem_cons] at hs
  rcases hs with hs | rfl | hs
  · have hnot := hbefore s hs
    rw [hpath] at hnot
    cases hnot
  · exact absurd rfl hne
  · have hpair : [r, s].Sublist (routes model slugField o) := by
      rw [hroutes]
      exact (List.cons_sublist_cons.mpr (List.singleton_sublist.mpr hs)).trans
        (List.sublist_append_right before (r :: after))
    exact (hpair.map Route.kind).trans kinds_sublist

theorem accepts_create_iff (h : isClassName model = true) :
    (routeFor model slugField .create).accepts d path = true ↔ path ∈ createPaths model := by
  rw [mem_createPaths_iff, accepts_routeFor_iff h]
  simp [viewSegments, List.forall₂_cons_left_iff, Segment.Fits]

/-- A path leads to the view whose pattern it matches, unless that is the create view and the
detail view takes its path for a slug. -/
theorem firstAccepting_eq_some_iff (h : isClassName model = true) (hr : r ∈ routes model slugField o)
    (hpath : r.accepts d path = true) : firstAccepting d (routes model slugField o) path = some r ↔
      ¬ (r.kind = .create ∧ FindsBySlug slugField ∧ o.detail = true) := by
  have horder : ¬ [Kind.create, Kind.detail].Sublist Kind.all := by decide
  constructor
  · -- A create route that came first would stand before the detail route, which matches as well.
    rintro hfirst ⟨hcreate, hslug, hdetail⟩
    have hs : routeFor model slugField .detail ∈ routes model slugField o :=
      mem_routes_iff.mpr ⟨hdetail, rfl⟩
    have hne : r ≠ routeFor model slugField .detail := by
      intro heq
      rw [heq] at hcreate
      cases hcreate
    rw [(mem_routes_iff.mp hr).2, hcreate, accepts_create_iff h] at hpath
    have hboth := (routes_accept_both_iff (d := d) h hr hs hne).mpr
      ⟨hslug, .inr ⟨hcreate, rfl⟩, hpath⟩
    have hkinds := kinds_sublist_of_firstAccepting hfirst hs hboth.2 hne.symm
    rw [hcreate] at hkinds
    exact horder hkinds
  · intro hfree
    cases hfirst : firstAccepting d (routes model slugField o) path with
    | none => exact absurd hpath (List.find?_eq_none.mp hfirst r hr)
    | some s =>
        have hs : s ∈ routes model slugField o := List.mem_of_find?_eq_some hfirst
        have haccepts : s.accepts d path = true :=
          List.find?_some (p := fun r : Route => r.accepts d path) hfirst
        by_cases hne : r = s
        · rw [hne]
        · obtain ⟨hslug, ⟨hdetail, hcreate⟩ | ⟨hcreate, hdetail⟩, -⟩ :=
            (routes_accept_both_iff h hr hs hne).mp ⟨hpath, haccepts⟩
          · have hkinds := kinds_sublist_of_firstAccepting hfirst hr hpath hne
            rw [hdetail, hcreate] at hkinds
            exact absurd hkinds horder
          · have hselected := (mem_routes_iff.mp hs).1
            rw [hdetail] at hselected
            exact absurd ⟨hcreate, hslug, hselected⟩ hfree

end

theorem exists_accepts_routeFor (d : Digits) {model : String} (h : isClassName model = true)
    (slugField : String) (k : Kind) :
    ∃ path, (routeFor model slugField k).accepts d path = true := by
  have hdigit : (Segment.chars .digit).Fits d ['1'] := by
    have hone : d.has '1' = true := d.ascii '1' (by decide)
    exact ⟨by decide, List.forall_mem_singleton.mpr hone⟩
  have hlookup : (Segment.chars (lookupClass slugField)).Fits d ['1'] := by
    by_cases hslug : FindsBySlug slugField
    · rw [lookupClass_of_findsBySlug hslug]
      exact ⟨by decide, List.forall_mem_singleton.mpr rfl⟩
    · rw [lookupClass_of_not_findsBySlug hslug]
      exact hdigit
  have hparts : ∃ parts, List.Forall₂ (Segment.Fits d) (viewSegments slugField k) parts := by
    cases k with
    | list => exact ⟨_, .nil⟩
    | detail => exact ⟨_, .cons hlookup .nil⟩
    | create => exact ⟨_, .cons rfl .nil⟩
    | update | delete => exact ⟨_, .cons rfl (.cons hdigit .nil)⟩
  obtain ⟨parts, hparts⟩ := hparts
  refine ⟨String.ofList (slashed ((Text.lower model).toList :: parts)), ?_⟩
  exact (accepts_routeFor_iff h).mpr ⟨parts, [], hparts, .inl rfl, by simp⟩

/-- No path is matched by the patterns of two views of a model, but for that of the create view
where the detail view finds its object by a slug: `create` is a slug. So every path leads to the
view whose pattern it matches, apart from the create view behind such a detail view. -/
theorem routes_overlap_only_at_create (d : Digits) (g : Scaffold.Generator) {input : String}
    (h : Target.parse input = .ok g.target) :
    (∀ r ∈ g.routes, ∀ s ∈ g.routes, r ≠ s → ∀ path,
      ((r.accepts d path = true ∧ s.accepts d path = true) ↔
        FindsBySlug g.context.slugField ∧
        ((r.kind = .detail ∧ s.kind = .create) ∨ (r.kind = .create ∧ s.kind = .detail)) ∧
        path ∈ createPaths g.target.modelName)) ∧
    ∀ r ∈ g.routes, (∃ path, r.accepts d path = true) ∧
      ∀ path, r.accepts d path = true → (firstAccepting d g.routes path = some r ↔
        ¬ (r.kind = .create ∧ FindsBySlug g.context.slugField ∧
          g.context.options.detail = true)) := by
  obtain ⟨-, hmodel⟩ := target_of_parse h
  refine ⟨fun r hr s hs hne path => routes_accept_both_iff hmodel hr hs hne,
    fun r hr => ⟨?_, fun path hpath => firstAccepting_eq_some_iff hmodel hr hpath⟩⟩
  rw [(mem_routes_iff.mp hr).2]
  exact exists_accepts_routeFor d hmodel _ _

theorem routes_overlap_only_at_create_post : ∃ g,
    Scaffold.Generator.create ⟨[]⟩ ⟨"blog", "Post"⟩ .all {} "/" = .ok g ∧
    Target.parse "blog:Post" = .ok g.target ∧
    ∀ r ∈ g.routes, r.accepts asciiDigits "post/update/7/" = true →
      (firstAccepting asciiDigits g.routes "post/update/7/" = some r ↔
        ¬ (r.kind = .create ∧ FindsBySlug g.context.slugField ∧
          g.context.options.detail = true)) := by
  obtain ⟨g, hcreate, htarget, -⟩ := Scaffold.Generator.create_builtin ⟨[]⟩ ⟨"blog", "Post"⟩
    .all {} "/" (by decide) rfl
  have hparse : Target.parse "blog:Post" = .ok g.target := by
    rw [htarget, parse_post]
  exact ⟨g, hcreate, hparse, fun r hr hpath =>
    ((routes_overlap_only_at_create asciiDigits g hparse).2 r hr).2 _ hpath⟩

/-- With the settings that a project has by default, the detail view takes the path of the create
view. -/
theorem detail_takes_create_path : ∃ g,
    Scaffold.Generator.create ⟨[]⟩ ⟨"blog", "Post"⟩ { detail := true, create := true } {} "/" =
      .ok g ∧
    Target.parse "blog:Post" = .ok g.target ∧
    ∃ r ∈ g.routes, ∃ s ∈ g.routes, r ≠ s ∧ r.kind = .detail ∧ s.kind = .create ∧ ∀ d : Digits,
      r.accepts d "post/create/" = true ∧ s.accepts d "post/create/" = true ∧
      firstAccepting d g.routes "post/create/" = some r := by
  obtain ⟨g, hcreate, htarget, hcontext⟩ := Scaffold.Generator.create_builtin ⟨[]⟩ ⟨"blog", "Post"⟩
    { detail := true, create := true } {} "/" (by decide) rfl
  have hroutes : g.routes = routes "Post" "slug" { detail := true, create := true } := by
    rw [Scaffold.Generator.routes, htarget, hcontext]
    rfl
  have hmodel : isClassName "Post" = true := (target_of_parse parse_post).2
  have hdetail : routeFor "Post" "slug" .detail ∈ g.routes := by
    rw [hroutes]
    exact mem_routes_iff.mpr ⟨rfl, rfl⟩
  have hcreate' : routeFor "Post" "slug" .create ∈ g.routes := by
    rw [hroutes]
    exact mem_routes_iff.mpr ⟨rfl, rfl⟩
  have hboth (d : Digits) := (accepts_both_iff d "slug" "post/create/" hmodel
    (show Kind.detail ≠ .create by decide)).mpr
      ⟨by decide, .inl ⟨rfl, rfl⟩, by decide⟩
  have hne : routeFor "Post" "slug" .detail ≠ routeFor "Post" "slug" .create :=
    fun heq => absurd (congrArg Route.kind heq) (by decide)
  refine ⟨g, hcreate, ?_, _, hdetail, _, hcreate', hne, rfl, rfl, fun d =>
    ⟨(hboth d).1, (hboth d).2, ?_⟩⟩
  · rw [htarget, parse_post]
  · rw [hroutes] at hdetail ⊢
    exact (firstAccepting_eq_some_iff hmodel hdetail (hboth d).1).mpr (by simp [routeFor])

end Viewsmith.View
