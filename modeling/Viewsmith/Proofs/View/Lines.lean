import Mathlib.Data.List.Infix
import Viewsmith.Proofs.View.ModuleText
import Viewsmith.Proofs.View.Naming

namespace Viewsmith.Text

theorem not_mem_join {d : Char} {sep : String} {ss : List String} (hsep : d ∉ sep.toList)
    (h : ∀ s ∈ ss, d ∉ s.toList) : d ∉ (join sep ss).toList := by
  fun_induction join sep ss with
  | case1 => simp
  | case2 s => exact h s (List.mem_singleton_self s)
  | case3 s ss _ ih =>
      rw [List.forall_mem_cons] at h
      rw [String.toList_append, String.toList_append, List.mem_append, List.mem_append, not_or, not_or]
      exact ⟨⟨h.1, hsep⟩, ih h.2⟩

theorem linesFrom_append_feed (line : List Char) {l : List Char} (h : '\n' ∉ l) (rest : List Char) :
    linesFrom line (l ++ '\n' :: rest) = dropReturn (line.reverse ++ l) :: linesFrom [] rest := by
  induction l generalizing line with
  | nil => rw [List.nil_append, linesFrom, if_pos rfl, List.append_nil]
  | cons c l ih =>
      rw [List.mem_cons, not_or] at h
      rw [List.cons_append, linesFrom, if_neg (Ne.symm h.1), ih (c :: line) h.2, List.reverse_cons,
        List.append_assoc, List.singleton_append]

/-- A text that is a line by itself: it neither holds a line feed nor ends in a carriage return. -/
structure IsLine (l : String) : Prop where
  whole : '\n' ∉ l.toList
  bare : l.toList.getLast? ≠ some '\r'

instance (l : String) : Decidable (IsLine l) :=
  decidable_of_iff (_ ∧ _) ⟨fun h => ⟨h.1, h.2⟩, fun h => ⟨h.whole, h.bare⟩⟩

theorem dropReturn_of_getLast? {l : List Char} (h : l.getLast? ≠ some '\r') : dropReturn l = l := by
  unfold dropReturn
  split
  · rename_i rest hrest
    have hlast := congrArg List.head? hrest
    rw [List.head?_reverse] at hlast
    exact absurd hlast h
  · rfl

def behind? (opening line : String) : Option String :=
  (opening.toList.isPrefixOf? line.toList).map String.ofList

def behind (opening text : String) : List String := (lines text).filterMap (behind? opening)

theorem behind?_eq_some_iff {opening line rest : String} :
    behind? opening line = some rest ↔ line = opening ++ rest := by
  rw [behind?, Option.map_eq_some_iff]
  constructor
  · rintro ⟨tail, htail, rfl⟩
    rw [List.isPrefixOf?_eq_some_iff_append_eq] at htail
    rw [← String.toList_inj, String.toList_append, String.toList_ofList, htail]
  · rintro rfl
    exact ⟨rest.toList, by rw [List.isPrefixOf?_eq_some_iff_append_eq, String.toList_append],
      String.ofList_toList⟩

theorem behind?_append (opening rest : String) : behind? opening (opening ++ rest) = some rest :=
  behind?_eq_some_iff.mpr rfl

abbrev Differ (a b : String) : Prop := ¬ a.toList <+: b.toList ∧ ¬ b.toList <+: a.toList

theorem behind?_append_eq_none {a b : String} (h : Differ a b) (x y : String) :
    behind? (a ++ x) (b ++ y) = none := by
  rw [Option.eq_none_iff_forall_ne_some]
  intro rest hrest
  have hlist := congrArg String.toList (behind?_eq_some_iff.mp hrest)
  simp only [String.toList_append, List.append_assoc] at hlist
  rcases List.prefix_or_prefix_of_prefix (List.prefix_append b.toList _)
    (hlist ▸ List.prefix_append a.toList _) with hb | ha
  · exact h.2 hb
  · exact h.1 ha

theorem behind?_eq_none {a b : String} (h : Differ a b) (y : String) : behind? a (b ++ y) = none := by
  have hnone := behind?_append_eq_none h "" y
  rwa [String.append_empty] at hnone

theorem behind?_append_append (x opening line : String) :
    behind? (x ++ opening) (x ++ line) = behind? opening line := by
  ext rest
  rw [behind?_eq_some_iff, behind?_eq_some_iff, String.append_assoc, String.append_right_inj]

section

variable {a b : String}

theorem isLine_of_not_mem (hfeed : '\n' ∉ a.toList) (hreturn : '\r' ∉ a.toList) : IsLine a := by
  refine ⟨hfeed, fun hlast => ?_⟩
  exact hreturn (List.mem_of_getLast? hlast)

theorem isLine_append (ha : '\n' ∉ a.toList) (hb : IsLine b) (hne : b ≠ "") : IsLine (a ++ b) := by
  refine ⟨?_, ?_⟩
  · rw [String.toList_append, List.mem_append, not_or]
    exact ⟨ha, hb.whole⟩
  · have hlist : b.toList ≠ [] := fun h => hne (String.toList_eq_nil_iff.mp h)
    rw [String.toList_append, List.getLast?_append_of_ne_nil _ hlist]
    exact hb.bare

end

end Viewsmith.Text

namespace Viewsmith.View

open Text (Differ IsLine behind behind? isLine_append isLine_of_not_mem)

theorem lines_textOfLines_append {ls : List String} (h : ∀ l ∈ ls, IsLine l) (rest : String) :
    Text.lines (textOfLines ls ++ rest) = ls ++ Text.lines rest := by
  induction ls with
  | nil => rw [textOfLines, String.empty_append, List.nil_append]
  | cons l ls ih =>
      rw [List.forall_mem_cons] at h
      have hfrom := Text.linesFrom_append_feed [] h.1.whole (textOfLines ls ++ rest).toList
      have htext : (textOfLines (l :: ls) ++ rest).toList =
          l.toList ++ '\n' :: (textOfLines ls ++ rest).toList := by
        simp [textOfLines]
      rw [Text.lines, htext, hfrom, List.reverse_nil, List.nil_append,
        Text.dropReturn_of_getLast? h.1.bare, List.map_cons, String.ofList_toList, List.cons_append, ← ih h.2]
      rfl

theorem lines_textOfLines {ls : List String} (h : ∀ l ∈ ls, IsLine l) :
    Text.lines (textOfLines ls) = ls := by
  have hlines := lines_textOfLines_append h ""
  rw [String.append_empty] at hlines
  rw [hlines]
  exact List.append_nil ls

theorem not_mem_viewImports {d : Char} (hsep : d ∉ ", ".toList)
    (h : ∀ k : Kind, d ∉ k.className.toList) (o : Options) : d ∉ o.viewImports.toList := by
  refine Text.not_mem_join hsep fun s hs => ?_
  obtain ⟨k, _, rfl⟩ := List.mem_map.mp hs
  exact h k

theorem viewImports_ne_empty {o : Options} (ho : o.enabled ≠ []) : o.viewImports ≠ "" := by
  rw [Options.viewImports]
  cases hk : o.enabled with
  | nil => exact absurd hk ho
  | cons k ks =>
      have hname : k.className ≠ "" := by cases k <;> decide
      cases ks with
      | nil => exact hname
      | cons l ls =>
          intro hempty
          simp only [List.map_cons, Text.join, String.append_eq_empty_iff] at hempty
          exact hname hempty.1.1

def ownLines (c : Context) : Kind → List String
  | .list => ["    paginate_by = " ++ toString c.paginateBy.toNat]
  | .detail => ["    slug_field = '" ++ c.slugField ++ "'"]
  | .create | .update => ["    form_class = " ++ (c.modelName ++ "Form")]
  | .delete => ["", "    def get_success_url(self):", "        return " ++ c.deleteSuccessUrl]

def openingLine (name base : String) : String := "class " ++ (name ++ ("(" ++ (base ++ "):")))

theorem classLines_eq (c : Context) (k : Kind) : classLines c k =
    ["", "", openingLine (viewClassName c.modelName k.className) k.className,
      "    model = " ++ c.modelName] ++ ownLines c k := by
  cases k
  all_goals
    simp only [classLines, openingLine, viewClassName, ownLines, String.append_assoc]
    rfl

section

variable {c : Context} (hmodel : isClassName c.modelName = true)

include hmodel

theorem isLine_modelName : IsLine c.modelName ∧ c.modelName ≠ "" := by
  refine ⟨isLine_of_not_mem (mark_not_mem hmodel (by decide)) (mark_not_mem hmodel (by decide)), ?_⟩
  intro hempty
  rw [hempty] at hmodel
  exact absurd hmodel (by decide)

theorem isLine_around {a b : String} (ha : '\n' ∉ a.toList) (hb : IsLine b) (hne : b ≠ "") :
    IsLine (a ++ (c.modelName ++ b)) := by
  rw [← String.append_assoc]
  refine isLine_append ?_ hb hne
  exact (isLine_append ha (isLine_modelName hmodel).1 (isLine_modelName hmodel).2).whole

theorem isLine_openingLine (k : Kind) :
    IsLine (openingLine (viewClassName c.modelName k.className) k.className) := by
  rw [openingLine, viewClassName, String.append_assoc]
  refine isLine_around hmodel (by decide) ?_ ?_
  all_goals
    cases k
    all_goals decide

/-- In a view class only its own lines can begin like no class and no model. -/
theorem behind_classText {k : Kind} {opening : String} (hown : ∀ l ∈ ownLines c k, IsLine l)
    (hclass : Differ opening "class ") (hset : Differ opening "    model = ") :
    behind opening (classText c k) = (ownLines c k).filterMap (behind? opening) := by
  have hblank : behind? opening "" = none := by
    rw [Option.eq_none_iff_forall_ne_some]
    intro rest hrest
    have hempty := String.append_eq_empty_iff.mp (Text.behind?_eq_some_iff.mp hrest).symm
    rw [hempty.1] at hclass
    exact hclass.1 List.nil_prefix
  have hlines : ∀ l ∈ classLines c k, IsLine l := by
    have hmodelLine : IsLine ("    model = " ++ c.modelName) :=
      isLine_append (by decide) (isLine_modelName hmodel).1 (isLine_modelName hmodel).2
    rw [classLines_eq, List.forall_mem_append]
    refine ⟨?_, hown⟩
    simp only [List.forall_mem_cons, List.not_mem_nil, false_implies, implies_true, and_true]
    exact ⟨by decide, by decide, isLine_openingLine hmodel k, hmodelLine⟩
  rw [behind, classText_eq, lines_textOfLines hlines, classLines_eq, List.filterMap_append]
  simp only [openingLine, List.filterMap_cons, List.filterMap_nil, hblank,
    Text.behind?_eq_none hclass, Text.behind?_eq_none hset, List.nil_append]

theorem behind_formClass {k : Kind} (hk : k.usesForm = true) :
    behind "    form_class = " (classText c k) = [c.modelName ++ "Form"] := by
  have hown : ownLines c k = ["    form_class = " ++ (c.modelName ++ "Form")] := by
    cases k with
    | create => rfl
    | update => rfl
    | _ => cases hk
  rw [behind_classText hmodel ?_ (by decide) (by decide), hown, List.filterMap_cons, Text.behind?_append]
  · rfl
  · rw [hown, List.forall_mem_singleton]
    exact isLine_around hmodel (by decide) (by decide) (by decide)

theorem behind_return (hurl : IsLine c.deleteSuccessUrl) (hne : c.deleteSuccessUrl ≠ "") :
    behind "        return " (classText c .delete) = [c.deleteSuccessUrl] := by
  have hown : ∀ l ∈ ownLines c .delete, IsLine l := by
    simp only [ownLines, List.forall_mem_cons, List.not_mem_nil, false_implies, implies_true, and_true]
    exact ⟨by decide, by decide, isLine_append (by decide) hurl hne⟩
  rw [behind_classText hmodel hown (by decide) (by decide)]
  simp only [ownLines, List.filterMap_cons, List.filterMap_nil, Text.behind?_append]
  rfl

variable (happ : '\n' ∉ c.appName.toList)

include happ

theorem isLine_modelImport :
    IsLine ("from apps." ++ c.appName ++ ".models import " ++ c.modelName) := by
  refine isLine_append ?_ (isLine_modelName hmodel).1 (isLine_modelName hmodel).2
  simp [happ]

theorem openingLine_mem_lines_formText :
    openingLine (c.modelName ++ "Form") "forms.ModelForm" ∈ Text.lines (formText c) := by
  have hopening : "class " ++ c.modelName ++ "Form(forms.ModelForm):" =
      openingLine (c.modelName ++ "Form") "forms.ModelForm" := by
    simp only [openingLine, String.append_assoc]
    rfl
  have hclass : IsLine ("class " ++ c.modelName ++ "Form(forms.ModelForm):") := by
    rw [String.append_assoc]
    exact isLine_around hmodel (by decide) (by decide) (by decide)
  have hset : IsLine ("        model = " ++ c.modelName) :=
    isLine_append (by decide) (isLine_modelName hmodel).1 (isLine_modelName hmodel).2
  have hlines : ∀ l ∈ formLines c, IsLine l := by
    simp only [formLines, List.forall_mem_cons, List.not_mem_nil, false_implies, implies_true, and_true]
    exact ⟨by decide, by decide, by decide, isLine_modelImport hmodel happ, by decide, by decide, hclass,
      by decide, hset, by decide⟩
  rw [formText_eq, lines_textOfLines hlines, ← hopening]
  simp [formLines]

variable (himports : IsLine c.viewImports) (hsome : c.viewImports ≠ "")

include himports hsome

theorem isLine_of_mem_importLines : ∀ l ∈ importLines c, IsLine l := by
  have hgeneric : IsLine ("from django.views.generic import " ++ c.viewImports) :=
    isLine_append (by decide) himports hsome
  have hforms : IsLine ("from apps." ++ c.appName ++ ".forms." ++ Text.lower c.modelName ++
      " import " ++ c.modelName ++ "Form") := by
    have hlower : '\n' ∉ (Text.lower c.modelName).toList := mark_not_mem_lower hmodel (by decide)
    rw [String.append_assoc]
    refine isLine_around hmodel ?_ (by decide) (by decide)
    simp [happ, hlower]
  rw [importLines, List.forall_mem_append]
  constructor
  · simp only [List.forall_mem_cons, List.not_mem_nil, false_implies, implies_true, and_true]
    exact ⟨by decide, by decide, hgeneric, by decide, isLine_modelImport hmodel happ⟩
  · split
    · rw [List.forall_mem_singleton]
      exact hforms
    · simp

theorem lines_headerText : Text.lines (headerText c) = importLines c := by
  rw [headerText_eq, lines_textOfLines (isLine_of_mem_importLines hmodel happ himports hsome)]

/-- All lines of a header but the first one import something. -/
theorem filter_lines_headerText :
    (Text.lines (headerText c)).filter (fun l => Text.startsWith l "from ") = (importLines c).tail := by
  have hbegins {a : String} (ha : "from ".toList <+: a.toList) (rest : String) :
      Text.startsWith (a ++ rest) "from " = true := by
    rw [Text.startsWith, List.isPrefixOf_iff_prefix, String.toList_append]
    exact ha.trans (List.prefix_append _ _)
  have happs (rest : String) : Text.startsWith ("from apps." ++ rest) "from " = true :=
    hbegins (by decide) rest
  have hall : ∀ l ∈ (importLines c).tail, Text.startsWith l "from " = true := by
    rw [importLines, List.tail_append_of_ne_nil (List.cons_ne_nil _ _), List.forall_mem_append]
    constructor
    · simp only [List.tail_cons, String.append_assoc, List.forall_mem_cons, List.not_mem_nil,
        false_implies, implies_true, and_true]
      exact ⟨by decide, hbegins (by decide) _, by decide, happs _⟩
    · split
      · simp only [String.append_assoc, List.forall_mem_singleton, happs]
      · simp
  rw [lines_headerText hmodel happ himports hsome]
  exact (List.filter_cons_of_neg (by decide)).trans (List.filter_eq_self.mpr hall)

theorem behind_generic :
    behind "from django.views.generic import " (headerText c) = [c.viewImports] := by
  have happs (rest : String) : behind? "from django.views.generic import " ("from apps." ++ rest) = none :=
    Text.behind?_eq_none (by decide) rest
  have hform : (if c.includeForm then
      [ "from apps." ++ c.appName ++ ".forms." ++ Text.lower c.modelName ++ " import " ++
        c.modelName ++ "Form" ] else []).filterMap (behind? "from django.views.generic import ") = [] := by
    split
    · simp only [String.append_assoc, List.filterMap_cons, happs, List.filterMap_nil]
    · rfl
  rw [behind, lines_headerText hmodel happ himports hsome, importLines, List.filterMap_append, hform]
  simp only [String.append_assoc, List.filterMap_cons, happs, List.filterMap_nil, Text.behind?_append]
  rfl

theorem behind_forms : behind ("from apps." ++ (c.appName ++ ".forms.")) (headerText c) =
    if c.includeForm then [Text.lower c.modelName ++ (" import " ++ (c.modelName ++ "Form"))] else [] := by
  have hother {line : String} (h : Differ "from apps." line) :
      behind? ("from apps." ++ (c.appName ++ ".forms.")) line = none := by
    have hnone := Text.behind?_append_eq_none h (c.appName ++ ".forms.") ""
    rwa [String.append_empty] at hnone
  have hgeneric : behind? ("from apps." ++ (c.appName ++ ".forms."))
      ("from django.views.generic import " ++ c.viewImports) = none :=
    Text.behind?_append_eq_none (by decide) _ _
  have hmodels : behind? ("from apps." ++ (c.appName ++ ".forms."))
      ("from apps." ++ (c.appName ++ (".models import " ++ c.modelName))) = none := by
    rw [Text.behind?_append_append, Text.behind?_append_append]
    exact Text.behind?_eq_none (by decide) _
  have hform (rest : String) : behind? ("from apps." ++ (c.appName ++ ".forms."))
      ("from apps." ++ (c.appName ++ (".forms." ++ rest))) = some rest := by
    rw [Text.behind?_append_append, Text.behind?_append_append, Text.behind?_append]
  rw [behind, lines_headerText hmodel happ himports hsome, importLines, List.filterMap_append]
  simp only [String.append_assoc, List.filterMap_cons, List.filterMap_nil, hmodels, hgeneric,
    hother (show Differ "from apps." "# -*- coding: utf-8 -*-" by decide),
    hother (show Differ "from apps." "from __future__ import unicode_literals" by decide),
    hother (show Differ "from apps." "from django.core.urlresolvers import reverse" by decide)]
  split
  · simp only [List.filterMap_cons, List.filterMap_nil, hform, List.nil_append]
  · rfl

end

end Viewsmith.View
