import Viewsmith.Proofs.Text.Occurrences
import Viewsmith.Proofs.View.Fields
import Viewsmith.Proofs.View.Naming
import Viewsmith.Scaffold.Generated

namespace Viewsmith.Scaffold

open View

def classCount (model : String) (k : Kind) (text : String) : Nat :=
  Text.occurrences (classOpening (viewClassName model k.className)).toList text.toList

theorem toList_classOpening (model base : String) :
    (classOpening (viewClassName model base)).toList =
      "class ".toList ++ (model.toList ++ base.toList) ++ ['('] := by
  simp only [classOpening, viewClassName, String.toList_append]
  rfl

theorem toList_classOpening_ne_nil (model base : String) :
    (classOpening (viewClassName model base)).toList ≠ [] := by
  rw [toList_classOpening]
  simp

def separators : List Char := ['\n', '\'', '=', ':', '.']

theorem mem_marks_of_separator : ∀ d ∈ separators, d ∈ marks := by simp [separators, marks]

theorem eq_of_className_suffix (k l : Kind) (h : k.className.toList <:+ l.className.toList) :
    k = l := by
  revert h
  cases k <;> cases l <;> decide

/-- A class name tells its model and its kind. -/
theorem append_className_injective {a b : List Char} {k l : Kind}
    (h : a ++ k.className.toList = b ++ l.className.toList) : a = b ∧ k = l := by
  have hk : k.className.toList <:+ b ++ l.className.toList := ⟨a, h⟩
  have hkl : k = l := by
    rcases List.suffix_or_suffix_of_suffix hk (List.suffix_append b l.className.toList) with hs | hs
    · exact eq_of_className_suffix k l hs
    · exact (eq_of_className_suffix l k hs).symm
  subst hkl
  exact ⟨List.append_cancel_right h, rfl⟩

section

variable {model : String} (k : Kind)

theorem not_mem_classOpening (hmodel : isClassName model = true) {d : Char} (hd : d ∈ separators) :
    d ∉ (classOpening (viewClassName model k.className)).toList := by
  have hm : d ∉ model.toList :=
    mark_not_mem hmodel (mem_marks_of_separator d hd)
  rw [toList_classOpening]
  simp only [separators, List.mem_cons, List.not_mem_nil, or_false] at hd
  rcases hd with rfl | rfl | rfl | rfl | rfl
  all_goals
    simp only [List.mem_append, hm, false_or, not_or]
    exact ⟨⟨by decide, by cases k <;> decide⟩, by decide⟩

theorem classCount_of_no_bracket {text : String} (h : '(' ∉ text.toList) :
    classCount model k text = 0 := by
  refine Text.occurrences_of_not_mem ?_ h
  rw [toList_classOpening]
  simp

/-- Every class name ends in `View`. -/
theorem classCount_of_no_capital {text : String} (h : 'V' ∉ text.toList) :
    classCount model k text = 0 := by
  refine Text.occurrences_of_not_mem ?_ h
  rw [toList_classOpening, List.mem_append, List.mem_append, List.mem_append]
  exact .inl (.inr (.inr (by cases k <;> decide)))

theorem classCount_of_no_class {text : String} (h : Text.contains text "class " = false) :
    classCount model k text = 0 := by
  rw [Text.contains_eq_false_iff (by decide)] at h
  refine Text.occurrences_mono (by decide) ?_ h
  rw [toList_classOpening, List.append_assoc]
  exact List.prefix_append _ _

theorem suffix_className_iff {other : String} (hother : isClassName other = true) (l : Kind) :
    "class ".toList ++ (model.toList ++ k.className.toList) <:+
        "class ".toList ++ (other.toList ++ l.className.toList) ↔
      other = model ∧ l = k := by
  have hspace : ' ' ∉ other.toList ++ l.className.toList := by
    rw [List.mem_append, not_or]
    exact ⟨mark_not_mem hother (by decide), by cases l <;> decide⟩
  constructor
  · rintro ⟨before, h⟩
    have hclass : "class ".toList = "class".toList ++ [' '] := rfl
    have hbegins : before ++ "class".toList ++ [' '] <+:
        "class".toList ++ ' ' :: (other.toList ++ l.className.toList) :=
      ⟨model.toList ++ k.className.toList, by simpa [hclass] using h⟩
    have hsame : before ++ "class".toList = "class".toList :=
      (Text.append_singleton_prefix_iff (by decide) hspace).mp hbegins
    obtain rfl : before = [] := by
      have hlength := congrArg List.length hsame
      rw [List.length_append] at hlength
      exact List.length_eq_zero_iff.mp (by omega)
    rw [List.nil_append, List.append_right_inj] at h
    obtain ⟨hm, rfl⟩ := append_className_injective h
    exact ⟨String.toList_inj.mp hm.symm, rfl⟩
  · rintro ⟨rfl, rfl⟩
    exact List.suffix_refl _

theorem classCount_classLine {other : String} (hother : isClassName other = true) (l : Kind) :
    classCount model k ("class " ++ (other ++ (l.className ++ ("(" ++ (l.className ++ "):"))))) =
      if other = model ∧ l = k then 1 else 0 := by
  have htext : ("class " ++ (other ++ (l.className ++ ("(" ++ (l.className ++ "):"))))).toList =
      ("class ".toList ++ (other.toList ++ l.className.toList)) ++ '(' ::
        (l.className.toList ++ "):".toList) := by
    simp [String.toList_append]
  have hbefore : '(' ∉ "class ".toList ++ (other.toList ++ l.className.toList) := by
    rw [List.mem_append, List.mem_append, not_or, not_or]
    exact ⟨by decide, mark_not_mem hother (by decide), by cases l <;> decide⟩
  have hbehind : '(' ∉ l.className.toList ++ "):".toList := by cases l <;> decide
  rw [classCount, htext, toList_classOpening, Text.occurrences_of_once hbefore hbehind]
  simp only [suffix_className_iff k hother l]

variable (hmodel : isClassName model = true)

include hmodel

theorem classCount_cut {text a b : String} {d : Char} (hd : d ∈ separators)
    (h : text.toList = a.toList ++ d :: b.toList) :
    classCount model k text = classCount model k a + classCount model k b := by
  rw [classCount, h]
  exact Text.occurrences_append_cons (toList_classOpening_ne_nil _ _)
    (not_mem_classOpening k hmodel hd)

theorem classCount_line (l : String) (ls : List String) (rest : String) :
    classCount model k (textOfLines (l :: ls) ++ rest) =
      classCount model k l + classCount model k (textOfLines ls ++ rest) :=
  classCount_cut k hmodel (d := '\n') (by decide) (by simp [textOfLines, String.toList_append])

theorem classCount_textOfLines_append {ls : List String} (h : ∀ l ∈ ls, classCount model k l = 0)
    (rest : String) : classCount model k (textOfLines ls ++ rest) = classCount model k rest := by
  induction ls with
  | nil => rw [textOfLines, String.empty_append]
  | cons l ls ih =>
      rw [List.forall_mem_cons] at h
      rw [classCount_line k hmodel, h.1, ih h.2, Nat.zero_add]

omit hmodel in
theorem endedLine_cases (old : String) :
    endedLine old = "" ∧ old = "" ∨ ∃ before, (endedLine old).toList = before ++ ['\n'] ∧
      (old.toList = before ∨ old.toList = before ++ ['\n']) := by
  unfold endedLine
  split
  · rename_i h
    rw [List.reverse_eq_nil_iff, String.toList_eq_nil_iff] at h
    exact .inl ⟨h, h⟩
  · rename_i rest h
    rw [List.reverse_eq_iff, List.reverse_cons] at h
    exact .inr ⟨rest.reverse, h, .inr h⟩
  · exact .inr ⟨old.toList, by rw [String.toList_append]; rfl, .inl rfl⟩

theorem classCount_endedLine_append (old rest : String) :
    classCount model k (endedLine old ++ rest) =
      classCount model k old + classCount model k rest := by
  have hempty : classCount model k "" = 0 := classCount_of_no_bracket k (by decide)
  rcases endedLine_cases old with ⟨hended, hold⟩ | ⟨before, hended, hold⟩
  · rw [hended, hold, hempty, String.empty_append, Nat.zero_add]
  · have hcut : classCount model k (endedLine old ++ rest) =
        classCount model k (String.ofList before) + classCount model k rest :=
      classCount_cut k hmodel (d := '\n') (by decide) (by simp [String.toList_append, hended])
    rw [hcut]
    rcases hold with hold | hold
    · rw [← hold, String.ofList_toList]
    · have hline : classCount model k old =
          classCount model k (String.ofList before) + classCount model k "" :=
        classCount_cut k hmodel (d := '\n') (by decide) (by simp [hold])
      rw [hline, hempty, Nat.add_zero]

end

theorem bracket_not_mem_text (n : Nat) : '(' ∉ (Json.Numeral.whole n).text.toList := by
  intro h
  have htext : (Json.Numeral.whole n).text = Nat.repr n := rfl
  rw [htext, Nat.toList_repr] at h
  exact absurd (Nat.isDigit_of_mem_toDigits (by decide) (by decide) h) (by decide)

/-- What must be known of a context so that its texts open no class by accident. -/
structure Harmless (c : Context) : Prop where
  app : 'V' ∉ c.appName.toList
  model : isClassName c.modelName = true
  imports : '(' ∉ c.viewImports.toList
  slug : Text.contains c.slugField "class " = false
  url : Text.contains c.deleteSuccessUrl "class " = false ∨ 'V' ∉ c.deleteSuccessUrl.toList

namespace Harmless

variable {c : Context} (hc : Harmless c)

include hc

theorem bracket_not_mem : '(' ∉ c.modelName.toList :=
  mark_not_mem hc.model (by decide)

variable {model : String} (hmodel : isClassName model = true) (k : Kind)

include hmodel

theorem classCount_appLine {rest text : String} (hrest : rest.toList = '.' :: text.toList)
    (h : '(' ∉ text.toList) : classCount model k ("from apps." ++ (c.appName ++ rest)) = 0 := by
  have hbegin : classCount model k "from apps" = 0 := classCount_of_no_bracket k (by decide)
  have happ : classCount model k c.appName = 0 := classCount_of_no_capital k hc.app
  have htext : classCount model k text = 0 := classCount_of_no_bracket k h
  have hbehind : classCount model k (c.appName ++ rest) = 0 := by
    rw [classCount_cut k hmodel (a := c.appName) (b := text) (d := '.') (by decide)
      (by rw [String.toList_append, hrest]), happ, htext]
  rw [classCount_cut k hmodel (a := "from apps") (b := c.appName ++ rest) (d := '.')
    (by decide) (by simp [String.toList_append]), hbegin, hbehind]

theorem classCount_headText_append (rest : String) :
    classCount model k (headText c ++ rest) = classCount model k rest := by
  have himports : '(' ∉ ("from django.views.generic import " ++ c.viewImports).toList := by
    simp [String.toList_append, hc.imports]
  have hmodels : '(' ∉ ("models import " ++ c.modelName).toList := by
    simp [String.toList_append, hc.bracket_not_mem]
  refine classCount_textOfLines_append k hmodel (fun l hl => ?_) rest
  simp only [List.mem_cons, List.not_mem_nil, or_false] at hl
  rcases hl with rfl | rfl | rfl | rfl | rfl
  · exact classCount_of_no_bracket k (by simp)
  · exact classCount_of_no_bracket k (by simp)
  · exact classCount_of_no_bracket k himports
  · exact classCount_of_no_bracket k (by simp)
  · exact hc.classCount_appLine hmodel k (by simp [String.toList_append]) hmodels

theorem classCount_formImportText_append (rest : String) :
    classCount model k (formImportText c ++ rest) = classCount model k rest := by
  have hlower : '(' ∉ (Text.lower c.modelName).toList :=
    Text.not_mem_lower (by decide) hc.bracket_not_mem
  have hforms : '(' ∉ ("forms." ++ (Text.lower c.modelName ++ (" import " ++
      (c.modelName ++ "Form")))).toList := by
    simp [String.toList_append, hc.bracket_not_mem, hlower]
  refine classCount_textOfLines_append k hmodel (fun l hl => ?_) rest
  rw [List.mem_singleton.mp hl]
  exact hc.classCount_appLine hmodel k (by simp [String.toList_append]) hforms

theorem classCount_headerText_append (rest : String) :
    classCount model k (headerText c ++ rest) = classCount model k rest := by
  rw [headerText, String.append_assoc, hc.classCount_headText_append hmodel]
  cases c.includeForm with
  | true => rw [if_pos rfl, hc.classCount_formImportText_append hmodel]
  | false => rw [if_neg Bool.false_ne_true, String.empty_append]

omit hmodel in
theorem classCount_url : classCount model k ("        return " ++ c.deleteSuccessUrl) = 0 := by
  rcases hc.url with hclass | hcapital
  · refine classCount_of_no_class k ?_
    have hsplit : Text.occurrences "class ".toList ("        return " ++ c.deleteSuccessUrl).toList =
        Text.occurrences "class ".toList "        return ".toList +
          Text.occurrences "class ".toList c.deleteSuccessUrl.toList := by
      rw [String.toList_append]
      have hspace : ' ' ∉ "class".toList := by decide
      exact Text.occurrences_append_last (p := "class".toList) (a := "        return".toList)
        (b := c.deleteSuccessUrl.toList) hspace
    have hbegin : Text.occurrences "class ".toList "        return ".toList = 0 := by decide
    rw [Text.contains_eq_false_iff (by decide)] at hclass ⊢
    rw [hsplit, hbegin, hclass]
  · refine classCount_of_no_capital k ?_
    simp [String.toList_append, hcapital]

theorem classCount_settingLine (l : Kind) : classCount model k
    ((settingOf l).1 ++ (settingValue c l ++ (settingOf l).2.2)) = 0 := by
  have hform : '(' ∉ ("    form_class = " ++ (c.modelName ++ "Form")).toList := by
    simp [String.toList_append, hc.bracket_not_mem]
  cases l with
  | list =>
      refine classCount_of_no_bracket k ?_
      simp [settingOf, settingValue, String.toList_append, bracket_not_mem_text]
  | detail =>
      have hslug : classCount model k c.slugField = 0 := classCount_of_no_class k hc.slug
      have hbegin : classCount model k "    slug_field = " = 0 := classCount_of_no_bracket k (by decide)
      have hend : classCount model k "" = 0 := classCount_of_no_bracket k (by decide)
      have hvalue : classCount model k (c.slugField ++ "'") = 0 := by
        rw [classCount_cut k hmodel (a := c.slugField) (b := "") (d := '\'') (by decide)
          (by simp [String.toList_append]), hslug, hend]
      exact (classCount_cut k hmodel (a := "    slug_field = ") (b := c.slugField ++ "'") (d := '\'')
        (by decide) (by simp [settingOf, settingValue, String.toList_append])).trans
        (by rw [hbegin, hvalue])
  | create => exact classCount_of_no_bracket k hform
  | update => exact classCount_of_no_bracket k hform
  | delete =>
      have hlines : (settingOf .delete).1 ++ (settingValue c .delete ++ (settingOf .delete).2.2) =
          textOfLines ["", "    def get_success_url(self):"] ++
            ("        return " ++ c.deleteSuccessUrl) := by
        simp only [settingOf, settingValue, textOfLines, ← String.append_assoc, String.append_empty]
        rfl
      have hmethod : ∀ l ∈ ["", "    def get_success_url(self):"], classCount model k l = 0 := by
        rw [List.forall_mem_cons, List.forall_mem_singleton]
        exact ⟨classCount_of_no_capital k (by decide), classCount_of_no_capital k (by decide)⟩
      rw [hlines, classCount_textOfLines_append k hmodel hmethod, hc.classCount_url k]

theorem classCount_classText_append (l : Kind) (rest : String) :
    classCount model k (classText c l ++ rest) =
      (if c.modelName = model ∧ l = k then 1 else 0) + classCount model k rest := by
  have hmodels : '(' ∉ ("    model = " ++ c.modelName).toList := by
    simp [String.toList_append, hc.bracket_not_mem]
  have hempty : classCount model k "" = 0 := classCount_of_no_bracket k (by decide)
  rw [classText, classCount_line k hmodel, classCount_line k hmodel, classCount_line k hmodel,
    classCount_line k hmodel, classCount_line k hmodel, textOfLines, String.empty_append, hempty,
    classCount_classLine k hc.model, classCount_of_no_bracket k hmodels,
    hc.classCount_settingLine hmodel k l]
  simp only [Nat.zero_add]

/-- Different views open different classes. -/
theorem classCount_classTexts {ls : List Kind} (hnodup : ls.Nodup) :
    classCount model k (String.join (ls.map (classText c))) =
      if c.modelName = model ∧ k ∈ ls then 1 else 0 := by
  induction ls with
  | nil => simp [classCount_of_no_bracket]
  | cons l ls ih =>
      rw [List.nodup_cons] at hnodup
      rw [List.map_cons, String.join_cons, hc.classCount_classText_append hmodel, ih hnodup.2]
      by_cases hl : l = k
      · subst hl
        simp [hnodup.1]
      · simp [hl, Ne.symm hl]

/-- A new views module opens the class of every view in it once. -/
theorem classCount_module {ls : List Kind} (hnodup : ls.Nodup) :
    classCount model k (headerText c ++ String.join (ls.map (classText c))) =
      if c.modelName = model ∧ k ∈ ls then 1 else 0 := by
  rw [hc.classCount_headerText_append hmodel, hc.classCount_classTexts hmodel k hnodup]

/-- An extended views module opens a class once more for every section behind it. -/
theorem classCount_extended {ls : List Kind} (hnodup : ls.Nodup) (old : String) :
    classCount model k (endedLine old ++ String.join (ls.map (classText c))) =
      classCount model k old + if c.modelName = model ∧ k ∈ ls then 1 else 0 := by
  rw [classCount_endedLine_append k hmodel, hc.classCount_classTexts hmodel k hnodup]

end Harmless

end Viewsmith.Scaffold
