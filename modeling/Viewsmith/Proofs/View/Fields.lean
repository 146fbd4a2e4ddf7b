import Viewsmith.Proofs.Template.Tags
import Viewsmith.Proofs.View.Compiled

namespace Viewsmith.View

open Template
open Json (Value)

section

variable (root : Value) (n : Nat) (k : String) (ks : List String)

theorem findBound_replicate (name : String) : findBound name (List.replicate n {}) = none := by
  induction n with
  | zero => rfl
  | succ n ih => rw [List.replicate_succ, findBound, ih]; rfl

theorem keysOf_map : keysOf (ks.map Step.key) = ks := by
  induction ks with
  | nil => rfl
  | cons k ks ih => rw [List.map_cons, keysOf, ih]

/-- In blocks that neither bind nor move, a path of keys starts from the data. -/
theorem resolve_keys : resolve root (List.replicate (n + 1) {}) ((k :: ks).map Step.key) =
    placed root (k :: ks) := by
  have hbound : (leadingKey? ((k :: ks).map Step.key)).bind
      (findBound · (List.replicate (n + 1) {})) = none := findBound_replicate (n + 1) k
  have hkeys : keysOf (Step.key k :: ks.map Step.key) = k :: ks := keysOf_map (k :: ks)
  rw [List.map_cons, List.replicate_succ] at hbound ⊢
  simp only [resolve, localName?, hbound, countUps, hkeys, List.getElem?_cons_zero, Option.some_or,
    fromBlock, List.nil_append]

end

section

variable (c : Context)

def textFields : List (String × String) :=
  [ ("appName", c.appName), ("modelName", c.modelName), ("viewImports", c.viewImports)
  , ("slugField", c.slugField), ("deleteSuccessUrl", c.deleteSuccessUrl) ]

theorem placed_text {key s : String} (h : (key, s) ∈ textFields c) :
    placed c.toValue [key] = .ok (.placed [key] (.string s)) := by
  simp only [textFields, List.mem_cons, List.not_mem_nil, or_false, Prod.mk.injEq] at h
  rcases h with ⟨rfl, rfl⟩ | ⟨rfl, rfl⟩ | ⟨rfl, rfl⟩ | ⟨rfl, rfl⟩ | ⟨rfl, rfl⟩
  all_goals simp [placed, descend, child, Context.toValue, Table.find?]

theorem placed_paginateBy : placed c.toValue ["paginateBy"] =
    .ok (.placed ["paginateBy"] (.number (.whole c.paginateBy.toNat))) := by
  simp [placed, descend, child, Context.toValue, Table.find?]

theorem placed_includeForm : placed c.toValue ["includeForm"] =
    .ok (.placed ["includeForm"] (.bool c.includeForm)) := by
  simp [placed, descend, child, Context.toValue, Table.find?]

theorem placed_option (k : Kind) : placed c.toValue ["options", k.optionKey] =
    .ok (.placed ["options", k.optionKey] (.bool (c.options.has k))) := by
  cases k
  all_goals
    simp [placed, descend, child, Context.toValue, Table.find?, Context.optionsValue, Options.has,
      Kind.optionKey]

theorem resolve_optionPath (k : Kind) : resolve c.toValue [{}] (optionPath k).steps =
    .ok (.placed ["options", k.optionKey] (.bool (c.options.has k))) :=
  (resolve_keys c.toValue 0 "options" [k.optionKey]).trans (placed_option c k)

end

section

variable {c : Context} {templates : List (String × List Node)}
  {expand : Frame → List Node → Action} {n : Nat} {frame : Frame}
  (hindent : frame.indent = none) (hblocks : frame.blocks = List.replicate (n + 1) {})

include hindent hblocks

theorem prints_name {key : String} {v : Scoped} (hname : Helper.named? key = none)
    (hv : placed c.toValue [key] = .ok v) :
    Prints (renderNode ⟨templates, c.toValue⟩ expand (nameNode key) frame) (.ok (shown v.value)) := by
  refine prints_path _ _ hindent hname ?_
  rw [hblocks]
  exact (resolve_keys c.toValue n key []).trans hv

theorem prints_textField {key s : String} (hname : Helper.named? key = none)
    (hs : (key, s) ∈ textFields c) :
    Prints (renderNode ⟨templates, c.toValue⟩ expand (nameNode key) frame) (.ok s) :=
  prints_name hindent hblocks hname (placed_text c hs)

theorem prints_lower {key s : String} (hs : (key, s) ∈ textFields c) :
    Prints (renderNode ⟨templates, c.toValue⟩ expand (lowerNode key) frame)
      (.ok (Text.lower s)) := by
  have hv : resolve c.toValue frame.blocks [.key key] = .ok (.placed [key] (.string s)) := by
    rw [hblocks]
    exact (resolve_keys c.toValue n key []).trans (placed_text c hs)
  exact prints_operation _ _ hindent (p := ⟨key, [.key key]⟩)
    (w := .derived (.string (Text.lower s))) rfl hv rfl

end

def headText (c : Context) : String :=
  textOfLines
    [ "# -*- coding: utf-8 -*-"
    , "from __future__ import unicode_literals"
    , "from django.views.generic import " ++ c.viewImports
    , "from django.core.urlresolvers import reverse"
    , "from apps." ++ (c.appName ++ (".models import " ++ c.modelName)) ]

def formImportText (c : Context) : String :=
  textOfLines
    [ "from apps." ++ (c.appName ++ (".forms." ++ (Text.lower c.modelName ++ (" import " ++
        (c.modelName ++ "Form"))))) ]

def headerText (c : Context) : String :=
  headText c ++ if c.includeForm then formImportText c else ""

def formText (c : Context) : String :=
  textOfLines
    [ "# -*- coding: utf-8 -*-"
    , "from __future__ import unicode_literals"
    , "from django import forms"
    , "from apps." ++ (c.appName ++ (".models import " ++ c.modelName))
    , ""
    , ""
    , "class " ++ (c.modelName ++ "Form(forms.ModelForm):")
    , "    class Meta:"
    , "        model = " ++ c.modelName
    , "        fields = '__all__'" ]

def settingValue (c : Context) : Kind → String
  | .list => (Json.Numeral.whole c.paginateBy.toNat).text
  | .detail => c.slugField
  | .create | .update => c.modelName
  | .delete => c.deleteSuccessUrl

def classText (c : Context) (k : Kind) : String :=
  textOfLines
    [ ""
    , ""
    , "class " ++ (c.modelName ++ (k.className ++ ("(" ++ (k.className ++ "):"))))
    , "    model = " ++ c.modelName
    , (settingOf k).1 ++ (settingValue c k ++ (settingOf k).2.2) ]

section

variable (c : Context) (templates : List (String × List Node)) (expand : Frame → List Node → Action)

section

variable (frame : Frame) {n : Nat} (hindent : frame.indent = none)
  (hblocks : frame.blocks = List.replicate (n + 1) {})

include hindent hblocks

theorem prints_appName : Prints (renderNode ⟨templates, c.toValue⟩ expand (nameNode "appName") frame)
    (.ok c.appName) := prints_textField hindent hblocks rfl (by simp [textFields])

theorem prints_modelName :
    Prints (renderNode ⟨templates, c.toValue⟩ expand (nameNode "modelName") frame)
      (.ok c.modelName) := prints_textField hindent hblocks rfl (by simp [textFields])

theorem prints_setting (k : Kind) : Prints (renderNode ⟨templates, c.toValue⟩ expand
    (nameNode (settingOf k).2.1) frame) (.ok (settingValue c k)) := by
  have hfield {key s : String} (hname : Helper.named? key = none) (hs : (key, s) ∈ textFields c) :
      Prints (renderNode ⟨templates, c.toValue⟩ expand (nameNode key) frame) (.ok s) :=
    prints_textField hindent hblocks hname hs
  cases k with
  | list => exact prints_name hindent hblocks rfl (placed_paginateBy c)
  | detail => exact hfield rfl (by simp [textFields, settingOf, settingValue])
  | create => exact hfield rfl (by simp [textFields, settingOf, settingValue])
  | update => exact hfield rfl (by simp [textFields, settingOf, settingValue])
  | delete => exact hfield rfl (by simp [textFields, settingOf, settingValue])

end

theorem prints_head :
    Prints (renderNodes ⟨templates, c.toValue⟩ expand headNodes {}) (.ok (headText c)) := by
  have htext (s : String) : Prints (renderNode ⟨templates, c.toValue⟩ expand (.text s) {}) (.ok s) :=
    prints_text _ _ rfl s
  have himports : Prints (renderNode ⟨templates, c.toValue⟩ expand (nameNode "viewImports") {})
      (.ok c.viewImports) := prints_textField (n := 0) rfl rfl rfl (by simp [textFields])
  have happ := prints_appName c templates expand {} (n := 0) rfl rfl
  have hmodel := prints_modelName c templates expand {} (n := 0) rfl rfl
  refine Prints.of_eq ((htext _).cons _ _ <| himports.cons _ _ <| (htext _).cons _ _ <|
    happ.cons _ _ <| (htext _).cons _ _ <| hmodel.cons _ _ <| (htext _).cons _ _
      (prints_nil _ _)) ?_
  simp only [followed, Except.bind, Except.map, headText, textOfLines, String.append_assoc,
    String.append_empty]

theorem prints_formImport :
    Prints (renderNodes ⟨templates, c.toValue⟩ expand formImportNodes {})
      (.ok (formImportText c)) := by
  have htext (s : String) : Prints (renderNode ⟨templates, c.toValue⟩ expand (.text s) {}) (.ok s) :=
    prints_text _ _ rfl s
  have hlower : Prints (renderNode ⟨templates, c.toValue⟩ expand (lowerNode "modelName") {})
      (.ok (Text.lower c.modelName)) := prints_lower (n := 0) rfl rfl (by simp [textFields])
  have happ := prints_appName c templates expand {} (n := 0) rfl rfl
  have hmodel := prints_modelName c templates expand {} (n := 0) rfl rfl
  refine Prints.of_eq ((htext _).cons _ _ <| happ.cons _ _ <| (htext _).cons _ _ <|
    hlower.cons _ _ <| (htext _).cons _ _ <| hmodel.cons _ _ <| (htext _).cons _ _
      (prints_nil _ _)) ?_
  simp only [followed, Except.bind, Except.map, formImportText, textOfLines, String.append_assoc,
    String.append_empty]

theorem prints_header {nodes : List Node} {r : Except Fault String}
    (h : Prints (renderNodes ⟨templates, c.toValue⟩ expand nodes {}) r) :
    Prints (renderNodes ⟨templates, c.toValue⟩ expand
      (headNodes ++ (ifNode ⟨"includeForm", [.key "includeForm"]⟩ formImportNodes ::
        .text "" :: nodes)) {}) (followed (.ok (headerText c)) r) := by
  have hempty : Prints (renderNode ⟨templates, c.toValue⟩ expand (.text "") {}) (.ok "") :=
    prints_text _ _ rfl ""
  have hflag : resolve c.toValue [{}] [.key "includeForm"] =
      .ok (.placed ["includeForm"] (.bool c.includeForm)) :=
    (resolve_keys c.toValue 0 "includeForm" []).trans (placed_includeForm c)
  have hform : Prints (renderNode ⟨templates, c.toValue⟩ expand
      (ifNode ⟨"includeForm", [.key "includeForm"]⟩ formImportNodes) {})
      (.ok (if c.includeForm then formImportText c else "")) := by
    cases hc : c.includeForm with
    | true =>
        rw [hc] at hflag
        exact prints_chosen _ _ hflag rfl ((prints_formImport c templates expand).of_state
          (fun st => { st with current := none }) (fun _ => rfl) fun _ => rfl)
    | false =>
        rw [hc] at hflag
        exact prints_skipped _ _ hflag rfl
  have hall := (prints_head c templates expand).append _ _ (hform.cons _ _ (hempty.cons _ _ h))
  rw [empty_followed, ← followed_assoc] at hall
  exact hall

theorem prints_form :
    Prints (renderNodes ⟨templates, c.toValue⟩ expand formNodes {}) (.ok (formText c)) := by
  have htext (s : String) : Prints (renderNode ⟨templates, c.toValue⟩ expand (.text s) {}) (.ok s) :=
    prints_text _ _ rfl s
  have happ := prints_appName c templates expand {} (n := 0) rfl rfl
  have hmodel := prints_modelName c templates expand {} (n := 0) rfl rfl
  refine Prints.of_eq ((htext _).cons _ _ <| happ.cons _ _ <| (htext _).cons _ _ <|
    hmodel.cons _ _ <| (htext _).cons _ _ <| hmodel.cons _ _ <| (htext _).cons _ _ <|
    hmodel.cons _ _ <| (htext _).cons _ _ (prints_nil _ _)) ?_
  simp only [followed, Except.bind, Except.map, formText, textOfLines, String.append_assoc,
    String.append_empty]

theorem prints_builtinPartial (k : Kind) :
    Prints (renderNodes ⟨templates, c.toValue⟩ expand (partialNodes k) (Frame.within {}))
      (.ok (classText c k)) := by
  have htext (s : String) : Prints (renderNode ⟨templates, c.toValue⟩ expand (.text s)
      (Frame.within {})) (.ok s) := prints_text _ _ rfl s
  have hmodel := prints_modelName c templates expand (Frame.within {}) (n := 1) rfl rfl
  have hsetting := prints_setting c templates expand (Frame.within {}) (n := 1) rfl rfl k
  have hblank : "\n\n" ++ "class " = "" ++ ("\n" ++ ("" ++ ("\n" ++ "class "))) := rfl
  refine Prints.of_eq ((htext _).cons _ _ <| hmodel.cons _ _ <| (htext _).cons _ _ <|
    hmodel.cons _ _ <| (htext _).cons _ _ <| hsetting.cons _ _ <| (htext _).cons _ _
      (prints_nil _ _)) ?_
  simp only [followed, Except.bind, Except.map, classText, textOfLines, hblank, String.append_assoc,
    String.append_empty]

end

end Viewsmith.View
