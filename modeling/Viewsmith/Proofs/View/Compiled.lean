import Viewsmith.Proofs.Template.Pieces
import Viewsmith.View.Renderer

namespace Viewsmith.View

open Template

def nameNode (name : String) : Node := .value ⟨.path ⟨name, [.key name]⟩, [], []⟩

def lowerNode (name : String) : Node := .value ⟨.word "lower", [.path ⟨name, [.key name]⟩], []⟩

section

variable (w : String)

theorem toList_tag (s : String) : (tag s).toList = '\x7b' :: '\x7b' :: (s.toList ++ closed []) := by
  simp only [tag, String.toList_append]
  rfl

theorem toList_tag_value : (tag w).toList = (valuePiece w).source := toList_tag w

theorem toList_tag_inclusion : (tag ("> " ++ w)).toList = (inclusionPiece w).source := by
  rw [toList_tag, String.toList_append]
  rfl

theorem toList_tag_option :
    (tag ("#if options." ++ w)).toList = (openingPiece "if" "options" [w]).source := by
  rw [toList_tag, String.toList_append, openingPiece, Piece.source, List.map_cons, List.map_nil,
    dotted, dotted, List.append_nil]
  simp only [List.append_assoc, ← List.cons_append]
  rfl

theorem source_textPiece : (textPiece w).source = w.toList := rfl

theorem sourceOf_nil : sourceOf [] = [] := rfl

end

/-- What a view sets beside its model: the text before a name, the name, and the text behind. -/
def settingOf : Kind → String × String × String
  | .list => ("    paginate_by = ", "paginateBy", "")
  | .detail => ("    slug_field = '", "slugField", "'")
  | .create | .update => ("    form_class = ", "modelName", "Form")
  | .delete => ("\n    def get_success_url(self):\n        return ", "deleteSuccessUrl", "")

def partialPieces (k : Kind) : List Piece :=
  [ textPiece ("\n\n" ++ "class "), valuePiece "modelName"
  , textPiece (k.className ++ ("(" ++ (k.className ++ ("):" ++ ("\n" ++ "    model = ")))))
  , valuePiece "modelName", textPiece ("\n" ++ (settingOf k).1), valuePiece (settingOf k).2.1
  , textPiece ((settingOf k).2.2 ++ "\n") ]

theorem toList_builtinPartial (k : Kind) : (builtinPartial k).toList = sourceOf (partialPieces k) := by
  cases k
  all_goals
    simp only [builtinPartial, viewSettings, textOfLines, partialPieces, settingOf, sourceOf_cons,
      source_textPiece, ← toList_tag_value, List.cons_append, List.nil_append, sourceOf_nil]
    simp [String.toList_append]

def partialNodes (k : Kind) : List Node :=
  [ .text ("\n\n" ++ "class "), nameNode "modelName"
  , .text (k.className ++ ("(" ++ (k.className ++ ("):" ++ ("\n" ++ "    model = ")))))
  , nameNode "modelName", .text ("\n" ++ (settingOf k).1), nameNode (settingOf k).2.1
  , .text ((settingOf k).2.2 ++ "\n") ]

theorem node?_textPiece (s : String) : (textPiece s).node? = some (.text s) := by
  rw [textPiece, Piece.node?, textNode, String.ofList_toList]

theorem compile_builtinPartial (k : Kind) :
    Template.compile (builtinPartial k) = some (partialNodes k) := by
  refine compile_flat (toList_builtinPartial k) ?_ ?_ ?_
  · intro p hp
    simp only [partialPieces, List.mem_cons, List.not_mem_nil, or_false] at hp
    rcases hp with rfl | rfl | rfl | rfl | rfl | rfl | rfl
    · exact valid_textPiece (by decide) (by decide)
    · exact valid_valuePiece (by decide)
    · exact valid_textPiece (by cases k <;> decide) (by cases k <;> decide)
    · exact valid_valuePiece (by decide)
    · exact valid_textPiece (by cases k <;> decide) (by cases k <;> decide)
    · exact valid_valuePiece (by cases k <;> decide)
    · exact valid_textPiece (by cases k <;> decide) (by cases k <;> decide)
  · cases k <;> decide
  · simp only [partialPieces, partialNodes, List.map_cons, List.map_nil, node?_textPiece]
    rfl

def formNodes : List Node :=
  [ .text ("# -*- coding: utf-8 -*-" ++ ("\n" ++ ("from __future__ import unicode_literals" ++
      ("\n" ++ ("from django import forms" ++ ("\n" ++ "from apps."))))))
  , nameNode "appName", .text ".models import ", nameNode "modelName"
  , .text ("\n" ++ ("" ++ ("\n" ++ ("" ++ ("\n" ++ "class "))))), nameNode "modelName"
  , .text ("Form(forms.ModelForm):" ++ ("\n" ++ ("    class Meta:" ++ ("\n" ++ "        model = "))))
  , nameNode "modelName", .text ("\n" ++ ("        fields = '__all__'" ++ "\n")) ]

def formPieces : List Piece :=
  [ textPiece ("# -*- coding: utf-8 -*-" ++ ("\n" ++ ("from __future__ import unicode_literals" ++
      ("\n" ++ ("from django import forms" ++ ("\n" ++ "from apps."))))))
  , valuePiece "appName", textPiece ".models import ", valuePiece "modelName"
  , textPiece ("\n" ++ ("" ++ ("\n" ++ ("" ++ ("\n" ++ "class "))))), valuePiece "modelName"
  , textPiece
      ("Form(forms.ModelForm):" ++ ("\n" ++ ("    class Meta:" ++ ("\n" ++ "        model = "))))
  , valuePiece "modelName", textPiece ("\n" ++ ("        fields = '__all__'" ++ "\n")) ]

theorem compile_formTemplate : Template.compile formTemplate = some formNodes := by
  have hsource : formTemplate.toList = sourceOf formPieces := by
    simp only [formTemplate, textOfLines, formPieces, sourceOf_cons, sourceOf_nil, source_textPiece,
      String.toList_append, toList_tag_value, List.append_assoc, List.append_nil,
      String.toList_empty, List.nil_append]
  have happ : (valuePiece "appName").Valid := valid_valuePiece (by decide)
  have hmodel : (valuePiece "modelName").Valid := valid_valuePiece (by decide)
  refine compile_flat hsource ?_ (by decide) ?_
  · rw [formPieces, List.forall_mem_cons, List.forall_mem_cons, List.forall_mem_cons]
    refine ⟨valid_textPiece (by simp) (by simp), happ, valid_textPiece (by simp) (by simp), ?_⟩
    rw [List.forall_mem_cons, List.forall_mem_cons, List.forall_mem_cons, List.forall_mem_cons]
    refine ⟨hmodel, valid_textPiece (by simp) (by simp), hmodel,
      valid_textPiece (by simp) (by simp), ?_⟩
    rw [List.forall_mem_cons, List.forall_mem_cons]
    exact ⟨hmodel, valid_textPiece (by simp) (by simp), by simp⟩
  · simp only [formPieces, formNodes, List.map_cons, List.map_nil, node?_textPiece]
    rfl

theorem compile_inclusionTag {w : String} (h : PartialWord w.toList) :
    Template.compile (tag ("> " ++ w)) = some [.inclusion ⟨.word w, [], []⟩ ⟨none, true⟩ none] := by
  have hsource : (tag ("> " ++ w)).toList = sourceOf [inclusionPiece w] := by
    rw [toList_tag_inclusion, sourceOf_cons, sourceOf_nil, List.append_nil]
  have hvalid : ∀ p ∈ [inclusionPiece w], p.Valid := by
    intro p hp
    rw [List.mem_singleton.mp hp]
    exact valid_inclusionPiece h
  have hbody : addItems ⟨[], [], false, false⟩ (itemsOf [] [inclusionPiece w]) =
      some ⟨[], [.inclusion ⟨.word w, [], []⟩ ⟨none, true⟩ none], false, true⟩ :=
    addItems_inclusion (.inl rfl) (.inl rfl) _
  exact compile_of_pieces hsource hvalid ⟨.inl rfl, trivial⟩ hbody

theorem compile_sectionTemplate (k : Kind) : Template.compile (sectionTemplate k) =
    some [.inclusion ⟨.word k.partialName, [], []⟩ ⟨none, true⟩ none] :=
  compile_inclusionTag (by cases k <;> decide)

def sectionPieces (k : Kind) : List Piece :=
  [ openingPiece "if" "options" [k.optionKey], textPiece "\n", inclusionPiece k.partialName
  , textPiece "\n", closingPiece "if", textPiece "\n" ]

def headPieces : List Piece :=
  [ textPiece ("# -*- coding: utf-8 -*-" ++ ("\n" ++ ("from __future__ import unicode_literals" ++
      ("\n" ++ "from django.views.generic import "))))
  , valuePiece "viewImports"
  , textPiece ("\n" ++ ("from django.core.urlresolvers import reverse" ++ ("\n" ++ "from apps.")))
  , valuePiece "appName", textPiece ".models import ", valuePiece "modelName", textPiece "\n" ]

def formImportPieces : List Piece :=
  [ textPiece ("\n" ++ "from apps."), valuePiece "appName", textPiece ".forms."
  , helperPiece "lower" "modelName", textPiece " import ", valuePiece "modelName"
  , textPiece ("Form" ++ "\n") ]

def viewsPieces : List Piece :=
  headPieces ++ (openingPiece "if" "includeForm" [] :: (formImportPieces ++
    (closingPiece "if" :: textPiece "\n" :: Kind.all.flatMap sectionPieces)))

theorem textOfLines_append (ls ms : List String) :
    textOfLines (ls ++ ms) = textOfLines ls ++ textOfLines ms := by
  induction ls with
  | nil => simp [textOfLines]
  | cons l ls ih => simp [textOfLines, ih, String.append_assoc]

theorem sourceOf_append (ps qs : List Piece) :
    sourceOf (ps ++ qs) = sourceOf ps ++ sourceOf qs := List.flatMap_append

theorem toList_sectionLines (ks : List Kind) :
    (textOfLines (ks.flatMap sectionLines)).toList = sourceOf (ks.flatMap sectionPieces) := by
  induction ks with
  | nil => rfl
  | cons k ks ih =>
      have hclose : (tag "/if").toList = (closingPiece "if").source := toList_tag "/if"
      rw [List.flatMap_cons, List.flatMap_cons, textOfLines_append, sourceOf_append,
        String.toList_append, ih]
      simp only [sectionLines, sectionPieces, textOfLines, sourceOf_cons, sourceOf_nil,
        source_textPiece, String.toList_append, hclose, toList_tag_option, toList_tag_inclusion]
      simp

theorem toList_viewsTemplate : viewsTemplate.toList = sourceOf viewsPieces := by
  have hclose : (tag "/if").toList = (closingPiece "if").source := toList_tag "/if"
  have hopen : (tag "#if includeForm").toList = (openingPiece "if" "includeForm" []).source :=
    toList_tag "#if includeForm"
  have hlower : (tag "lower modelName").toList = (helperPiece "lower" "modelName").source :=
    toList_tag "lower modelName"
  rw [viewsTemplate, textOfLines_append, String.toList_append, toList_sectionLines, viewsPieces]
  simp only [textOfLines, headPieces, formImportPieces, sourceOf_cons, sourceOf_nil, sourceOf_append,
    source_textPiece, String.toList_append, hclose, hopen, hlower, toList_tag_value,
    List.append_assoc, List.append_nil, String.toList_empty]

def ifCall (p : Path) : Call := ⟨.word "if", [.path p], []⟩

def ifNode (p : Path) (body : List Node) : Node := .block (ifCall p) none true body none

def optionPath (k : Kind) : Path :=
  ⟨"options" ++ "." ++ k.optionKey, [.key "options", .key k.optionKey]⟩

def partialNode (k : Kind) : Node := .inclusion ⟨.word k.partialName, [], []⟩ ⟨none, true⟩ none

def sectionNodes (k : Kind) : List Node :=
  [ ifNode (optionPath k) [.text "", partialNode k, .text ""]
  , .text "" ]

def headNodes : List Node :=
  [ .text ("# -*- coding: utf-8 -*-" ++ ("\n" ++ ("from __future__ import unicode_literals" ++
      ("\n" ++ "from django.views.generic import "))))
  , nameNode "viewImports"
  , .text ("\n" ++ ("from django.core.urlresolvers import reverse" ++ ("\n" ++ "from apps.")))
  , nameNode "appName", .text ".models import ", nameNode "modelName", .text "\n" ]

def formImportNodes : List Node :=
  [ .text "from apps.", nameNode "appName", .text ".forms.", lowerNode "modelName"
  , .text " import ", nameNode "modelName", .text ("Form" ++ "\n") ]

def viewsNodes : List Node :=
  headNodes ++ (ifNode ⟨"includeForm", [.key "includeForm"]⟩ formImportNodes :: .text "" ::
    Kind.all.flatMap sectionNodes)

def headerNodes : List Node :=
  headNodes ++ [ifNode ⟨"includeForm", [.key "includeForm"]⟩ formImportNodes, .text ""]

theorem viewsNodes_eq : viewsNodes = headerNodes ++ Kind.all.flatMap sectionNodes := rfl

section

variable {opened : List OpenTag} {body : List Node} {before : List Char} {ps : List Piece}

theorem addItems_lineEnd :
    addItems ⟨opened, body, false, true⟩ (itemsOf before (textPiece "\n" :: ps)) =
      addItems ⟨opened, .text "" :: body, false, false⟩ (itemsOf ('\n' :: before) ps) :=
  addItems_text _

theorem atLine_lineEnd : AtLine (sourceOf (textPiece "\n" :: ps)) := .inr rfl

variable (opened ps) in
theorem addItems_section (k : Kind) (hb : AtLine before)
    (hbody : mapLastText Unicode.trimBlankEnd body = body) :
    ∃ b, addItems ⟨opened, body, false, false⟩ (itemsOf before (sectionPieces k ++ ps)) =
        addItems ⟨opened, (sectionNodes k).reverse ++ body, false, false⟩
          (itemsOf ('\n' :: b) ps) := by
  have hpieces : sectionPieces k ++ ps =
      .tag ('#' :: ("if".toList ++ ' ' :: ("options".toList ++ dotted [k.optionKey.toList])))
          (.opening (ifCall (optionPath k)) none) ::
        textPiece "\n" :: inclusionPiece k.partialName :: textPiece "\n" :: closingPiece "if" ::
        textPiece "\n" :: ps := by
    rw [optionPath, ← pathOf_two]
    rfl
  apply Exists.intro
  rw [hpieces, addItems_opening hb atLine_lineEnd, addItems_lineEnd, inclusionPiece,
    addItems_inclusion (.inr rfl) atLine_lineEnd, addItems_lineEnd, hbody]
  exact (addItems_closing (.inr rfl) atLine_lineEnd (ifCall (optionPath k)) none).trans
    addItems_lineEnd

/-- A list of nodes whose last text, if it ends in one, keeps its blanks. -/
theorem addItems_sections (ks : List Kind) (hb : AtLine before)
    (hbody : mapLastText Unicode.trimBlankEnd body = body) :
    addItems ⟨opened, body, false, false⟩ (itemsOf before (ks.flatMap sectionPieces)) =
      some ⟨opened, (ks.flatMap sectionNodes).reverse ++ body, false, false⟩ := by
  induction ks generalizing before body with
  | nil => rfl
  | cons k ks ih =>
      obtain ⟨b, hsection⟩ := addItems_section opened (ks.flatMap sectionPieces) k hb hbody
      rw [List.flatMap_cons, hsection, ih (.inr rfl) rfl]
      simp

end

theorem valid_viewsPieces : ∀ p ∈ viewsPieces, p.Valid := by
  have hend : (textPiece "\n").Valid := valid_textPiece (by decide) (by decide)
  have hif : (closingPiece "if").Valid := valid_closingPiece (by decide)
  have hopen : (openingPiece "if" "includeForm" []).Valid :=
    valid_openingPiece (by decide) (by decide) (by simp)
  have happ : (valuePiece "appName").Valid := valid_valuePiece (by decide)
  have hmodel : (valuePiece "modelName").Valid := valid_valuePiece (by decide)
  have himports : (valuePiece "viewImports").Valid := valid_valuePiece (by decide)
  have hlower : (helperPiece "lower" "modelName").Valid :=
    valid_helperPiece (by decide) (by decide)
  have hsection (k : Kind) : ∀ p ∈ sectionPieces k, p.Valid := by
    have hoption : (openingPiece "if" "options" [k.optionKey]).Valid :=
      valid_openingPiece (by decide) (by decide) (by cases k <;> decide)
    have hpartial : (inclusionPiece k.partialName).Valid :=
      valid_inclusionPiece (by cases k <;> decide)
    simp [sectionPieces, hoption, hpartial, hend, hif]
  have hhead : ∀ p ∈ headPieces, p.Valid := by
    rw [headPieces, List.forall_mem_cons]
    refine ⟨valid_textPiece (by simp) (by simp), ?_⟩
    rw [List.forall_mem_cons, List.forall_mem_cons]
    refine ⟨himports, valid_textPiece (by simp) (by simp), ?_⟩
    rw [List.forall_mem_cons, List.forall_mem_cons]
    refine ⟨happ, valid_textPiece (by simp) (by simp), ?_⟩
    simp [hmodel, hend]
  have hform : ∀ p ∈ formImportPieces, p.Valid := by
    rw [formImportPieces, List.forall_mem_cons, List.forall_mem_cons, List.forall_mem_cons]
    refine ⟨valid_textPiece (by simp) (by simp), happ, valid_textPiece (by simp) (by simp), ?_⟩
    rw [List.forall_mem_cons, List.forall_mem_cons, List.forall_mem_cons, List.forall_mem_cons]
    exact ⟨hlower, valid_textPiece (by simp) (by simp), hmodel,
      valid_textPiece (by simp) (by simp), by simp⟩
  intro p hp
  simp only [viewsPieces, List.mem_append, List.mem_cons, List.mem_flatMap] at hp
  rcases hp with hp | rfl | hp | rfl | rfl | ⟨k, _, hp⟩
  · exact hhead p hp
  · exact hopen
  · exact hform p hp
  · exact hif
  · exact hend
  · exact hsection k p hp

section

variable (ps : List Piece)

theorem addItems_head :
    ∃ b, addItems ⟨[], [], false, false⟩ (itemsOf [] (headPieces ++ ps)) =
      addItems ⟨[], headNodes.reverse, false, false⟩ (itemsOf ('\n' :: b) ps) := by
  have hnodes : headPieces.map Piece.node? = headNodes.map some := by
    simp only [headPieces, headNodes, List.map_cons, List.map_nil, node?_textPiece]
    rfl
  have hsplit : headPieces = headPieces.dropLast ++ [textPiece "\n"] := rfl
  have hend : (textPiece "\n").source.reverse = ['\n'] := rfl
  have hbefore : (sourceOf headPieces).reverse = '\n' :: (sourceOf headPieces.dropLast).reverse := by
    conv => lhs; rw [hsplit, sourceOf_append, List.reverse_append, sourceOf_cons, sourceOf_nil,
      List.append_nil, hend, List.singleton_append]
  have hhead := addItems_flat hnodes ps [] [] []
  rw [hbefore, List.append_nil] at hhead
  exact ⟨_, hhead⟩

theorem addItems_formImport (opened : List OpenTag) (before : List Char) :
    ∃ b, addItems ⟨opened, [], false, true⟩ (itemsOf before (formImportPieces ++ ps)) =
      addItems ⟨opened, formImportNodes.reverse, false, false⟩ (itemsOf ('\n' :: b) ps) := by
  have hsplit : formImportPieces = textPiece ("\n" ++ "from apps.") :: formImportPieces.tail := rfl
  have hnodes : formImportPieces.tail.map Piece.node? = formImportNodes.tail.map some := by
    simp only [formImportPieces, formImportNodes, List.tail_cons, List.map_cons, List.map_nil,
      node?_textPiece]
    rfl
  have hfirst : textNode (dropLineEnd (("\n" ++ "from apps.").toList.dropWhile Unicode.isBlank)) =
      .text "from apps." := rfl
  have hlast : formImportPieces.tail = formImportPieces.tail.dropLast ++
      [textPiece ("Form" ++ "\n")] := rfl
  have hend : (textPiece ("Form" ++ "\n")).source.reverse = '\n' :: "Form".toList.reverse := rfl
  have hbefore : (sourceOf formImportPieces.tail).reverse =
      '\n' :: ("Form".toList.reverse ++ (sourceOf formImportPieces.tail.dropLast).reverse) := by
    conv => lhs; rw [hlast, sourceOf_append, List.reverse_append, sourceOf_cons, sourceOf_nil,
      List.append_nil, hend]
    rfl
  apply Exists.intro
  rw [hsplit, List.cons_append, textPiece, addItems_text, if_pos rfl, hfirst,
    addItems_flat hnodes, hbefore]
  rfl

end

theorem compile_viewsTemplate : Template.compile viewsTemplate = some viewsNodes := by
  have hsep : Separated viewsPieces := by decide
  have hafter (qs : List Piece) : AtLine (sourceOf (formImportPieces ++ qs)) := by
    rw [formImportPieces, List.cons_append, sourceOf_cons, source_textPiece, String.toList_append]
    exact .inr rfl
  have hhead : mapLastText Unicode.trimBlankEnd headNodes.reverse = headNodes.reverse := rfl
  have hform : mapLastText Unicode.trimBlankEnd formImportNodes.reverse = formImportNodes.reverse :=
    rfl
  have hbody : addItems ⟨[], [], false, false⟩ (itemsOf [] viewsPieces) =
      some ⟨[], viewsNodes.reverse, false, false⟩ := by
    obtain ⟨b₁, h₁⟩ := addItems_head (openingPiece "if" "includeForm" [] :: (formImportPieces ++
      (closingPiece "if" :: textPiece "\n" :: Kind.all.flatMap sectionPieces)))
    rw [viewsPieces, h₁, openingPiece, List.map_nil, pathOf_toList,
      addItems_opening (.inr rfl) (hafter _), hhead]
    generalize (Piece.source _).reverse ++ _ = before
    obtain ⟨b₂, h₂⟩ := addItems_formImport (closingPiece "if" :: textPiece "\n" ::
      Kind.all.flatMap sectionPieces)
      [.block headNodes.reverse [] (some ⟨ifCall ⟨"includeForm", [.key "includeForm"]⟩, none, true⟩)]
      before
    have h₃ := h₂.trans (addItems_closing (.inr rfl) atLine_lineEnd
      (ifCall ⟨"includeForm", [.key "includeForm"]⟩) none)
    rw [addItems_lineEnd, hform, List.reverse_reverse,
      addItems_sections Kind.all (.inr rfl) rfl] at h₃
    refine h₃.trans ?_
    simp [viewsNodes, ifNode]
  rw [compile_of_pieces toList_viewsTemplate valid_viewsPieces hsep hbody, List.reverse_reverse]

end Viewsmith.View
