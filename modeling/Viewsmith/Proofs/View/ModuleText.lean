import Viewsmith.Proofs.View.Sections

namespace Viewsmith.View

variable (c : Context)

def classLines : Kind → List String
  | .list =>
      [ "", ""
      , "class " ++ c.modelName ++ "ListView(ListView):"
      , "    model = " ++ c.modelName
      , "    paginate_by = " ++ toString c.paginateBy.toNat ]
  | .detail =>
      [ "", ""
      , "class " ++ c.modelName ++ "DetailView(DetailView):"
      , "    model = " ++ c.modelName
      , "    slug_field = '" ++ c.slugField ++ "'" ]
  | .create =>
      [ "", ""
      , "class " ++ c.modelName ++ "CreateView(CreateView):"
      , "    model = " ++ c.modelName
      , "    form_class = " ++ c.modelName ++ "Form" ]
  | .update =>
      [ "", ""
      , "class " ++ c.modelName ++ "UpdateView(UpdateView):"
      , "    model = " ++ c.modelName
      , "    form_class = " ++ c.modelName ++ "Form" ]
  | .delete =>
      [ "", ""
      , "class " ++ c.modelName ++ "DeleteView(DeleteView):"
      , "    model = " ++ c.modelName
      , ""
      , "    def get_success_url(self):"
      , "        return " ++ c.deleteSuccessUrl ]

def importLines : List String :=
  [ "# -*- coding: utf-8 -*-"
  , "from __future__ import unicode_literals"
  , "from django.views.generic import " ++ c.viewImports
  , "from django.core.urlresolvers import reverse"
  , "from apps." ++ c.appName ++ ".models import " ++ c.modelName ] ++
  (if c.includeForm then
    [ "from apps." ++ c.appName ++ ".forms." ++ Text.lower c.modelName ++ " import " ++
        c.modelName ++ "Form" ]
  else [])

def formLines : List String :=
  [ "# -*- coding: utf-8 -*-"
  , "from __future__ import unicode_literals"
  , "from django import forms"
  , "from apps." ++ c.appName ++ ".models import " ++ c.modelName
  , ""
  , ""
  , "class " ++ c.modelName ++ "Form(forms.ModelForm):"
  , "    class Meta:"
  , "        model = " ++ c.modelName
  , "        fields = '__all__'" ]

theorem text_whole (n : Nat) : (Json.Numeral.whole n).text = toString n := rfl

theorem classText_eq (k : Kind) : classText c k = textOfLines (classLines c k) := by
  cases k
  all_goals
    simp only [classText, classLines, settingOf, settingValue, text_whole, Kind.className, textOfLines,
      String.append_assoc]
    rfl

theorem textOfLines_flatMap (f : Kind → List String) (ks : List Kind) :
    textOfLines (ks.flatMap f) = String.join (ks.map fun k => textOfLines (f k)) := by
  induction ks with
  | nil => rfl
  | cons k ks ih =>
      rw [List.flatMap_cons, textOfLines_append, ih, List.map_cons, String.join_cons]

theorem headerText_eq : headerText c = textOfLines (importLines c) := by
  cases hform : c.includeForm
  all_goals
    simp only [headerText, importLines, hform, headText, formImportText, textOfLines_append, textOfLines,
      String.append_assoc, if_true, Bool.false_eq_true, if_false]

theorem formText_eq : formText c = textOfLines (formLines c) := by
  simp only [formText, formLines, textOfLines, String.append_assoc]

/-- With the built-in partials every context has a views module and a form module, and these are
their texts: no string of the context is escaped in them or read as a part of a template. -/
theorem builtin_renders_lines : ∃ r, Renderer.ofRegistry Registry.builtin = .ok r ∧
    ∀ c : Context,
      r.render c = .ok (textOfLines (importLines c ++ c.options.enabled.flatMap (classLines c))) ∧
      r.renderForm c = .ok (textOfLines (formLines c)) := by
  obtain ⟨r, h⟩ := Renderer.exists_ofRegistry_builtin
  refine ⟨r, h, fun c => ⟨?_, ?_⟩⟩
  · have hclasses : classText c = fun k => textOfLines (classLines c k) :=
      funext (classText_eq c)
    rw [render_builtin h, headerText_eq, hclasses, textOfLines_append, textOfLines_flatMap]
  · rw [renderForm_builtin h, formText_eq]

end Viewsmith.View
