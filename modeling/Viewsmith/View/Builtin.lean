import Viewsmith.View.Kind

namespace Viewsmith.View

def tag (content : String) : String := "\x7b\x7b" ++ content ++ "\x7d\x7d"

def textOfLines : List String → String
  | [] => ""
  | l :: ls => l ++ "\n" ++ textOfLines ls

def sectionLines (k : Kind) : List String :=
  [tag ("#if options." ++ k.optionKey), tag ("> " ++ k.partialName), tag "/if"]

def viewsTemplate : String :=
  textOfLines
    ([ "# -*- coding: utf-8 -*-"
     , "from __future__ import unicode_literals"
     , "from django.views.generic import " ++ tag "viewImports"
     , "from django.core.urlresolvers import reverse"
     , "from apps." ++ tag "appName" ++ ".models import " ++ tag "modelName"
     , tag "#if includeForm"
     , "from apps." ++ tag "appName" ++ ".forms." ++ tag "lower modelName" ++ " import " ++
         tag "modelName" ++ "Form"
     , tag "/if" ] ++ Kind.all.flatMap sectionLines)

def formTemplate : String :=
  textOfLines
    [ "# -*- coding: utf-8 -*-"
    , "from __future__ import unicode_literals"
    , "from django import forms"
    , "from apps." ++ tag "appName" ++ ".models import " ++ tag "modelName"
    , ""
    , ""
    , "class " ++ tag "modelName" ++ "Form(forms.ModelForm):"
    , "    class Meta:"
    , "        model = " ++ tag "modelName"
    , "        fields = '__all__'" ]

def viewSettings : Kind → List String
  | .list => ["    paginate_by = " ++ tag "paginateBy"]
  | .detail => ["    slug_field = '" ++ tag "slugField" ++ "'"]
  | .create | .update => ["    form_class = " ++ tag "modelName" ++ "Form"]
  | .delete =>
      [ ""
      , "    def get_success_url(self):"
      , "        return " ++ tag "deleteSuccessUrl" ]

def builtinPartial (k : Kind) : String :=
  textOfLines
    ([ ""
     , ""
     , "class " ++ tag "modelName" ++ k.className ++ "(" ++ k.className ++ "):"
     , "    model = " ++ tag "modelName" ] ++ viewSettings k)

end Viewsmith.View
