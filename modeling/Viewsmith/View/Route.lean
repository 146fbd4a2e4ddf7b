import Viewsmith.View.Kind
import Viewsmith.View.Naming

namespace Viewsmith.View

structure Route where
  kind : Kind
  regex : String
  viewClass : String
  name : String
deriving DecidableEq

def Route.text (r : Route) : String :=
  "url(r'" ++ r.regex ++ "', " ++ r.viewClass ++ ".as_view(), name='" ++ r.name ++ "')"

def numberGroup : String := "(?P<pk>\\d+)"

def slugGroup : String := "(?P<slug>[-a-zA-Z0-9_]+)"

/-- How the detail view finds its object: by number if that is what the slug field says. -/
def lookupGroup (slugField : String) : String :=
  if slugField = "" || slugField = "pk" || slugField = "id" then numberGroup else slugGroup

def routeTail (slugField : String) : Kind → String
  | .list => "/$"
  | .detail => "/" ++ lookupGroup slugField ++ "/$"
  | .create => "/create/$"
  | .update => "/update/" ++ numberGroup ++ "/$"
  | .delete => "/delete/" ++ numberGroup ++ "/$"

def routeFor (model slugField : String) (k : Kind) : Route where
  kind := k
  regex := "^" ++ Text.lower model ++ routeTail slugField k
  viewClass := viewClassName model k.className
  name := urlName model k.urlSuffix

def routes (model slugField : String) (o : Options) : List Route :=
  o.enabled.map (routeFor model slugField)

end Viewsmith.View
