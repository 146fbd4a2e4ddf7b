import Viewsmith.Proofs.Scaffold.Generator
import Viewsmith.Proofs.Text.Occurrences
import Viewsmith.Proofs.View.Naming

namespace Viewsmith.View

structure Registration where
  model : String
  options : Options
  slugField : String := defaultSlugField

def Registration.routes (e : Registration) : List Route :=
  View.routes e.model e.slugField e.options

def patternLines (es : List Registration) : List String :=
  es.flatMap fun e => e.routes.map Route.text

section

variable {model other slugField : String} (k : Kind)

theorem toList_urlName (model suffix : String) :
    (urlName model suffix).toList = (Text.lower model).toList ++ '.' :: suffix.toList := by
  simp [urlName, String.toList_append]

theorem toList_text_routeFor : (routeFor other slugField k).text.toList =
    "url(r".toList ++ '\'' :: ((routeFor other slugField k).regex.toList ++ '\'' ::
      ((", ".toList ++ other.toList ++ k.className.toList ++ '.' :: "as_view(), name=".toList) ++
        '\'' :: ((urlName other k.urlSuffix).toList ++ '\'' :: ")".toList))) := by
  simp [Route.text, routeFor, viewClassName, String.toList_append]

theorem dot_not_mem_regex (hother : isClassName other = true) :
    '.' ∉ (routeFor other slugField k).regex.toList := by
  have hlower := mark_not_mem_lower hother (d := '.') (by decide)
  have htail : '.' ∉ (routeTail slugField k).toList := by
    cases k with
    | detail =>
        rw [routeTail, lookupGroup]
        split <;> decide
    | list | create | update | delete =>
        rw [routeTail]
        decide
  simp [routeFor, String.toList_append, hlower, htail]

theorem list_prefix_urlSuffix_iff : "list".toList <+: k.urlSuffix.toList ↔ k = .list := by
  cases k <;> decide

/-- The name of a list route stands in the text of a route only at the end of its name. -/
theorem urlName_list_infix_text_iff (hmodel : isClassName model = true)
    (hother : isClassName other = true) :
    (urlName model Kind.list.urlSuffix).toList <:+: (routeFor other slugField k).text.toList ↔
      k = .list ∧ (Text.lower model).toList <:+ (Text.lower other).toList := by
  have hname := toList_urlName model Kind.list.urlSuffix
  have hdot : '.' ∈ (urlName model Kind.list.urlSuffix).toList := by simp [hname]
  have hne : (urlName model Kind.list.urlSuffix).toList ≠ [] := List.ne_nil_of_mem hdot
  have hquote : '\'' ∉ (urlName model Kind.list.urlSuffix).toList := by
    rw [hname, List.mem_append, not_or]
    exact ⟨mark_not_mem_lower hmodel (by decide), by decide⟩
  have habsent {text : List Char} (h : '.' ∉ text) :
      ¬ (urlName model Kind.list.urlSuffix).toList <:+: text :=
    fun hstands => h (hstands.subset hdot)
  have hclass : ¬ (urlName model Kind.list.urlSuffix).toList <:+:
      ", ".toList ++ other.toList ++ k.className.toList ++ '.' :: "as_view(), name=".toList := by
    have hbase : '.' ∉ k.className.toList := by cases k <;> decide
    have hmember := mark_not_mem hother (d := '.') (by decide)
    rw [hname, Text.infix_around_iff (by simp [hbase, hmember]) (by decide)]
    rintro ⟨-, hprefix⟩
    revert hprefix
    decide
  have hown : (urlName model Kind.list.urlSuffix).toList <:+: (urlName other k.urlSuffix).toList ↔
      k = .list ∧ (Text.lower model).toList <:+ (Text.lower other).toList := by
    have hlower := mark_not_mem_lower hother (d := '.') (by decide)
    have hsuffix : '.' ∉ k.urlSuffix.toList := by cases k <;> decide
    have hlist : Kind.list.urlSuffix = "list" := rfl
    rw [hname, toList_urlName, Text.infix_around_iff hlower hsuffix, hlist,
      list_prefix_urlSuffix_iff, and_comm]
  -- The name stands within one of the parts between the quotation marks, for it has none itself.
  rw [toList_text_routeFor, Text.infix_append_cons_iff hne hquote,
    or_iff_right (habsent (by decide)), Text.infix_append_cons_iff hne hquote,
    or_iff_right (habsent (dot_not_mem_regex k hother)), Text.infix_append_cons_iff hne hquote,
    or_iff_right hclass, Text.infix_append_cons_iff hne hquote, hown,
    or_iff_left (habsent (by decide))]

theorem exists_mem_patternLines_iff {es : List Registration} (hmodel : isClassName model = true)
    (hes : ∀ e ∈ es, isClassName e.model = true) :
    (∃ l ∈ patternLines es, (urlName model Kind.list.urlSuffix).toList <:+: l.toList) ↔
      ∃ e ∈ es, e.options.list = true ∧
        (Text.lower model).toList <:+ (Text.lower e.model).toList := by
  constructor
  · rintro ⟨l, hl, hstands⟩
    obtain ⟨e, he, hl⟩ := List.mem_flatMap.mp hl
    obtain ⟨r, hr, rfl⟩ := List.mem_map.mp hl
    obtain ⟨k, hk, rfl⟩ := List.mem_map.mp hr
    obtain ⟨rfl, hsuffix⟩ := (urlName_list_infix_text_iff k hmodel (hes e he)).mp hstands
    exact ⟨e, he, (e.options.mem_enabled .list).mp hk, hsuffix⟩
  · rintro ⟨e, he, hlist, hsuffix⟩
    have hroute : routeFor e.model e.slugField .list ∈ e.routes :=
      List.mem_map_of_mem ((e.options.mem_enabled .list).mpr hlist)
    exact ⟨_, List.mem_flatMap.mpr ⟨e, he, List.mem_map_of_mem hroute⟩,
      (urlName_list_infix_text_iff .list hmodel (hes e he)).mpr ⟨rfl, hsuffix⟩⟩

theorem contains_urlName_list_iff {content : String} {es : List Registration}
    (hmodel : isClassName model = true) (hes : ∀ e ∈ es, isClassName e.model = true)
    (hlines : Text.lines content = patternLines es) :
    Text.contains content (urlName model Kind.list.urlSuffix) = true ↔
      ∃ e ∈ es, e.options.list = true ∧
        (Text.lower model).toList <:+ (Text.lower e.model).toList := by
  have hname := toList_urlName model Kind.list.urlSuffix
  have habsent {d : Char} (hd : d ∈ marks) (hdot : d ∉ ".list".toList) :
      d ∉ (urlName model Kind.list.urlSuffix).toList := by
    rw [hname, List.mem_append, not_or]
    exact ⟨mark_not_mem_lower hmodel hd, hdot⟩
  have hne : (urlName model Kind.list.urlSuffix).toList ≠ [] := by simp [hname]
  have hreturn : '\r' ∉ (urlName model Kind.list.urlSuffix).toList :=
    habsent (by decide) (by decide)
  have hfeed : '\n' ∉ (urlName model Kind.list.urlSuffix).toList :=
    habsent (by decide) (by decide)
  rw [Text.contains_eq_true_iff, ← exists_mem_patternLines_iff hmodel hes, ← hlines,
    Text.exists_mem_lines_iff hne hreturn hfeed]

end

end Viewsmith.View

namespace Viewsmith.Scaffold

open Files View
open Settings (Config)

theorem deleteSuccessUrl_of_readText {t : FileTree} {appsDir content : String} (default : String)
    (target : Target) {o : Options} (hlist : o.list = false)
    (hread : readText t (join (join appsDir target.appName) "urls.py") = .ok content) :
    deleteSuccessUrl t appsDir default target o =
      if Text.contains content (urlName target.modelName Kind.list.urlSuffix) then
        "reverse('" ++ target.appName ++ ":" ++ Text.lower target.modelName ++ ".list')"
      else default := by
  rw [deleteSuccessUrl, hlist, isListRegistered_of_readText hread, Bool.false_or]
  simp only [urlName, Kind.urlSuffix, String.append_assoc]
  rfl

/-- If the URL patterns of an app are those of some generated views, the delete view of a model leads
to the list view of the model just if the name of the model ends that of one with a list view. -/
theorem deleteSuccessUrl_of_registered {t : FileTree} {input : String} {target : Target} {o : Options}
    {config : Config} {root content : String} {g : Generator} {es : List Registration}
    (htarget : Target.parse input = .ok target)
    (hcreate : Generator.create t target o config root = .ok g) (hlist : o.list = false)
    (hread : readText t (join (join (join root config.appsDir) target.appName) "urls.py") =
      .ok content)
    (hes : ∀ e ∈ es, isClassName e.model = true)
    (hlines : Text.lines content = patternLines es) :
    g.context.deleteSuccessUrl =
      if ∃ e ∈ es, e.options.list = true ∧
        (Text.lower target.modelName).toList <:+ (Text.lower e.model).toList then
        "reverse('" ++ target.appName ++ ":" ++ Text.lower target.modelName ++ ".list')"
      else config.deleteSuccessUrl := by
  obtain ⟨-, hmodel⟩ := target_of_parse htarget
  obtain ⟨-, _, _, -, -, rfl⟩ := Generator.create_eq_ok_iff.mp hcreate
  have hurl := deleteSuccessUrl_of_readText config.deleteSuccessUrl target hlist hread
  rw [Generator.contextFor]
  exact hurl.trans (if_congr (contains_urlName_list_iff hmodel hes hlines) rfl rfl)

def blogWithPatterns (es : List Registration) : FileTree where
  entries :=
    [ (["server"], .directory), (["server", "apps"], .directory)
    , (["server", "apps", "blog"], .directory)
    , (["server", "apps", "blog", "urls.py"], .file (.text (textOfLines (patternLines es)))) ]

theorem readText_blogWithPatterns (es : List Registration) :
    readText (blogWithPatterns es) (join (join (join "/" "server/apps") "blog") "urls.py") =
      .ok (textOfLines (patternLines es)) := by
  rfl

theorem deleteSuccessUrl_of_registered_post : ∃ g,
    Generator.create (blogWithPatterns [⟨"Post", { list := true }, "slug"⟩]) ⟨"blog", "Post"⟩
      { delete := true } {} "/" = .ok g ∧
    g.context.deleteSuccessUrl = "reverse('blog:post.list')" := by
  obtain ⟨g, hcreate, -⟩ := Generator.create_builtin
    (blogWithPatterns [⟨"Post", { list := true }, "slug"⟩]) ⟨"blog", "Post"⟩
    { delete := true } {} "/" (by decide) rfl
  have hes : ∀ e ∈ ([⟨"Post", { list := true }, "slug"⟩] : List Registration),
      isClassName e.model = true := by decide
  have hurl := deleteSuccessUrl_of_registered parse_post hcreate rfl (readText_blogWithPatterns _) hes
    (by decide)
  rw [if_pos ⟨_, List.mem_singleton_self _, rfl, List.suffix_rfl⟩] at hurl
  exact ⟨g, hcreate, hurl.trans (by decide)⟩

/-- The list view of another model counts if its name ends like that of the model. -/
theorem list_of_other_model_counts : ∃ g content,
    readText (blogWithPatterns [⟨"BlogPost", { list := true }, "slug"⟩])
      (join (join (join "/" "server/apps") "blog") "urls.py") = .ok content ∧
    Text.lines content = ["url(r'^blogpost/$', BlogPostListView.as_view(), name='blogpost.list')"] ∧
    Generator.create (blogWithPatterns [⟨"BlogPost", { list := true }, "slug"⟩]) ⟨"blog", "Post"⟩
      { delete := true } {} "/" = .ok g ∧
    Text.lower "BlogPost" ≠ Text.lower "Post" ∧
    g.context.deleteSuccessUrl = "reverse('blog:post.list')" := by
  obtain ⟨g, hcreate, -, hcontext⟩ := Generator.create_builtin
    (blogWithPatterns [⟨"BlogPost", { list := true }, "slug"⟩]) ⟨"blog", "Post"⟩
    { delete := true } {} "/" (by decide) rfl
  have hread := readText_blogWithPatterns [⟨"BlogPost", { list := true }, "slug"⟩]
  refine ⟨g, _, hread, by decide, hcreate, by decide, ?_⟩
  have hurl := deleteSuccessUrl_of_readText defaultDeleteSuccessUrl ⟨"blog", "Post"⟩
    (o := { delete := true }) rfl hread
  rw [hcontext, Generator.contextFor]
  dsimp only
  rw [hurl]
  decide

end Viewsmith.Scaffold
