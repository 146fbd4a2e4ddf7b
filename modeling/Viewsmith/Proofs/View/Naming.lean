import Viewsmith.Proofs.Text.Lowering
import Viewsmith.View.Naming

namespace Viewsmith.View

def marks : List Char :=
  [ '\n', '\r', ' ', '\'', '(', ')', '$', '*', '+', '.', '/', ':', '=', '?', '[', '\\', ']', '^'
  , '\x7b', '|', '\x7d' ]

theorem of_mem_marks {d : Char} (hd : d ∈ marks) :
    Unicode.isAlphanumeric d = false ∧ d ≠ '_' ∧ ¬ Text.InLowerRange d.toNat := by
  simp only [marks, List.mem_cons, List.not_mem_nil, or_false] at hd
  rcases hd with rfl | rfl | rfl | rfl | rfl | rfl | rfl | rfl | rfl | rfl | rfl | rfl | rfl | rfl |
    rfl | rfl | rfl | rfl | rfl | rfl | rfl
  all_goals decide

structure NamesClass (model : String) : Prop where
  capital : ∃ c, model.toList.head? = some c ∧ Unicode.uppercase.contains c = true
  letters : ∀ d ∈ model.toList, Unicode.isAlphanumeric d = true ∨ d = '_'

theorem isClassName_iff {model : String} : isClassName model = true ↔ NamesClass model := by
  unfold isClassName
  split
  · rename_i hnil
    refine iff_of_false Bool.false_ne_true fun h => ?_
    obtain ⟨c, hc, _⟩ := h.capital
    rw [hnil] at hc
    cases hc
  · rename_i c cs hcons
    rw [Bool.and_eq_true, List.all_eq_true, ← hcons]
    constructor
    · rintro ⟨hcapital, hletters⟩
      exact ⟨⟨c, by rw [hcons, List.head?_cons], hcapital⟩, by simpa using hletters⟩
    · rintro ⟨⟨first, hfirst, hcapital⟩, hletters⟩
      rw [hcons, List.head?_cons, Option.some.injEq] at hfirst
      exact ⟨hfirst ▸ hcapital, by simpa using hletters⟩

section

variable {model : String} {d : Char} (h : isClassName model = true) (hd : d ∈ marks)

include h hd

theorem mark_not_mem : d ∉ model.toList := by
  obtain ⟨hletter, hne, -⟩ := of_mem_marks hd
  intro hm
  rcases (isClassName_iff.mp h).letters d hm with hword | hword
  · rw [hletter] at hword
    cases hword
  · exact hne hword

theorem mark_not_mem_lower : d ∉ (Text.lower model).toList :=
  Text.not_mem_lower (of_mem_marks hd).2.2 (mark_not_mem h hd)

end

/-- The text has one colon, between the name of an app and that of a class. -/
structure Spells (input app model : String) : Prop where
  text : input = app ++ ":" ++ model
  app_ne_empty : app ≠ ""
  app_whole : ':' ∉ app.toList
  model_whole : ':' ∉ model.toList
  namesClass : NamesClass model

theorem Spells.splitOn_eq {input app model : String} (h : Spells input app model) :
    Text.splitOn input ':' = [app, model] := by
  refine Text.splitOn_eq_pair_iff.mpr ⟨?_, h.app_whole, h.model_whole⟩
  simp [h.text, String.toList_append]

theorem spells_of_splitOn {input app model : String} (h : Text.splitOn input ':' = [app, model])
    (happ : app ≠ "") (hmodel : isClassName model = true) : Spells input app model := by
  obtain ⟨htext, happ_whole, hmodel_whole⟩ := Text.splitOn_eq_pair_iff.mp h
  have hinput : input = app ++ ":" ++ model := by
    rw [← String.toList_inj, htext]
    simp [String.toList_append]
  exact ⟨hinput, happ, happ_whole, hmodel_whole, isClassName_iff.mp hmodel⟩

theorem parse_eq_ok_iff {input : String} {target : Target} :
    Target.parse input = .ok target ↔
      ∃ app model, Spells input app model ∧ target = ⟨Text.lower app, model⟩ := by
  constructor
  · intro h
    unfold Target.parse at h
    split at h
    case h_1 app model hsplit =>
      split at h
      · cases h
      · rename_i hne
        split at h
        · cases h
        · rename_i hclass
          cases h
          refine ⟨app, model, spells_of_splitOn hsplit ?_ ?_, rfl⟩
          · simpa using hne
          · simpa using hclass
    case h_2 => cases h
  · rintro ⟨app, model, h, rfl⟩
    have hne : app.isEmpty = false := by simpa using h.app_ne_empty
    have hclass : isClassName model = true := isClassName_iff.mpr h.namesClass
    simp [Target.parse, h.splitOn_eq, hne, hclass]

theorem target_of_parse {input : String} {target : Target} (h : Target.parse input = .ok target) :
    (∃ app, app ≠ "" ∧ target.appName = Text.lower app) ∧
      isClassName target.modelName = true := by
  obtain ⟨app, model, hspells, rfl⟩ := parse_eq_ok_iff.mp h
  exact ⟨⟨app, hspells.app_ne_empty, rfl⟩, isClassName_iff.mpr hspells.namesClass⟩

theorem parse_post : Target.parse "blog:Post" = .ok ⟨"blog", "Post"⟩ := by rfl

def Target.text (target : Target) : String := target.appName ++ ":" ++ target.modelName

theorem Spells.lowered {input app model : String} (h : Spells input app model) :
    Spells (Target.text ⟨Text.lower app, model⟩) (Text.lower app) model where
  text := rfl
  app_ne_empty := Text.lower_ne_empty h.app_ne_empty
  app_whole := Text.not_mem_lower (by decide) h.app_whole
  model_whole := h.model_whole
  namesClass := h.namesClass

/-- A text is accepted as a target exactly if it spells an app and a model, the target then has that
app in lower case, and it is got back from the text it is written in. -/
theorem parse_exact_and_canonical (input : String) :
    (∀ target, Target.parse input = .ok target ↔
      ∃ app model, Spells input app model ∧ target = ⟨Text.lower app, model⟩) ∧
    ∀ target, Target.parse input = .ok target → Target.parse target.text = .ok target := by
  refine ⟨fun target => parse_eq_ok_iff, fun target h => ?_⟩
  obtain ⟨app, model, hspells, rfl⟩ := parse_eq_ok_iff.mp h
  exact parse_eq_ok_iff.mpr ⟨Text.lower app, model, hspells.lowered, by rw [Text.lower_lower]⟩

theorem parse_exact_and_canonical_final_sigma :
    Spells "İΟΣ:Ώρα_2" "İΟΣ" "Ώρα_2" ∧
      Target.parse "İΟΣ:Ώρα_2" = .ok ⟨"i\u0307ος", "Ώρα_2"⟩ ∧
      Target.parse "i\u0307ος:Ώρα_2" = .ok ⟨"i\u0307ος", "Ώρα_2"⟩ := by
  have hclass : isClassName "Ώρα_2" = true := by decide +kernel
  have hspells : Spells "İΟΣ:Ώρα_2" "İΟΣ" "Ώρα_2" :=
    ⟨by decide +kernel, by decide, by decide, by decide, isClassName_iff.mp hclass⟩
  have hlower : Text.lower "İΟΣ" = "i\u0307ος" := by decide +kernel
  have htext : Target.text ⟨"i\u0307ος", "Ώρα_2"⟩ = "i\u0307ος:Ώρα_2" := by decide +kernel
  obtain ⟨hexact, hcanonical⟩ := parse_exact_and_canonical "İΟΣ:Ώρα_2"
  have hparse := (hexact _).mpr ⟨"İΟΣ", "Ώρα_2", hspells, rfl⟩
  rw [hlower] at hparse
  have hagain := hcanonical _ hparse
  rw [htext] at hagain
  exact ⟨hspells, hparse, hagain⟩

end Viewsmith.View
