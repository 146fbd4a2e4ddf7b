import Mathlib.Data.List.TakeWhile
import Viewsmith.Files.Access

namespace Viewsmith.Files

def stepOf (s : String) : Option Component :=
  if s = "" || s = "." then none else if s = ".." then some .up else some (.name s)

def componentsOf (cs : List Char) : List Component :=
  (Text.pieces '/' cs).filterMap fun p => stepOf (String.ofList p)

theorem components_eq (path : String) : components path = componentsOf path.toList := by
  simp only [components, Text.splitOn, componentsOf, List.filterMap_map]
  rfl

theorem componentsOf_append_cons (a b : List Char) :
    componentsOf (a ++ '/' :: b) = componentsOf a ++ componentsOf b := by
  rw [componentsOf, Text.pieces_append_cons, List.filterMap_append]
  rfl

theorem componentsOf_of_not_mem {cs : List Char} (h : '/' ∉ cs) :
    componentsOf cs = (stepOf (String.ofList cs)).toList := by
  rw [componentsOf, Text.pieces_of_not_mem h]
  cases hs : stepOf (String.ofList cs) <;> simp [hs]

theorem componentsOf_nil : componentsOf [] = [] := rfl

theorem stepOf_of_ne {s : String} (h₁ : s ≠ "") (h₂ : s ≠ ".") : ∃ c, stepOf s = some c := by
  by_cases hs : s = ".."
  · exact ⟨.up, by simp [stepOf, hs]⟩
  · exact ⟨.name s, by simp [stepOf, h₁, h₂, hs]⟩

theorem not_isAbsolute_iff (path : String) :
    isAbsolute path = false ↔ ∀ rest, path.toList ≠ '/' :: rest := by
  unfold isAbsolute
  split
  · rename_i rest h
    simp [h]
  · rename_i h
    simpa using h

theorem endsInSlash_iff (path : String) :
    endsInSlash path = true ↔ ∃ rest, path.toList = rest ++ ['/'] := by
  unfold endsInSlash
  split
  · rename_i rest h
    have he : path.toList = rest.reverse ++ ['/'] := by
      rw [← List.reverse_reverse path.toList, h, List.reverse_cons]
    exact ⟨fun _ => ⟨_, he⟩, fun _ => rfl⟩
  · rename_i h
    refine ⟨fun hf => absurd hf (by simp), ?_⟩
    rintro ⟨rest, he⟩
    exact absurd (by rw [he, List.reverse_append]; rfl) (h rest.reverse)

/-- The right path follows from where the left one leads. -/
theorem components_join (left right : String) (h : isAbsolute right = false) :
    components (join left right) = components left ++ components right := by
  simp only [components_eq]
  unfold join
  rw [h, if_neg (by simp)]
  split
  · rename_i hl
    rw [String.toList_append]
    rcases Bool.or_eq_true_iff.mp hl with he | he
    · rw [String.isEmpty_iff.mp he]
      rfl
    · obtain ⟨rest, he⟩ := (endsInSlash_iff left).mp he
      rw [he, List.append_assoc, List.singleton_append, componentsOf_append_cons,
        componentsOf_append_cons, componentsOf_nil, List.append_nil]
  · rw [String.toList_append, String.toList_append]
    exact (congrArg componentsOf (by simp)).trans (componentsOf_append_cons _ _)

theorem join_of_isAbsolute (left : String) {right : String} (h : isAbsolute right = true) :
    join left right = right := by
  rw [join, if_pos h]

theorem isAbsolute_append {a : String} (b : String) (ha : a ≠ "") :
    isAbsolute (a ++ b) = isAbsolute a := by
  unfold isAbsolute
  rw [String.toList_append]
  cases hl : a.toList with
  | nil => exact absurd (String.toList_inj.mp hl) ha
  | cons c cs => by_cases hc : c = '/' <;> simp [hc]

theorem isAbsolute_join {a b : String} (hb : isAbsolute b = false) :
    isAbsolute (join a b) = isAbsolute a := by
  unfold join
  rw [hb, if_neg (by simp)]
  by_cases ha : a = ""
  · subst ha
    rw [if_pos (by simp), String.empty_append, hb]
    rfl
  · split
    · exact isAbsolute_append b ha
    · rw [String.append_assoc]
      exact isAbsolute_append _ ha

theorem components_join_join (root a b : String) (hb : isAbsolute b = false) :
    components (join root (join a b)) = components (join root a) ++ components b := by
  cases ha : isAbsolute a with
  | true =>
      have hj : isAbsolute (join a b) = true := by rw [isAbsolute_join hb, ha]
      rw [join_of_isAbsolute root hj, join_of_isAbsolute root ha, components_join a b hb]
  | false =>
      have hj : isAbsolute (join a b) = false := by rw [isAbsolute_join hb, ha]
      rw [components_join root _ hj, components_join a b hb, components_join root a ha,
        List.append_assoc]

def separator (left : String) : String :=
  if left.isEmpty || endsInSlash left then "" else "/"

theorem join_of_not_isAbsolute (left : String) {right : String} (h : isAbsolute right = false) :
    join left right = left ++ separator left ++ right := by
  unfold join separator
  rw [h, if_neg (by simp)]
  split
  · rw [String.append_empty]
  · rfl

theorem separator_append (a : String) {b : String} (hb : b ≠ "") :
    separator (a ++ b) = separator b := by
  have hlast : endsInSlash (a ++ b) = endsInSlash b := by
    unfold endsInSlash
    rw [String.toList_append, List.reverse_append]
    cases hl : b.toList.reverse with
    | nil => exact absurd (String.toList_eq_nil_iff.mp (List.reverse_eq_nil_iff.mp hl)) hb
    | cons c cs => by_cases hc : c = '/' <;> simp [hc]
  have hne : a ++ b ≠ "" := by
    intro he
    exact hb (String.append_eq_empty_iff.mp he).2
  rw [separator, separator, hlast, String.isEmpty_eq_false_iff.mpr hb, String.isEmpty_eq_false_iff.mpr hne]

theorem separator_append_separator (a : String) : separator (a ++ separator a) = "" := by
  by_cases h : (a.isEmpty || endsInSlash a) = true
  · rw [separator, separator, if_pos h, String.append_empty, if_pos h]
  · have hs : separator a = "/" := by rw [separator, if_neg h]
    rw [hs, separator_append a (by decide)]
    rfl

theorem join_assoc (a b c : String) : join a (join b c) = join (join a b) c := by
  by_cases hc : isAbsolute c = true
  · rw [join_of_isAbsolute b hc, join_of_isAbsolute a hc, join_of_isAbsolute _ hc]
  rw [Bool.not_eq_true] at hc
  by_cases hb : isAbsolute b = true
  · have hbc : isAbsolute (join b c) = true := by rw [isAbsolute_join hc, hb]
    rw [join_of_isAbsolute a hb, join_of_isAbsolute a hbc]
  rw [Bool.not_eq_true] at hb
  have hbc : isAbsolute (join b c) = false := by rw [isAbsolute_join hc, hb]
  have hsep : separator (a ++ separator a ++ b) = separator b := by
    by_cases hempty : b = ""
    · rw [hempty, String.append_empty, separator_append_separator]
      rfl
    · exact separator_append _ hempty
  rw [join_of_not_isAbsolute a hbc, join_of_not_isAbsolute b hc, join_of_not_isAbsolute _ hc,
    join_of_not_isAbsolute a hb, hsep]
  simp only [String.append_assoc]

theorem suffix_join (left right : String) : right.toList <:+ (join left right).toList := by
  unfold join
  split
  · exact List.suffix_refl _
  · split <;> simp only [String.toList_append] <;> exact List.suffix_append _ _

theorem dropIdle_suffix (path : List Char) : dropIdle path <:+ path := by
  fun_induction dropIdle path with
  | case1 rest h => simp [List.isEmpty_iff.mp h]
  | case2 rest h ih => exact ih.trans (List.suffix_cons _ _)
  | case3 rest h => simp [List.isEmpty_iff.mp h]
  | case4 rest h ih => exact ih.trans ((List.suffix_cons _ _).trans (List.suffix_cons _ _))
  | case5 path => exact List.suffix_refl _

/-- What is dropped at the end of a path is no step. The path is held backwards. -/
theorem componentsOf_dropIdle (path : List Char) :
    componentsOf (dropIdle path).reverse = componentsOf path.reverse := by
  fun_induction dropIdle path with
  | case1 rest h => rw [List.isEmpty_iff.mp h]
  | case2 rest h ih =>
      rw [ih, List.reverse_cons, componentsOf_append_cons, componentsOf_nil, List.append_nil]
  | case3 rest h =>
      rw [List.isEmpty_iff.mp h]
      rfl
  | case4 rest h ih =>
      rw [ih, List.reverse_cons, List.reverse_cons, List.append_assoc, List.singleton_append,
        componentsOf_append_cons]
      exact (List.append_nil _).symm
  | case5 path => rfl

theorem dropIdle_cases (path : List Char) :
    dropIdle path = [] ∨ dropIdle path = ['/'] ∨ dropIdle path = ['.'] ∨
      (dropIdle path).takeWhile (· ≠ '/') ≠ [] ∧ (dropIdle path).takeWhile (· ≠ '/') ≠ ['.'] := by
  fun_induction dropIdle path with
  | case1 rest h => simp
  | case2 rest h ih => exact ih
  | case3 rest h => simp
  | case4 rest h ih => exact ih
  | case5 path h₁ h₂ =>
      cases path with
      | nil => simp
      | cons c rest =>
          have hc : c ≠ '/' := fun hc => h₁ rest (by rw [hc])
          refine .inr (.inr ?_)
          by_cases hd : c = '.'
          · subst hd
            cases rest with
            | nil => simp
            | cons d rest =>
                have hd : d ≠ '/' := fun hd => h₂ rest (by rw [hd])
                simp [hd]
          · simp [hc, hd]

/-- The end of a path, up to its last slash, is one step. The path is held backwards. -/
theorem componentsOf_reverse_of_name {path : List Char}
    (h₁ : path.takeWhile (· ≠ '/') ≠ []) (h₂ : path.takeWhile (· ≠ '/') ≠ ['.']) :
    ∃ c, stepOf (String.ofList (path.takeWhile (· ≠ '/')).reverse) = some c ∧
      componentsOf path.reverse = componentsOf (path.dropWhile (· ≠ '/')).reverse ++ [c] := by
  have hslash : '/' ∉ (path.takeWhile (· ≠ '/')).reverse := by
    intro hm
    simpa using List.mem_takeWhile_imp (List.mem_reverse.mp hm)
  obtain ⟨c, hc⟩ : ∃ c, stepOf (String.ofList (path.takeWhile (· ≠ '/')).reverse) = some c := by
    refine stepOf_of_ne (fun he => h₁ ?_) (fun he => h₂ ?_)
    · simpa using congrArg String.toList he
    · have hl := congrArg String.toList he
      rw [String.toList_ofList, List.reverse_eq_iff] at hl
      exact hl
  refine ⟨c, hc, ?_⟩
  have hlast := componentsOf_of_not_mem hslash
  rw [hc, Option.toList_some] at hlast
  conv => lhs; rw [← List.takeWhile_append_dropWhile (p := fun x => decide (x ≠ '/')) (l := path)]
  rw [List.reverse_append]
  cases htail : path.dropWhile (· ≠ '/') with
  | nil => simpa [componentsOf_nil] using hlast
  | cons d rest =>
      have hd : d = '/' := by
        have hne := List.head_dropWhile_not (fun x => decide (x ≠ '/')) (l := path) (by rw [htail]; simp)
        simp only [htail, List.head_cons] at hne
        simpa using hne
      rw [hd, List.reverse_cons, List.append_assoc, List.singleton_append, componentsOf_append_cons,
        componentsOf_append_cons, componentsOf_nil, List.append_nil, hlast]

/-- The directory of a path, as far as the path has one. It is a beginning of the path, and one
step is missing to the path. -/
theorem parent?_spec {path : String} (h : path ≠ "") :
    (parent? path = none ∧ components path = []) ∨
      ∃ above, parent? path = some above ∧ above.toList <+: path.toList ∧ above ≠ path ∧
        ((components path = [] ∧ above = "") ∨ ∃ c, components path = components above ++ [c]) := by
  have hsteps : components path = componentsOf (dropIdle path.toList.reverse).reverse := by
    rw [componentsOf_dropIdle, List.reverse_reverse, components_eq]
  have hsuffix : dropIdle path.toList.reverse <:+ path.toList.reverse := dropIdle_suffix _
  have hcases := dropIdle_cases path.toList.reverse
  unfold parent?
  rw [hsteps]
  generalize dropIdle path.toList.reverse = name at hsuffix hcases ⊢
  rcases hcases with rfl | rfl | rfl | ⟨h₁, h₂⟩
  · exact .inl ⟨rfl, rfl⟩
  · exact .inl ⟨rfl, rfl⟩
  · exact .inr ⟨"", rfl, List.nil_prefix, Ne.symm h, .inl ⟨rfl, rfl⟩⟩
  · obtain ⟨c, _, hc⟩ := componentsOf_reverse_of_name h₁ h₂
    have habove : dropIdle (name.dropWhile (· ≠ '/')) <:+ path.toList.reverse :=
      ((dropIdle_suffix _).trans (List.dropWhile_suffix _)).trans hsuffix
    have hlt : (dropIdle (name.dropWhile (· ≠ '/'))).length < path.toList.reverse.length := by
      have hl := congrArg List.length (List.takeWhile_append_dropWhile (p := fun x => decide (x ≠ '/')) (l := name))
      rw [List.length_append] at hl
      have hpos := List.length_pos_iff.mpr h₁
      have hd := (dropIdle_suffix (name.dropWhile (· ≠ '/'))).length_le
      have hn := hsuffix.length_le
      omega
    refine .inr ⟨String.ofList (dropIdle (name.dropWhile (· ≠ '/'))).reverse, ?_, ?_, ?_, ?_⟩
    · split
      · exact absurd rfl h₁
      · exact absurd rfl h₁
      · exact absurd rfl h₂
      · rfl
    · rw [String.toList_ofList, ← List.reverse_suffix, List.reverse_reverse]
      exact habove
    · intro he
      have hl := congrArg (fun s => s.toList.length) he
      simp only [String.toList_ofList, List.length_reverse] at hl hlt
      omega
    · refine .inr ⟨c, ?_⟩
      rw [hc, components_eq, String.toList_ofList, componentsOf_dropIdle]

end Viewsmith.Files
