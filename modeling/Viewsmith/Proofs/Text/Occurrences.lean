import Mathlib.Data.List.Basic
import Viewsmith.Text.Search

namespace Viewsmith.Text

variable {α : Type} [DecidableEq α]

def occurrences (piece : List α) : List α → Nat
  | [] => 0
  | c :: cs => (if piece <+: c :: cs then 1 else 0) + occurrences piece cs

section

variable {piece text : List α}

theorem occurrences_eq_zero_iff (hne : piece ≠ []) :
    occurrences piece text = 0 ↔ ¬ piece <:+: text := by
  induction text with
  | nil => simp [occurrences, hne]
  | cons c cs ih =>
      rw [occurrences, Nat.add_eq_zero_iff, ih, List.infix_cons_iff, not_or]
      by_cases h : piece <+: c :: cs <;> simp [h]

theorem occurrences_of_not_mem {c : α} (hc : c ∈ piece) (h : c ∉ text) :
    occurrences piece text = 0 := by
  rw [occurrences_eq_zero_iff (List.ne_nil_of_mem hc)]
  intro hstands
  exact h (hstands.subset hc)

theorem occurrences_mono {small : List α} (hne : small ≠ []) (hsmall : small <+: piece)
    (h : occurrences small text = 0) : occurrences piece text = 0 := by
  have hpiece : piece ≠ [] := by
    rintro rfl
    exact hne (List.prefix_nil.mp hsmall)
  rw [occurrences_eq_zero_iff hne] at h
  rw [occurrences_eq_zero_iff hpiece]
  intro hstands
  exact h (hsmall.isInfix.trans hstands)

variable {sep : α} {a b : List α}

omit [DecidableEq α] in
theorem prefix_append_cons_iff (hsep : sep ∉ piece) :
    piece <+: a ++ sep :: b ↔ piece <+: a := by
  constructor
  · intro h
    rcases Nat.lt_or_ge a.length piece.length with hlt | hle
    · have hpart : a ++ [sep] <+: piece := by
        refine List.prefix_of_prefix_length_le ?_ h ?_
        · exact ⟨b, by simp⟩
        · rw [List.length_append, List.length_singleton]
          omega
      exact absurd (hpart.subset (by simp)) hsep
    · exact List.prefix_of_prefix_length_le h (List.prefix_append _ _) hle
  · intro h
    exact h.trans (List.prefix_append _ _)

/-- A character that the piece does not hold cuts the count in two. -/
theorem occurrences_append_cons (hne : piece ≠ []) (hsep : sep ∉ piece) :
    occurrences piece (a ++ sep :: b) = occurrences piece a + occurrences piece b := by
  induction a with
  | nil =>
      have hnot : ¬ piece <+: sep :: b := by
        intro h
        exact hne (List.prefix_nil.mp ((prefix_append_cons_iff (a := []) hsep).mp h))
      simp only [List.nil_append, occurrences, if_neg hnot]
  | cons c a ih =>
      have hiff := prefix_append_cons_iff (a := c :: a) (b := b) hsep
      rw [List.cons_append] at hiff
      rw [List.cons_append, occurrences, occurrences, ih]
      simp only [hiff]
      omega

omit [DecidableEq α] in
theorem infix_append_cons_iff (hne : piece ≠ []) (hsep : sep ∉ piece) :
    piece <:+: a ++ sep :: b ↔ piece <:+: a ∨ piece <:+: b := by
  induction a with
  | nil =>
      have hiff := prefix_append_cons_iff (a := []) (b := b) hsep
      rw [List.nil_append] at hiff ⊢
      simp [List.infix_cons_iff, hiff, hne]
  | cons c a ih =>
      have hiff := prefix_append_cons_iff (a := c :: a) (b := b) hsep
      rw [List.cons_append] at hiff ⊢
      rw [List.infix_cons_iff, hiff, ih, List.infix_cons_iff, or_assoc]

omit [DecidableEq α] in
/-- A piece can only stand around the one separator of the text if it has one itself. -/
theorem infix_around_iff {p q : List α} (ha : sep ∉ a) (hb : sep ∉ b) :
    p ++ sep :: q <:+: a ++ sep :: b ↔ p <:+ a ∧ q <+: b := by
  constructor
  · rintro ⟨before, after, h⟩
    have hsplit : a ++ sep :: b = (before ++ p) ++ sep :: (q ++ after) := by
      rw [← h]
      simp
    obtain ⟨rfl, -, rfl⟩ := (List.append_cons_inj_of_notMem ha hb).mp hsplit
    exact ⟨List.suffix_append _ _, List.prefix_append _ _⟩
  · rintro ⟨⟨before, rfl⟩, after, rfl⟩
    exact ⟨before, after, by simp⟩

omit [DecidableEq α] in
theorem append_singleton_prefix_iff {p : List α} (ha : sep ∉ a) (hb : sep ∉ b) :
    p ++ [sep] <+: a ++ sep :: b ↔ p = a := by
  constructor
  · rintro ⟨r, hr⟩
    rw [List.append_assoc, List.singleton_append, List.append_eq_append_iff] at hr
    rcases hr with ⟨d, rfl, hd⟩ | ⟨d, rfl, hd⟩
    · cases d with
      | nil => simp
      | cons x d =>
          rw [List.cons_append, List.cons.injEq] at hd
          exact absurd (by simp [hd.1]) ha
    · cases d with
      | nil => simp
      | cons x d =>
          rw [List.cons_append, List.cons.injEq] at hd
          exact absurd (by simp [hd.2]) hb
  · rintro rfl
    exact ⟨b, by simp⟩

/-- A piece whose last character stands once in the text can only end there. -/
theorem occurrences_of_once {p : List α} (ha : sep ∉ a) (hb : sep ∉ b) :
    occurrences (p ++ [sep]) (a ++ sep :: b) = if p <:+ a then 1 else 0 := by
  induction a with
  | nil =>
      have hiff := append_singleton_prefix_iff (p := p) ha hb
      have hrest : occurrences (p ++ [sep]) b = 0 := occurrences_of_not_mem (by simp) hb
      rw [List.nil_append] at hiff ⊢
      simp only [occurrences, hrest, hiff, List.suffix_nil, Nat.add_zero]
  | cons c a ih =>
      have hiff := append_singleton_prefix_iff (p := p) ha hb
      rw [List.cons_append] at hiff ⊢
      rw [List.mem_cons, not_or] at ha
      rw [occurrences, ih ha.2]
      simp only [hiff, List.suffix_cons_iff]
      by_cases hp : p = c :: a
      · have hnot : ¬ p <:+ a := by
          intro h
          have hle := h.length_le
          rw [hp, List.length_cons] at hle
          omega
        simp [hp, hp ▸ hnot]
      · simp [hp]

omit [DecidableEq α] in
theorem append_singleton_prefix_append_iff {p : List α} (hp : sep ∉ p) :
    p ++ [sep] <+: a ++ sep :: b ↔ p ++ [sep] <+: a ++ [sep] := by
  have hsplit : a ++ sep :: b = a ++ [sep] ++ b := by simp
  constructor
  · intro h
    rcases Nat.lt_or_ge a.length p.length with hlt | hle
    · have hpart : a ++ [sep] <+: p := by
        refine List.prefix_of_prefix_length_le ?_ ((List.prefix_append p [sep]).trans h) ?_
        · exact ⟨b, hsplit.symm⟩
        · rw [List.length_append, List.length_singleton]
          omega
      exact absurd (hpart.subset (by simp)) hp
    · refine List.prefix_of_prefix_length_le h ⟨b, hsplit.symm⟩ ?_
      rw [List.length_append, List.length_append]
      omega
  · intro h
    rw [hsplit]
    exact h.trans (List.prefix_append _ _)

theorem occurrences_append_last {p : List α} (hp : sep ∉ p) :
    occurrences (p ++ [sep]) (a ++ sep :: b) =
      occurrences (p ++ [sep]) (a ++ [sep]) + occurrences (p ++ [sep]) b := by
  induction a with
  | nil =>
      have hiff := append_singleton_prefix_append_iff (a := []) (b := b) hp
      rw [List.nil_append, List.nil_append] at hiff
      simp only [List.nil_append, occurrences, hiff, Nat.add_zero]
  | cons c a ih =>
      have hiff := append_singleton_prefix_append_iff (a := c :: a) (b := b) hp
      rw [List.cons_append, List.cons_append] at hiff
      simp only [List.cons_append, occurrences, hiff, ih]
      omega

end

section

variable {piece : List Char} (hne : piece ≠ [])

include hne

theorem infix_dropReturn_iff (hreturn : '\r' ∉ piece) (line : List Char) :
    piece <:+: dropReturn line ↔ piece <:+: line := by
  unfold dropReturn
  split
  · rename_i rest hrest
    have hline : line = rest.reverse ++ '\r' :: [] := by
      rw [← line.reverse_reverse, hrest, List.reverse_cons]
    rw [hline, infix_append_cons_iff hne hreturn, List.infix_nil, or_iff_left hne]
  · rfl

theorem exists_mem_linesFrom_iff (hreturn : '\r' ∉ piece) (hfeed : '\n' ∉ piece)
    (line text : List Char) :
    (∃ l ∈ linesFrom line text, piece <:+: l) ↔ piece <:+: line.reverse ++ text := by
  induction text generalizing line with
  | nil =>
      rw [linesFrom, List.append_nil]
      cases line with
      | nil => simp [hne]
      | cons c line => simp
  | cons c text ih =>
      rw [linesFrom]
      by_cases hc : c = '\n'
      · rw [if_pos hc, hc, infix_append_cons_iff hne hfeed, ← infix_dropReturn_iff hne hreturn,
          ← List.nil_append text, ← List.reverse_nil, ← ih]
        simp
      · rw [if_neg hc, ih, List.reverse_cons, List.append_assoc]
        rfl

/-- A piece without line ends stands in a text if it stands in one of its lines. -/
theorem exists_mem_lines_iff {text : String} (hreturn : '\r' ∉ piece) (hfeed : '\n' ∉ piece) :
    (∃ l ∈ lines text, piece <:+: l.toList) ↔ piece <:+: text.toList := by
  have hlines := exists_mem_linesFrom_iff hne hreturn hfeed [] text.toList
  rw [List.reverse_nil, List.nil_append] at hlines
  rw [← hlines, lines]
  simp only [List.mem_map, exists_exists_and_eq_and, String.toList_ofList]

end

theorem contains_eq_true_iff (text piece : String) :
    contains text piece = true ↔ piece.toList <:+: text.toList :=
  occurs_iff_infix piece.toList text.toList

theorem contains_eq_false_iff {text piece : String} (hne : piece ≠ "") :
    contains text piece = false ↔ occurrences piece.toList text.toList = 0 := by
  have hlist : piece.toList ≠ [] := by
    intro h
    exact hne (String.toList_eq_nil_iff.mp h)
  rw [occurrences_eq_zero_iff hlist, ← contains_eq_true_iff, Bool.not_eq_true]

end Viewsmith.Text
