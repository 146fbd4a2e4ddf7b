namespace Viewsmith.Text

def occurs (piece : List Char) : List Char → Bool
  | [] => piece.isEmpty
  | c :: cs => piece.isPrefixOf (c :: cs) || occurs piece cs

def contains (text piece : String) : Bool :=
  occurs piece.toList text.toList

def startsWith (text piece : String) : Bool :=
  piece.toList.isPrefixOf text.toList

/-- The pieces between the occurrences of `sep`: one more than there are occurrences. -/
def pieces (sep : Char) : List Char → List (List Char)
  | [] => [[]]
  | c :: cs =>
      if c = sep then [] :: pieces sep cs
      else
        match pieces sep cs with
        | [] => [[c]]
        | p :: ps => (c :: p) :: ps

def splitOn (text : String) (sep : Char) : List String :=
  (pieces sep text.toList).map String.ofList

def dropReturn (line : List Char) : List Char :=
  match line.reverse with
  | '\r' :: rest => rest.reverse
  | _ => line

/-- Lines of a text. `line` holds the current one backwards. A last line without a line feed is
kept if it holds anything, carriage return and all. -/
def linesFrom (line : List Char) : List Char → List (List Char)
  | [] => if line.isEmpty then [] else [line.reverse]
  | c :: cs =>
      if c = '\n' then dropReturn line.reverse :: linesFrom [] cs
      else linesFrom (c :: line) cs

def lines (text : String) : List String :=
  (linesFrom [] text.toList).map String.ofList

def join (sep : String) : List String → String
  | [] => ""
  | [s] => s
  | s :: ss => s ++ sep ++ join sep ss

theorem occurs_iff_infix (piece text : List Char) : occurs piece text = true ↔ piece <:+: text := by
  induction text with
  | nil => simp [occurs]
  | cons c cs ih => simp [occurs, ih, List.infix_cons_iff]

theorem pieces_ne_nil (sep : Char) (text : List Char) : pieces sep text ≠ [] := by
  cases text with
  | nil => simp [pieces]
  | cons c cs =>
      unfold pieces
      split
      · simp
      · split <;> simp

theorem pieces_cons_of_ne {sep c : Char} (cs : List Char) (h : c ≠ sep) :
    ∃ p ps, pieces sep cs = p :: ps ∧ pieces sep (c :: cs) = (c :: p) :: ps := by
  cases hp : pieces sep cs with
  | nil => exact absurd hp (pieces_ne_nil sep cs)
  | cons p ps => exact ⟨p, ps, rfl, by simp [pieces, h, hp]⟩

theorem not_mem_of_mem_pieces {sep : Char} {text p : List Char} (h : p ∈ pieces sep text) :
    sep ∉ p := by
  induction text generalizing p with
  | nil =>
      have hp : p = [] := by simpa [pieces] using h
      simp [hp]
  | cons c cs ih =>
      by_cases hc : c = sep
      · rw [pieces, if_pos hc] at h
        rcases List.mem_cons.mp h with rfl | h
        · simp
        · exact ih h
      · obtain ⟨q, qs, hq, he⟩ := pieces_cons_of_ne cs hc
        rw [he] at h
        rw [hq] at ih
        rcases List.mem_cons.mp h with rfl | h
        · intro hm
          rcases List.mem_cons.mp hm with rfl | hm
          · exact hc rfl
          · exact ih (List.mem_cons_self ..) hm
        · exact ih (List.mem_cons_of_mem q h)

theorem intercalate_pieces (sep : Char) (text : List Char) :
    [sep].intercalate (pieces sep text) = text := by
  induction text with
  | nil => simp [pieces, List.intercalate]
  | cons c cs ih =>
      by_cases hc : c = sep
      · rw [pieces, if_pos hc]
        cases hp : pieces sep cs with
        | nil => exact absurd hp (pieces_ne_nil sep cs)
        | cons p ps =>
            rw [hp] at ih
            simp [List.intercalate, List.intersperse, ← ih, hc]
      · obtain ⟨p, ps, hp, he⟩ := pieces_cons_of_ne cs hc
        rw [hp] at ih
        rw [he, ← ih]
        cases ps <;> simp [List.intercalate, List.intersperse]

theorem pieces_of_not_mem {sep : Char} {text : List Char} (h : sep ∉ text) :
    pieces sep text = [text] := by
  induction text with
  | nil => rfl
  | cons c cs ih =>
      rw [List.mem_cons, not_or] at h
      rw [pieces, if_neg (Ne.symm h.1), ih h.2]

theorem pieces_append_cons (sep : Char) (a b : List Char) :
    pieces sep (a ++ sep :: b) = pieces sep a ++ pieces sep b := by
  induction a with
  | nil => simp [pieces]
  | cons c a ih =>
      by_cases hc : c = sep
      · simp [pieces, hc, ih]
      · obtain ⟨p, ps, hp, he⟩ := pieces_cons_of_ne a hc
        rw [he, List.cons_append, pieces, if_neg hc, ih, hp]
        rfl

theorem pieces_eq_pair_iff {sep : Char} {text a b : List Char} :
    pieces sep text = [a, b] ↔ text = a ++ sep :: b ∧ sep ∉ a ∧ sep ∉ b := by
  constructor
  · intro h
    have ha : sep ∉ a := not_mem_of_mem_pieces (h ▸ List.mem_cons_self)
    have hb : sep ∉ b := not_mem_of_mem_pieces (h ▸ List.mem_cons_of_mem a List.mem_cons_self)
    have htext := intercalate_pieces sep text
    rw [h] at htext
    exact ⟨by simpa [List.intercalate] using htext.symm, ha, hb⟩
  · rintro ⟨rfl, ha, hb⟩
    rw [pieces_append_cons, pieces_of_not_mem ha, pieces_of_not_mem hb]
    rfl

theorem splitOn_eq_pair_iff {text a b : String} {sep : Char} :
    splitOn text sep = [a, b] ↔
      text.toList = a.toList ++ sep :: b.toList ∧ sep ∉ a.toList ∧ sep ∉ b.toList := by
  rw [← pieces_eq_pair_iff, splitOn]
  constructor
  · intro h
    have hlist := congrArg (List.map String.toList) h
    simpa [Function.comp_def] using hlist
  · intro h
    simp [h]

end Viewsmith.Text
