import Viewsmith.Text.Search

namespace Viewsmith.Routing

/-- The characters that `\d` stands for: the decimal digits of Unicode. Nothing is fixed about those
beyond ASCII. -/
structure Digits where
  has : Char → Bool
  ascii (c : Char) : c.toNat < 128 → has c = c.isDigit

def asciiDigits : Digits := ⟨Char.isDigit, fun _ _ => rfl⟩

inductive CharClass
  | exactly (c : Char)
  | digit
  | among (ranges : List (Char × Char))
deriving DecidableEq

def CharClass.has (d : Digits) : CharClass → Char → Bool
  | .exactly e, c => c == e
  | .digit, c => d.has c
  | .among ranges, c => ranges.any fun r => r.1 ≤ c && c ≤ r.2

inductive Token
  | start
  | finish
  | one (p : CharClass)
  | plus
  | opening
  | closing
deriving DecidableEq

def reserved : List Char := ['.', '^', '$', '*', '+', '?', '\x7b', '\x7d', '[', ']', '\\', '|', '(', ')']

def reservedInSet : List Char := ['^', '[', ']', '\\']

inductive Place
  | plain
  | name
  | set (ranges : List (Char × Char))

def scan : Place → List Char → Option (List Token)
  | .plain, [] => some []
  | .plain, '^' :: cs => (scan .plain cs).map (.start :: ·)
  | .plain, '$' :: cs => (scan .plain cs).map (.finish :: ·)
  | .plain, '+' :: cs => (scan .plain cs).map (.plus :: ·)
  | .plain, '(' :: '?' :: 'P' :: '<' :: c :: cs =>
      if c.isAlpha then (scan .name cs).map (.opening :: ·) else none
  | .plain, ')' :: cs => (scan .plain cs).map (.closing :: ·)
  | .plain, '\\' :: 'd' :: cs => (scan .plain cs).map (.one .digit :: ·)
  | .plain, '[' :: cs => scan (.set []) cs
  | .plain, c :: cs => if c ∈ reserved then none else (scan .plain cs).map (.one (.exactly c) :: ·)
  | .name, [] => none
  | .name, '>' :: cs => scan .plain cs
  | .name, c :: cs => if c.isAlpha then scan .name cs else none
  | .set _, [] => none
  | .set ranges, ']' :: cs =>
      if ranges.isEmpty then none else (scan .plain cs).map (.one (.among ranges) :: ·)
  | .set ranges, a :: '-' :: b :: cs =>
      if a ∈ reservedInSet ∨ b ∈ reservedInSet ∨ b < a then none
      else scan (.set (ranges ++ [(a, b)])) cs
  | .set ranges, a :: cs =>
      if a ∈ reservedInSet then none else scan (.set (ranges ++ [(a, a)])) cs

inductive Item
  | start
  | finish
  | one (p : CharClass)
  | many (p : CharClass)
deriving DecidableEq

/-- The items of an expression: `+` repeats the character before it. Groups have no say in what is
matched, but they have to be closed. -/
def grouped : Bool → List Token → Option (List Item)
  | false, [] => some []
  | true, [] => none
  | inside, .start :: ts => (grouped inside ts).map (.start :: ·)
  | inside, .finish :: ts => (grouped inside ts).map (.finish :: ·)
  | inside, .one p :: .plus :: ts => (grouped inside ts).map (.many p :: ·)
  | inside, .one p :: ts => (grouped inside ts).map (.one p :: ·)
  | false, .opening :: ts => grouped true ts
  | true, .closing :: ts => grouped false ts
  | _, _ :: _ => none

def items? (regex : String) : Option (List Item) :=
  (scan .plain regex.toList).bind (grouped false)

example : items? "^post/(?P<pk>\\d+)/$" = some
    [.start, .one (.exactly 'p'), .one (.exactly 'o'), .one (.exactly 's'), .one (.exactly 't'),
      .one (.exactly '/'), .many .digit, .one (.exactly '/'), .finish] := by decide

def someThen (p : Char → Bool) (rest : List Char → Bool) : List Char → Bool
  | [] => false
  | c :: cs => p c && (rest cs || someThen p rest cs)

/-- The items match at the beginning of a text, which may itself be the beginning of the path. The
end of the path is also before a line feed that is its last character. -/
def fits (d : Digits) (first : Bool) : List Item → List Char → Bool
  | [], _ => true
  | .start :: items, cs => first && fits d first items cs
  | .finish :: items, cs => (cs == [] || cs == ['\n']) && fits d first items cs
  | .one _ :: _, [] => false
  | .one p :: items, c :: cs => p.has d c && fits d false items cs
  | .many p :: items, cs => someThen (p.has d) (fits d false items) cs

def search (d : Digits) (items : List Item) (first : Bool) : List Char → Bool
  | [] => fits d first items []
  | c :: cs => fits d first items (c :: cs) || search d items false cs

def matchesPath (d : Digits) (regex path : String) : Bool :=
  match items? regex with
  | some items => search d items true path.toList
  | none => false

def literal (w : List Char) : List Item := w.map fun c => .one (.exactly c)

section

variable {w : List Char}

theorem scan_cons {c : Char} (hc : c ∉ reserved) (cs : List Char) :
    scan .plain (c :: cs) = (scan .plain cs).map (.one (.exactly c) :: ·) := by
  rw [scan, if_neg hc]
  all_goals
    intros
    simp_all [reserved]

theorem scan_literal (h : ∀ c ∈ w, c ∉ reserved) (cs : List Char) : scan .plain (w ++ cs) =
    (scan .plain cs).map (w.map (fun c => .one (.exactly c)) ++ ·) := by
  induction w with
  | nil => simp
  | cons c w ih =>
      rw [List.forall_mem_cons] at h
      rw [List.cons_append, scan_cons h.1, ih h.2, Option.map_map]
      rfl

theorem head_one_ne_plus (p : CharClass) (ts : List Token) :
    (Token.one p :: ts).head? ≠ some .plus := by
  simp

theorem grouped_one {inside : Bool} {p : CharClass} {ts : List Token}
    (hts : ts.head? ≠ some .plus) :
    grouped inside (.one p :: ts) = (grouped inside ts).map (.one p :: ·) := by
  rw [grouped]
  rintro rest rfl
  exact hts rfl

theorem grouped_literal {inside : Bool} {ts : List Token} (hts : ts.head? ≠ some .plus) :
    grouped inside (w.map (fun c => .one (.exactly c)) ++ ts) =
      (grouped inside ts).map (literal w ++ ·) := by
  induction w with
  | nil => simp [literal]
  | cons c w ih =>
      have hnext : (w.map (fun c => Token.one (.exactly c)) ++ ts).head? ≠ some .plus := by
        cases w with
        | nil => exact hts
        | cons e w => exact head_one_ne_plus _ _
      rw [List.map_cons, List.cons_append, grouped_one hnext, ih, Option.map_map]
      rfl

end

section

variable {d : Digits} {first : Bool} {items : List Item} {cs : List Char}

theorem someThen_iff {p : Char → Bool} {rest : List Char → Bool} : someThen p rest cs = true ↔
    ∃ w after, w ≠ [] ∧ (∀ c ∈ w, p c = true) ∧ cs = w ++ after ∧ rest after = true := by
  induction cs with
  | nil =>
      simp only [someThen, Bool.false_eq_true, false_iff]
      rintro ⟨w, after, hne, -, hcs, -⟩
      exact hne (List.append_eq_nil_iff.mp hcs.symm).1
  | cons c cs ih =>
      rw [someThen, Bool.and_eq_true, Bool.or_eq_true, ih]
      constructor
      · rintro ⟨hc, hrest | ⟨w, after, -, hw, rfl, hafter⟩⟩
        · exact ⟨[c], cs, by simp, by simpa using hc, rfl, hrest⟩
        · exact ⟨c :: w, after, by simp, by simpa using ⟨hc, hw⟩, rfl, hafter⟩
      · rintro ⟨w, after, hne, hw, hcs, hafter⟩
        cases w with
        | nil => exact absurd rfl hne
        | cons e w =>
            obtain ⟨rfl, rfl⟩ := List.cons.inj hcs
            rw [List.forall_mem_cons] at hw
            refine ⟨hw.1, ?_⟩
            cases w with
            | nil => exact .inl hafter
            | cons e w => exact .inr ⟨e :: w, after, by simp, hw.2, rfl, hafter⟩

theorem fits_literal {w : List Char} : fits d first (literal w ++ items) cs = true ↔
    ∃ after, cs = w ++ after ∧ fits d (first && w.isEmpty) items after = true := by
  induction w generalizing first cs with
  | nil => simp [literal]
  | cons e w ih =>
      cases cs with
      | nil => simp [literal, fits]
      | cons c cs =>
          have hstep : fits d first (literal (e :: w) ++ items) (c :: cs) =
              (c == e && fits d false (literal w ++ items) cs) := rfl
          rw [hstep, Bool.and_eq_true, beq_iff_eq, ih, Bool.false_and, List.isEmpty_cons, Bool.and_false]
          constructor
          · rintro ⟨rfl, after, rfl, hafter⟩
            exact ⟨after, rfl, hafter⟩
          · rintro ⟨after, hcs, hafter⟩
            obtain ⟨rfl, rfl⟩ := List.cons.inj hcs
            exact ⟨rfl, after, rfl, hafter⟩

/-- An expression that begins with `^` is only tried at the beginning of the path. -/
theorem search_start : search d (.start :: items) true cs = fits d true items cs := by
  have hlater (cs : List Char) : search d (.start :: items) false cs = false := by
    induction cs with
    | nil => rfl
    | cons c cs ih => rw [search, ih]; rfl
  cases cs with
  | nil => rfl
  | cons c cs => rw [search, hlater, Bool.or_false]; rfl

end

end Viewsmith.Routing
