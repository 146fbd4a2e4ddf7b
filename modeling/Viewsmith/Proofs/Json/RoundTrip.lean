import Mathlib.Data.String.Basic
import Viewsmith.Json.Printer
import Viewsmith.Json.Reader

namespace Viewsmith.Json

open Viewsmith.Number

mutual

/-- The reader gives this value back: its numbers are whole and fit into 64 bits, its objects are
tables, and no more than `depth` levels are open at once. -/
def Value.IsReadable (depth : Nat) : Value → Prop
  | .null | .bool _ | .string _ => True
  | .number (.whole n) => 0 ≤ n ∧ n < 2 ^ 64
  | .number (.double _) => False
  | .array items => 1 < depth ∧ AllReadable (depth - 1) items
  | .object fields =>
      1 < depth ∧ (fields.map Prod.fst).Pairwise (· < ·) ∧ FieldsReadable (depth - 1) fields

def AllReadable (depth : Nat) : List Value → Prop
  | [] => True
  | v :: rest => v.IsReadable depth ∧ AllReadable depth rest

def FieldsReadable (depth : Nat) : List (String × Value) → Prop
  | [] => True
  | (_, v) :: rest => v.IsReadable depth ∧ FieldsReadable depth rest

end

/-- Nothing that follows can be taken for a part of a number. -/
def Parted (rest : List Char) : Prop :=
  ∀ c ∈ rest.head?, isDigit c = false ∧ c ≠ '.' ∧ c ≠ 'e' ∧ c ≠ 'E'

theorem parted_nil : Parted [] := nofun

theorem parted_cons {c : Char} (rest : List Char)
    (hc : isDigit c = false ∧ c ≠ '.' ∧ c ≠ 'e' ∧ c ≠ 'E') : Parted (c :: rest) := by
  intro d hd
  obtain rfl := Option.some.inj hd
  exact hc

theorem skipBlanks_cons {c : Char} (hc : isBlank c = false) (rest : List Char) :
    skipBlanks (c :: rest) = c :: rest := by
  rw [skipBlanks, List.dropWhile_cons_of_neg (by simp [hc])]

section

theorem hexPair_spec : ∀ n < 0x20, (hexPair n).length = 2 ∧ (hexPair n).all isHexDigit = true ∧
    valueIn 16 ('0' :: '0' :: hexPair n) = n := by
  decide

theorem readEscapedPoint_hexPair {n : Nat} (hn : n < 0x20) (rest : List Char) :
    readEscapedPoint ('0' :: '0' :: (hexPair n ++ rest)) = some (Char.ofNat n, rest) := by
  obtain ⟨hlength, hhex, hvalue⟩ := hexPair_spec n hn
  obtain ⟨a, b, hpair⟩ := List.length_eq_two.mp hlength
  rw [hpair] at hhex hvalue
  have hall : ['0', '0', a, b].all isHexDigit = true := by
    simpa [show isHexDigit '0' = true from rfl] using hhex
  have hunit : readUnit ('0' :: '0' :: (hexPair n ++ rest)) = some (n, rest) := by
    rw [hpair, List.cons_append, List.cons_append, List.nil_append, readUnit, if_pos hall, hvalue]
  have hlow : (decide (n < 0xD800) || decide (0xDFFF < n)) = true := by
    simp only [Bool.or_eq_true, decide_eq_true_eq]
    omega
  simp only [readEscapedPoint, hunit]
  rw [if_pos hlow]

theorem readString_escapedChar (fuel : Nat) (done rest : List Char) (c : Char) :
    readString (fuel + 1) done (escapedChar c ++ rest) = readString fuel (c :: done) rest := by
  unfold escapedChar
  by_cases hquote : c = '"'
  · subst hquote
    rfl
  · by_cases hslash : c = '\\'
    · subst hslash
      rfl
    · by_cases hcontrol : c.toNat < 0x20
      · have hescape : readEscape ('u' :: '0' :: '0' :: (hexPair c.toNat ++ rest)) = some (c, rest) := by
          rw [readEscape, readEscapedPoint_hexPair hcontrol, Char.ofNat_toNat]
        rw [if_neg hquote, if_neg hslash, if_pos hcontrol]
        simp only [List.cons_append, readString, hescape]
        rfl
      · rw [if_neg hquote, if_neg hslash, if_neg hcontrol, List.cons_append, List.nil_append,
          readString, if_neg hquote, if_neg hslash, if_neg hcontrol]

theorem readString_flatMap (cs : List Char) {fuel : Nat} (done rest : List Char)
    (hfuel : cs.length < fuel) :
    readString fuel done (cs.flatMap escapedChar ++ '"' :: rest) =
      some (String.ofList (done.reverse ++ cs), rest) := by
  induction cs generalizing fuel done with
  | nil =>
      obtain ⟨fuel, rfl⟩ := Nat.exists_eq_add_one_of_ne_zero (Nat.ne_of_gt hfuel)
      simp [readString]
  | cons c cs ih =>
      obtain ⟨fuel, rfl⟩ := Nat.exists_eq_add_one_of_ne_zero (Nat.ne_of_gt (Nat.zero_lt_of_lt hfuel))
      rw [List.flatMap_cons, List.append_assoc, readString_escapedChar,
        ih (c :: done) (Nat.lt_of_succ_lt_succ hfuel), List.reverse_cons, List.append_assoc]
      rfl

theorem length_le_flatMap (cs : List Char) : cs.length ≤ (cs.flatMap escapedChar).length := by
  induction cs with
  | nil => simp
  | cons c cs ih =>
      have hpos : 0 < (escapedChar c).length := by
        unfold escapedChar
        split
        · simp
        · split
          · simp
          · split <;> simp
      rw [List.flatMap_cons, List.length_append, List.length_cons]
      omega

theorem readString_stringText (s : String) (rest : List Char) :
    readString ((s.toList.flatMap escapedChar ++ '"' :: rest).length + 1) []
      (s.toList.flatMap escapedChar ++ '"' :: rest) = some (s, rest) := by
  have hlength := length_le_flatMap s.toList
  rw [readString_flatMap, List.reverse_nil, List.nil_append, String.ofList_toList]
  rw [List.length_append]
  omega

end

section

theorem exists_toDigits_eq_cons (n : Nat) :
    ∃ c cs, Nat.toDigits 10 n = c :: cs ∧ isDigit c = true := by
  cases hdigits : Nat.toDigits 10 n with
  | nil => exact absurd hdigits Nat.toDigits_ne_nil
  | cons c cs =>
      exact ⟨c, cs, rfl,
        Nat.isDigit_of_mem_toDigits (by decide) (by decide) (hdigits ▸ List.mem_cons_self)⟩

theorem ne_of_isDigit {c d : Char} (hc : isDigit c = true) (hd : isDigit d = false) : c ≠ d := by
  rintro rfl
  rw [hc] at hd
  cases hd

theorem not_isBlank_of_isDigit {c : Char} (hc : isDigit c = true) : isBlank c = false := by
  have hne (d : Char) (hd : isDigit d = false) : c ≠ d := ne_of_isDigit hc hd
  simp [isBlank, hne ' ' rfl, hne '\t' rfl, hne '\n' rfl, hne '\r' rfl]

theorem digitValue_of_isDigit {c : Char} (hc : isDigit c = true) : digitValue c = c.toNat - 48 := by
  rw [digitValue, if_pos hc]

theorem le_ofDigitChars (ds : List Char) (m : Nat) : m ≤ Nat.ofDigitChars 10 ds m := by
  induction ds generalizing m with
  | nil => exact Nat.le_refl m
  | cons c ds ih =>
      rw [Nat.ofDigitChars_cons]
      have htail := ih (10 * m + (c.toNat - '0'.toNat))
      omega

/-- All digits are taken if the number fits. -/
theorem takeMantissa_of_le {ds : List Char} (hds : ∀ c ∈ ds, isDigit c = true) (m count : Nat)
    (hfits : Nat.ofDigitChars 10 ds m ≤ mantissaLimit) :
    takeMantissa m count ds = (Nat.ofDigitChars 10 ds m, count + ds.length, []) := by
  induction ds generalizing m count with
  | nil => rfl
  | cons c ds ih =>
      rw [List.forall_mem_cons] at hds
      have hvalue : m * 10 + digitValue c = 10 * m + (c.toNat - '0'.toNat) := by
        rw [digitValue_of_isDigit hds.1, Nat.mul_comm]
        rfl
      rw [Nat.ofDigitChars_cons, ← hvalue] at hfits
      have hle := le_ofDigitChars ds (m * 10 + digitValue c)
      rw [takeMantissa, if_neg (Nat.not_lt.mpr (hle.trans hfits)), ih hds.2 _ _ hfits,
        Nat.ofDigitChars_cons, ← hvalue, List.length_cons, Nat.add_right_comm, Nat.add_assoc]

theorem head?_toDigits_ne {n : Nat} (hn : n ≠ 0) : (Nat.toDigits 10 n).head? ≠ some '0' := by
  induction n using Nat.strong_induction_on with
  | _ n ih =>
      rcases Nat.lt_or_ge n 10 with hlt | hge
      · rw [Nat.toDigits_of_lt_base hlt]
        have hdigits : ∀ m < 10, m ≠ 0 → [Nat.digitChar m].head? ≠ some '0' := by decide
        exact hdigits n hlt hn
      · have hrest := ih (n / 10) (Nat.div_lt_self (by omega) (by decide)) (by omega)
        rw [Nat.toDigits_of_base_le (by decide) hge, List.head?_append_of_ne_nil _ Nat.toDigits_ne_nil]
        exact hrest

/-- Digits do not begin with a zero unless they are one digit. -/
theorem toDigits_ne_zero_cons (n : Nat) (c : Char) (cs : List Char) :
    Nat.toDigits 10 n ≠ '0' :: c :: cs := by
  intro h
  by_cases hn : n = 0
  · rw [hn, Nat.toDigits_zero] at h
    cases h
  · exact head?_toDigits_ne hn (by rw [h]; rfl)

theorem readUnsignedNumber_toDigits {n : Nat} (hn : n < 2 ^ 64) {rest : List Char}
    (hrest : Parted rest) :
    readUnsignedNumber false (Nat.toDigits 10 n ++ rest) = some (.whole n, rest) := by
  have hdigits : ∀ c ∈ Nat.toDigits 10 n, isDigit c = true := fun c hc =>
    Nat.isDigit_of_mem_toDigits (by decide) (by decide) hc
  have htake : (Nat.toDigits 10 n ++ rest).takeWhile isDigit = Nat.toDigits 10 n := by
    rw [List.takeWhile_append_of_pos hdigits]
    cases rest with
    | nil => simp
    | cons c rest => simp [(hrest c rfl).1]
  have hdrop : (Nat.toDigits 10 n ++ rest).dropWhile isDigit = rest := by
    rw [List.dropWhile_append_of_pos hdigits]
    cases rest with
    | nil => rfl
    | cons c rest => simp [(hrest c rfl).1]
  have hvalue : Nat.ofDigitChars 10 (Nat.toDigits 10 n) 0 = n :=
    Nat.ofDigitChars_toDigits (by decide) (by decide)
  have hmantissa := takeMantissa_of_le hdigits 0 0 (hvalue.le.trans (Nat.le_pred_of_lt hn))
  have hfinish : finishNumber false (Nat.toDigits 10 n) rest = some (.whole n, rest) := by
    unfold finishNumber
    rw [hmantissa, hvalue]
    cases rest with
    | nil => rfl
    | cons c rest =>
        obtain ⟨-, hpoint, hsmall, hcapital⟩ := hrest c rfl
        dsimp only
        split
        · exact absurd (List.cons.inj ‹_›).1 hpoint
        · exact absurd (List.cons.inj ‹_›).1 hsmall
        · exact absurd (List.cons.inj ‹_›).1 hcapital
        · rfl
  unfold readUnsignedNumber
  rw [htake, hdrop]
  dsimp only
  split
  · exact absurd ‹_› Nat.toDigits_ne_nil
  · exact absurd ‹_› (toDigits_ne_zero_cons n _ _)
  · exact hfinish

theorem readNumber_toDigits {n : Nat} (hn : n < 2 ^ 64) {rest : List Char} (hrest : Parted rest) :
    readNumber (Nat.toDigits 10 n ++ rest) = some (.whole n, rest) := by
  have hread := readUnsignedNumber_toDigits hn hrest
  obtain ⟨c, cs, hdigits, hc⟩ := exists_toDigits_eq_cons n
  rw [hdigits, List.cons_append] at hread ⊢
  unfold readNumber
  split
  · exact absurd (List.cons.inj ‹_›).1 (ne_of_isDigit hc rfl)
  · exact hread

end

section

theorem readValue_toDigits {n : Nat} (hn : n < 2 ^ 64) (fuel depth : Nat) {rest : List Char}
    (hrest : Parted rest) :
    readValue (fuel + 1) depth (Nat.toDigits 10 n ++ rest) = some (.number (.whole n), rest) := by
  have hread := readNumber_toDigits hn hrest
  obtain ⟨c, cs, hdigits, hc⟩ := exists_toDigits_eq_cons n
  rw [hdigits, List.cons_append] at hread ⊢
  rw [readValue, skipBlanks_cons (not_isBlank_of_isDigit hc)]
  split
  · cases ‹_›
  · exact absurd (List.cons.inj ‹_›).1 (ne_of_isDigit hc rfl)
  · exact absurd (List.cons.inj ‹_›).1 (ne_of_isDigit hc rfl)
  · exact absurd (List.cons.inj ‹_›).1 (ne_of_isDigit hc rfl)
  · obtain ⟨rfl, rfl⟩ := List.cons.inj ‹_›
    rw [hc, Bool.or_true, if_pos rfl, hread]
    rfl

theorem stringText_append (s : String) (rest : List Char) :
    stringText s ++ rest = '"' :: (s.toList.flatMap escapedChar ++ '"' :: rest) := by
  simp [stringText]

theorem readValue_string (s : String) (fuel depth : Nat) (rest : List Char) :
    readValue (fuel + 1) depth (stringText s ++ rest) = some (.string s, rest) := by
  have hquote (text : List Char) : readValue (fuel + 1) depth ('"' :: text) =
      (readString (text.length + 1) [] text).map fun read => (.string read.1, read.2) := by
    rw [readValue]
    rfl
  rw [stringText_append, hquote, readString_stringText]
  rfl

theorem whole_text (n : Nat) : valueText (.number (.whole n)) = Nat.toDigits 10 n := by
  have htext : (Numeral.whole n).text = toString n := rfl
  rw [valueText, htext, Nat.toString_eq_ofList_toDigits, String.toList_ofList]

/-- A value does not begin with a blank or with the end of an array. -/
theorem valueText_head {depth : Nat} {v : Value} (hv : v.IsReadable depth) :
    ∃ c cs, valueText v = c :: cs ∧ isBlank c = false ∧ c ≠ ']' := by
  cases v with
  | null => exact ⟨'n', _, rfl, rfl, by decide⟩
  | bool b =>
      cases b with
      | true => exact ⟨'t', _, rfl, rfl, by decide⟩
      | false => exact ⟨'f', _, rfl, rfl, by decide⟩
  | string s => exact ⟨'"', _, rfl, rfl, by decide⟩
  | array items => exact ⟨'[', _, rfl, rfl, by decide⟩
  | object fields => exact ⟨'\x7b', _, rfl, rfl, by decide⟩
  | number n =>
      cases n with
      | double x => exact hv.elim
      | whole n =>
          obtain ⟨n, rfl⟩ := Int.eq_ofNat_of_zero_le hv.1
          obtain ⟨c, cs, hdigits, hc⟩ := exists_toDigits_eq_cons n
          exact ⟨c, cs, (whole_text n).trans hdigits, not_isBlank_of_isDigit hc, ne_of_isDigit hc rfl⟩

theorem set_of_lt {α : Type} {table : List (String × α)} {key : String} (v : α)
    (hkey : ∀ e ∈ table, e.1 < key) : Table.set key v table = table ++ [(key, v)] := by
  induction table with
  | nil => rfl
  | cons e rest ih =>
      obtain ⟨k, w⟩ := e
      rw [List.forall_mem_cons] at hkey
      rw [Table.set, if_neg (lt_asymm hkey.1), if_neg (ne_of_gt hkey.1), ih hkey.2, List.cons_append]

theorem itemsText_cons (v w : Value) (rest : List Value) :
    itemsText (v :: w :: rest) = valueText v ++ ',' :: itemsText (w :: rest) := by
  rw [itemsText]
  simp

theorem fieldsText_cons (k : String) (v : Value) (e : String × Value)
    (rest : List (String × Value)) : fieldsText ((k, v) :: e :: rest) =
      stringText k ++ ':' :: valueText v ++ ',' :: fieldsText (e :: rest) := by
  rw [fieldsText]
  simp

theorem itemsText_head {depth : Nat} {v : Value} (hv : v.IsReadable depth) (others : List Value) :
    ∃ c cs, itemsText (v :: others) = c :: cs ∧ isBlank c = false ∧ c ≠ ']' := by
  obtain ⟨c, cs, htext, hblank, hend⟩ := valueText_head hv
  cases others with
  | nil => exact ⟨c, cs, by rw [itemsText, htext], hblank, hend⟩
  | cons w others => exact ⟨c, _, by rw [itemsText_cons, htext, List.cons_append], hblank, hend⟩

theorem fieldsText_head (e : String × Value) (others : List (String × Value)) :
    ∃ cs, fieldsText (e :: others) = '"' :: cs := by
  obtain ⟨k, v⟩ := e
  cases others with
  | nil => exact ⟨_, by rw [fieldsText, stringText]; rfl⟩
  | cons e others => exact ⟨_, by rw [fieldsText_cons, stringText]; rfl⟩

theorem readItems_last {fuel depth : Nat} {v : Value} {text rest : List Char} (done : List Value)
    (hv : readValue fuel depth text = some (v, ']' :: rest)) :
    readItems (fuel + 1) depth done text = some (.array (v :: done).reverse, rest) := by
  have hend : skipBlanks (']' :: rest) = ']' :: rest := skipBlanks_cons rfl rest
  simp only [readItems, hv, hend]

theorem readItems_next {fuel depth : Nat} {v : Value} {text rest : List Char} (done : List Value)
    (hv : readValue fuel depth text = some (v, ',' :: rest)) :
    readItems (fuel + 1) depth done text = readItems fuel depth (v :: done) rest := by
  have hcomma : skipBlanks (',' :: rest) = ',' :: rest := skipBlanks_cons rfl rest
  simp only [readItems, hv, hcomma]

theorem readString_key (k : String) (text : List Char) :
    readString ((k.toList.flatMap escapedChar ++ '"' :: ':' :: text).length + 1) []
      (k.toList.flatMap escapedChar ++ '"' :: ':' :: text) = some (k, ':' :: text) :=
  readString_stringText k _

theorem readFields_last {fuel depth : Nat} {v : Value} {text rest : List Char}
    (done : List (String × Value)) (k : String)
    (hv : readValue fuel depth text = some (v, '\x7d' :: rest)) :
    readFields (fuel + 1) depth done (stringText k ++ ':' :: text) =
      some (.object (Table.set k v done), rest) := by
  have hcolon : skipBlanks (':' :: text) = ':' :: text := skipBlanks_cons rfl text
  have hend : skipBlanks ('\x7d' :: rest) = '\x7d' :: rest := skipBlanks_cons rfl rest
  rw [stringText_append, readFields, skipBlanks_cons rfl]
  simp only [readString_key, hcolon, hv, hend]

theorem readFields_next {fuel depth : Nat} {v : Value} {text rest : List Char}
    (done : List (String × Value)) (k : String)
    (hv : readValue fuel depth text = some (v, ',' :: rest)) :
    readFields (fuel + 1) depth done (stringText k ++ ':' :: text) =
      readFields fuel depth (Table.set k v done) rest := by
  have hcolon : skipBlanks (':' :: text) = ':' :: text := skipBlanks_cons rfl text
  have hcomma : skipBlanks (',' :: rest) = ',' :: rest := skipBlanks_cons rfl rest
  rw [stringText_append, readFields, skipBlanks_cons rfl]
  simp only [readString_key, hcolon, hv, hcomma]

theorem readValue_bracket {depth : Nat} (hdepth : 1 < depth) (fuel : Nat) {c : Char}
    {cs : List Char} (hblank : isBlank c = false) (hend : c ≠ ']') :
    readValue (fuel + 1) depth ('[' :: c :: cs) = readItems fuel (depth - 1) [] (c :: cs) := by
  rw [readValue, skipBlanks_cons rfl]
  simp only [skipBlanks_cons hblank]
  rw [if_neg (Nat.not_le.mpr hdepth)]
  split
  · exact absurd (List.cons.inj ‹_›).1 hend
  · rfl

theorem readValue_brace {depth : Nat} (hdepth : 1 < depth) (fuel : Nat) (cs : List Char) :
    readValue (fuel + 1) depth ('\x7b' :: '"' :: cs) =
      readFields fuel (depth - 1) [] ('"' :: cs) := by
  rw [readValue, skipBlanks_cons rfl]
  simp only [skipBlanks_cons (show isBlank '"' = false from rfl)]
  rw [if_neg (Nat.not_le.mpr hdepth)]
  rfl

theorem readValue_no_items {depth : Nat} (hdepth : 1 < depth) (fuel : Nat) (rest : List Char) :
    readValue (fuel + 1) depth ('[' :: ']' :: rest) = some (.array [], rest) := by
  rw [readValue, skipBlanks_cons rfl]
  simp only [skipBlanks_cons (show isBlank ']' = false from rfl)]
  rw [if_neg (Nat.not_le.mpr hdepth)]

theorem readValue_no_fields {depth : Nat} (hdepth : 1 < depth) (fuel : Nat) (rest : List Char) :
    readValue (fuel + 1) depth ('\x7b' :: '\x7d' :: rest) = some (.object [], rest) := by
  rw [readValue, skipBlanks_cons rfl]
  simp only [skipBlanks_cons (show isBlank '\x7d' = false from rfl)]
  rw [if_neg (Nat.not_le.mpr hdepth)]

theorem parted_of_mem {c : Char} (hc : c ∈ [',', ']', '\x7d']) (rest : List Char) :
    Parted (c :: rest) := by
  simp only [List.mem_cons, List.not_mem_nil, or_false] at hc
  rcases hc with rfl | rfl | rfl <;> exact parted_cons rest (by decide)

mutual

theorem readValue_valueText (v : Value) {depth fuel : Nat} (hv : v.IsReadable depth)
    (hfuel : (valueText v).length ≤ fuel) {rest : List Char} (hrest : Parted rest) :
    readValue fuel depth (valueText v ++ rest) = some (v, rest) := by
  -- Each call takes one unit of fuel, and no value is printed as the empty text.
  have hpos : fuel ≠ 0 := by
    obtain ⟨c, cs, htext, -⟩ := valueText_head hv
    rw [htext, List.length_cons] at hfuel
    omega
  obtain ⟨fuel, rfl⟩ := Nat.exists_eq_add_one_of_ne_zero hpos
  cases v with
  | null => rfl
  | bool b => cases b <;> rfl
  | string s => exact readValue_string s fuel depth rest
  | number n =>
      cases n with
      | double x => exact hv.elim
      | whole n =>
          obtain ⟨hlow, hhigh⟩ := hv
          obtain ⟨n, rfl⟩ := Int.eq_ofNat_of_zero_le hlow
          rw [whole_text]
          exact readValue_toDigits (by exact_mod_cast hhigh) fuel depth hrest
  | array items =>
      obtain ⟨hdepth, hitems⟩ := hv
      rw [valueText, List.length_append, List.length_cons, List.length_singleton] at hfuel
      rw [valueText, List.append_assoc, List.cons_append, List.singleton_append]
      cases items with
      | nil => exact readValue_no_items hdepth fuel rest
      | cons v others =>
          have hread := readItems_itemsText (v :: others) (List.cons_ne_nil v others) hitems []
            (show (itemsText (v :: others)).length < fuel by omega) rest
          obtain ⟨c, cs, htext, hblank, hend⟩ := itemsText_head hitems.1 others
          rw [htext, List.cons_append] at hread ⊢
          rw [readValue_bracket hdepth fuel hblank hend, hread]
          rfl
  | object fields =>
      obtain ⟨hdepth, hkeys, hfields⟩ := hv
      rw [valueText, List.length_append, List.length_cons, List.length_singleton] at hfuel
      rw [valueText, List.append_assoc, List.cons_append, List.singleton_append]
      cases fields with
      | nil => exact readValue_no_fields hdepth fuel rest
      | cons e others =>
          have hread := readFields_fieldsText (e :: others) (List.cons_ne_nil e others) hfields []
            hkeys (show (fieldsText (e :: others)).length < fuel by omega) rest
          obtain ⟨cs, htext⟩ := fieldsText_head e others
          rw [htext, List.cons_append] at hread ⊢
          rw [readValue_brace hdepth fuel, hread]
          rfl

theorem readItems_itemsText (items : List Value) (hne : items ≠ []) {depth fuel : Nat}
    (hitems : AllReadable depth items) (done : List Value)
    (hfuel : (itemsText items).length < fuel) (rest : List Char) :
    readItems fuel depth done (itemsText items ++ ']' :: rest) =
      some (.array (done.reverse ++ items), rest) := by
  obtain ⟨fuel, rfl⟩ := Nat.exists_eq_add_one_of_ne_zero (Nat.ne_of_gt (Nat.zero_lt_of_lt hfuel))
  cases items with
  | nil => exact absurd rfl hne
  | cons v others =>
      cases others with
      | nil =>
          have hread := readValue_valueText v hitems.1 (Nat.le_of_lt_succ hfuel)
            (parted_of_mem (c := ']') (by decide) rest)
          rw [itemsText, readItems_last done hread]
          simp
      | cons w others =>
          rw [itemsText_cons, List.length_append, List.length_cons] at hfuel
          have hread := readValue_valueText v hitems.1 (show (valueText v).length ≤ fuel by omega)
            (parted_of_mem (c := ',') (by decide) (itemsText (w :: others) ++ ']' :: rest))
          have hrest := readItems_itemsText (w :: others) (List.cons_ne_nil w others) hitems.2
            (v :: done) (show (itemsText (w :: others)).length < fuel by omega) rest
          rw [itemsText_cons, List.append_assoc, List.cons_append, readItems_next done hread]
          simpa using hrest

theorem readFields_fieldsText (fields : List (String × Value)) (hne : fields ≠ [])
    {depth fuel : Nat} (hfields : FieldsReadable depth fields) (done : List (String × Value))
    (hkeys : ((done ++ fields).map Prod.fst).Pairwise (· < ·))
    (hfuel : (fieldsText fields).length < fuel) (rest : List Char) :
    readFields fuel depth done (fieldsText fields ++ '\x7d' :: rest) =
      some (.object (done ++ fields), rest) := by
  obtain ⟨fuel, rfl⟩ := Nat.exists_eq_add_one_of_ne_zero (Nat.ne_of_gt (Nat.zero_lt_of_lt hfuel))
  cases fields with
  | nil => exact absurd rfl hne
  | cons e others =>
      obtain ⟨k, v⟩ := e
      have hset : Table.set k v done = done ++ [(k, v)] := by
        rw [List.map_append, List.pairwise_append] at hkeys
        exact set_of_lt v fun e he => hkeys.2.2 e.1 (List.mem_map_of_mem he) k List.mem_cons_self
      cases others with
      | nil =>
          rw [fieldsText, List.length_append, List.length_cons] at hfuel
          have hread := readValue_valueText v hfields.1 (show (valueText v).length ≤ fuel by omega)
            (parted_of_mem (c := '\x7d') (by decide) rest)
          rw [fieldsText, List.append_assoc, List.cons_append, readFields_last done k hread]
          simp [hset]
      | cons e others =>
          rw [fieldsText_cons, List.length_append, List.length_append, List.length_cons,
            List.length_cons] at hfuel
          have hread := readValue_valueText v hfields.1 (show (valueText v).length ≤ fuel by omega)
            (parted_of_mem (c := ',') (by decide) (fieldsText (e :: others) ++ '\x7d' :: rest))
          have hrest := readFields_fieldsText (e :: others) (List.cons_ne_nil e others) hfields.2
            (done ++ [(k, v)]) (by rw [List.append_assoc]; exact hkeys)
            (show (fieldsText (e :: others)).length < fuel by omega) rest
          rw [fieldsText_cons, List.append_assoc, List.append_assoc, List.cons_append,
            List.cons_append, readFields_next done k hread]
          simpa [hset] using hrest

end

/-- What was printed is read back. -/
theorem parse_print {v : Value} (hv : v.IsReadable depthLimit) : parse (print v) = some v := by
  have hfuel : (valueText v).length ≤ 2 * (valueText v).length + 2 := by omega
  have hread := readValue_valueText v hv hfuel parted_nil
  rw [List.append_nil] at hread
  rw [parse, parseWithin, print, String.toList_ofList, hread]
  rfl

end

end Viewsmith.Json
