import Viewsmith.Template.Scan

namespace Viewsmith.Template

open Json (Value skipBlanks strip?)

theorem strip?_eq_some_iff (p text rest : List Char) :
    strip? p text = some rest ↔ text = p ++ rest := by
  induction p generalizing text with
  | nil => simp [strip?, eq_comm]
  | cons c p ih =>
      cases text with
      | nil => simp [strip?]
      | cons d text =>
          rw [strip?]
          by_cases h : c = d
          · simp [h, ih]
          · simp [h, Ne.symm h]

theorem strip?_eq_none {p text : List Char} (h : ¬ p <+: text) : strip? p text = none := by
  cases hs : strip? p text with
  | none => rfl
  | some rest => exact absurd ⟨rest, ((strip?_eq_some_iff p text rest).mp hs).symm⟩ h

def reserved : List String := ["this", "else", "null", "true", "false", "as"]

structure PlainWord (w : List Char) : Prop where
  nonempty : w ≠ []
  letters : ∀ c ∈ w, c.isAlpha = true
  free : ∀ p ∈ reserved, ¬ p.toList <+: w

instance (w : List Char) : Decidable (PlainWord w) :=
  decidable_of_iff (w ≠ [] ∧ w.all Char.isAlpha = true ∧ ∀ p ∈ reserved, ¬ p.toList <+: w)
    ⟨fun h => ⟨h.1, List.all_eq_true.mp h.2.1, h.2.2⟩,
      fun h => ⟨h.nonempty, List.all_eq_true.mpr h.letters, h.free⟩⟩

theorem isWordChar_of_isAlpha {c : Char} (h : c.isAlpha = true) : isWordChar c = true := by
  simp [isWordChar, Char.isAlphanum, h]

theorem ne_of_isAlpha {c d : Char} (hc : c.isAlpha = true) (hd : d.isAlpha = false) : c ≠ d := by
  rintro rfl
  rw [hc] at hd
  cases hd

theorem isDigit_of_isAlpha {c : Char} (h : c.isAlpha = true) : Number.isDigit c = false := by
  have hupper : c.isUpper = decide ('A'.val ≤ c.val ∧ c.val ≤ 'Z'.val) := rfl
  have hlower : c.isLower = (decide ('a'.val ≤ c.val) && decide (c.val ≤ 'z'.val)) := rfl
  have hcase : (c.isUpper || c.isLower) = true := h
  cases hd : Number.isDigit c with
  | false => rfl
  | true =>
      simp only [Number.isDigit, hupper, hlower, Bool.or_eq_true, Bool.and_eq_true,
        decide_eq_true_eq, Char.le_def, UInt32.le_iff_toNat_le] at hd hcase
      have hnine : '9'.val.toNat = 57 := rfl
      have hcapital : 'A'.val.toNat = 65 := rfl
      have hsmall : 'a'.val.toNat = 97 := rfl
      omega

def NoLetter (r : List Char) : Prop := ∀ c, r.head? = some c → c.isAlpha = false

section

variable {w r : List Char}

theorem PlainWord.exists_cons (h : PlainWord w) :
    ∃ c cs, w = c :: cs ∧ c.isAlpha = true ∧ ∀ d ∈ cs, d.isAlpha = true := by
  cases w with
  | nil => exact absurd rfl h.nonempty
  | cons c cs =>
      exact ⟨c, cs, rfl, h.letters c List.mem_cons_self, fun d hd => h.letters d (List.mem_cons_of_mem _ hd)⟩

theorem PlainWord.append_ne (h : PlainWord w) {d : Char} (hd : d.isAlpha = false)
    (rest : List Char) : w ++ r ≠ d :: rest := by
  obtain ⟨c, cs, rfl, hc, _⟩ := h.exists_cons
  intro he
  rw [List.cons_append, List.cons.injEq] at he
  exact ne_of_isAlpha hc hd he.1

theorem prefix_of_prefix_append {p : List Char} (hp : ∀ c ∈ p, c.isAlpha = true)
    (hr : NoLetter r) (h : p <+: w ++ r) : p <+: w := by
  rcases List.prefix_or_prefix_of_prefix h (List.prefix_append w r) with hw | ⟨t, rfl⟩
  · exact hw
  · cases t with
    | nil => simp
    | cons c t =>
        obtain ⟨more, hmore⟩ := (List.prefix_append_right_inj w).mp h
        have hc := hr c (by rw [← hmore]; rfl)
        rw [hp c (by simp)] at hc
        cases hc

theorem strip?_reserved (h : PlainWord w) (hr : NoLetter r) {p : String} (hp : p ∈ reserved) :
    strip? p.toList (w ++ r) = none := by
  refine strip?_eq_none fun hbegin => h.free p hp (prefix_of_prefix_append ?_ hr hbegin)
  simp only [reserved, List.mem_cons, List.not_mem_nil, or_false] at hp
  rcases hp with rfl | rfl | rfl | rfl | rfl | rfl
  all_goals exact List.all_eq_true.mp (by decide)

theorem takeWhile_append {p : Char → Bool} (hall : ∀ c ∈ w, p c = true)
    (hr : ∀ c, r.head? = some c → p c = false) :
    (w ++ r).takeWhile p = w ∧ (w ++ r).dropWhile p = r := by
  have hstop : r.takeWhile p = [] ∧ r.dropWhile p = r := by
    cases r with
    | nil => exact ⟨rfl, rfl⟩
    | cons c r => simp [hr c rfl]
  rw [List.takeWhile_append_of_pos hall, List.dropWhile_append_of_pos hall, hstop.1, hstop.2]
  simp

theorem takeWhile_word {p : Char → Bool} (h : PlainWord w) (hp : ∀ c, c.isAlpha = true → p c = true)
    (hr : ∀ c, r.head? = some c → p c = false) :
    (w ++ r).takeWhile p = w ∧ (w ++ r).dropWhile p = r :=
  takeWhile_append (fun c hc => hp c (h.letters c hc)) hr

theorem readWord_plain (h : PlainWord w) (hr : atWordChar r = false) :
    readWord (w ++ r) = some (String.ofList w, r) := by
  have hstop : ∀ c, r.head? = some c → isWordChar c = false := by
    cases r with
    | nil => simp
    | cons c r => simpa [atWordChar] using hr
  obtain ⟨htake, hdrop⟩ := takeWhile_word h (fun c => isWordChar_of_isAlpha) hstop
  obtain ⟨c, cs, hw, _⟩ := h.exists_cons
  rw [readWord, htake, hdrop, hw]

theorem noLetter_of_atWordChar (hr : atWordChar r = false) : NoLetter r := by
  intro c hc
  cases r with
  | nil => cases hc
  | cons d r =>
      cases hc
      cases halpha : c.isAlpha with
      | false => rfl
      | true =>
          rw [atWordChar, isWordChar_of_isAlpha halpha] at hr
          cases hr

theorem readKey_plain (h : PlainWord w) (hr : atWordChar r = false) :
    readKey (w ++ r) = some (String.ofList w, r) := by
  rw [← readWord_plain h hr]
  obtain ⟨c, cs, rfl, hc, _⟩ := h.exists_cons
  have hne := ne_of_isAlpha hc (show '['.isAlpha = false by decide)
  simp [readKey, hne]

theorem keyStep_plain (h : PlainWord w) : keyStep (String.ofList w) = [.key (String.ofList w)] := by
  rw [keyStep, if_neg]
  intro he
  have hword : w = "this".toList := by rw [← he, String.toList_ofList]
  exact h.free "this" (by simp [reserved]) (hword ▸ List.prefix_refl w)

end

def dotted : List (List Char) → List Char
  | [] => []
  | w :: ws => '.' :: w ++ dotted ws

section

variable {w r : List Char} {ws : List (List Char)}

theorem atWordChar_dotted (hr : atWordChar r = false) (ws : List (List Char)) :
    atWordChar (dotted ws ++ r) = false := by
  cases ws with
  | nil => exact hr
  | cons w ws => rfl

theorem length_le_dotted (ws : List (List Char)) : ws.length ≤ (dotted ws).length := by
  induction ws with
  | nil => exact Nat.le_refl _
  | cons w ws ih =>
      simp only [dotted, List.cons_append, List.length_cons, List.length_append]
      omega

theorem readKeys_dotted (hws : ∀ v ∈ ws, PlainWord v) (hr : atWordChar r = false)
    (hdot : atSeparator r = none) {fuel : Nat} (hfuel : ws.length ≤ fuel) :
    readKeys fuel (dotted ws ++ r) = (ws.map fun v => .key (String.ofList v), r) := by
  induction ws generalizing fuel with
  | nil => cases fuel <;> simp [dotted, readKeys, hdot]
  | cons w ws ih =>
      cases fuel with
      | zero => cases hfuel
      | succ fuel =>
          have hw := hws w List.mem_cons_self
          have hkey := readKey_plain hw (atWordChar_dotted hr ws)
          have hrest := ih (fun v hv => hws v (List.mem_cons_of_mem _ hv)) (Nat.le_of_succ_le_succ hfuel)
          simp [dotted, readKeys, atSeparator, hkey, hrest, keyStep_plain hw]

theorem skipThis_plain (h : PlainWord w) (hr : NoLetter r) : skipThis (w ++ r) = w ++ r := by
  have hthis := strip?_reserved h hr (p := "this") (by simp [reserved])
  have hdot : strip? "./".toList (w ++ r) = none := by
    obtain ⟨c, cs, rfl, hc, _⟩ := h.exists_cons
    have hne := ne_of_isAlpha hc (show '.'.isAlpha = false by decide)
    simp [strip?, Ne.symm hne]
  rw [skipThis, hthis, hdot]
  rfl

theorem consumed_append (a b : List Char) : consumed (a ++ b) b = a := by
  simp [consumed]

theorem readUps_plain (h : PlainWord w) (fuel : Nat) : readUps fuel (w ++ r) = ([], w ++ r) := by
  obtain ⟨c, cs, rfl, hc, _⟩ := h.exists_cons
  have hne := ne_of_isAlpha hc (show '.'.isAlpha = false by decide)
  cases fuel <;> simp [readUps, hne]

def pathOf (w : List Char) (ws : List (List Char)) : Path where
  raw := String.ofList (w ++ dotted ws)
  steps := .key (String.ofList w) :: ws.map fun v => .key (String.ofList v)

theorem readPath_plain (h : PlainWord w) (hws : ∀ v ∈ ws, PlainWord v)
    (hr : atWordChar r = false) (hdot : atSeparator r = none) :
    readPath (w ++ (dotted ws ++ r)) = some (pathOf w ws, r) := by
  have hafter := atWordChar_dotted hr ws
  have hmark : readRoot (w ++ (dotted ws ++ r)) = ([], w ++ (dotted ws ++ r)) ∧
      readMark (w ++ (dotted ws ++ r)) = ([], w ++ (dotted ws ++ r)) := by
    obtain ⟨c, cs, rfl, hc, _⟩ := h.exists_cons
    have hne := ne_of_isAlpha hc (show '@'.isAlpha = false by decide)
    simp [readRoot, readMark, strip?, hne, Ne.symm hne]
  have hlength : ws.length ≤ (dotted ws ++ r).length := by
    have hl := length_le_dotted ws
    rw [List.length_append]
    omega
  have hkeys := readKeys_dotted hws hr hdot hlength
  simp only [readPath, skipThis_plain h (noLetter_of_atWordChar hafter), hmark, readUps_plain h,
    readKey_plain h hafter, hkeys, keyStep_plain h]
  rw [← List.append_assoc, consumed_append]
  rfl

theorem skipLiteral_plain (h : PlainWord w) (hr : NoLetter r) (fuel : Nat) :
    skipLiteral fuel (w ++ r) = none := by
  have hnumber : skipNumber (w ++ r) = none := by
    obtain ⟨c, cs, rfl, hc, _⟩ := h.exists_cons
    have hminus := ne_of_isAlpha hc (show '-'.isAlpha = false by decide)
    simp [skipNumber, strip?, Ne.symm hminus, isDigit_of_isAlpha hc]
  have hkeyword (p : String) (hp : p ∈ reserved) : skipKeyword p (w ++ r) = none := by
    rw [skipKeyword, strip?_reserved h hr hp]
  have hnull := hkeyword "null" (by simp [reserved])
  have htrue := hkeyword "true" (by simp [reserved])
  have hfalse := hkeyword "false" (by simp [reserved])
  cases fuel with
  | zero => rfl
  | succ fuel =>
      rw [skipLiteral]
      · simp only [hnumber, hnull, htrue, hfalse]
      all_goals exact fun rest => h.append_ne (by decide) rest

theorem endsAtWord_plain (h : PlainWord w) (hr : NoLetter r) {p : String} (hp : p ∈ reserved) :
    endsAtWord p (w ++ r) = false := by
  rw [endsAtWord, strip?_reserved h hr hp]

theorem readParam_plain (h : PlainWord w) (hws : ∀ v ∈ ws, PlainWord v)
    (hr : atWordChar r = false) (hdot : atSeparator r = none) (fuel : Nat) :
    readParam (fuel + 1) (w ++ (dotted ws ++ r)) = .found (.path (pathOf w ws)) r := by
  have hafter := noLetter_of_atWordChar (atWordChar_dotted hr ws)
  have has := endsAtWord_plain h hafter (p := "as") (by simp [reserved])
  have helse := endsAtWord_plain h hafter (p := "else") (by simp [reserved])
  rw [readParam, atKeyword, has, helse, skipLiteral_plain h hafter, readPath_plain h hws hr hdot]
  · rfl
  · exact fun rest => h.append_ne (by decide) rest

end

def closed (rest : List Char) : List Char := '\x7d' :: '\x7d' :: rest

section

variable {w : List Char} {ws : List (List Char)}

theorem readParams_closed (fuel : Nat) (done : List Param) (hash : List (String × Param))
    (rest : List Char) :
    readParams (fuel + 2) done hash (closed rest) = .found (done.reverse, hash) (closed rest) := by
  have hentry : readEntry (fuel + 1) (closed rest) = .absent := rfl
  have hparam : readParam (fuel + 1) (closed rest) = .absent := rfl
  have hskip : skipBlanks (closed rest) = closed rest := rfl
  rw [readParams, hskip, hentry, hparam]

theorem skipBlanks_plain (h : PlainWord w) {r : List Char} : skipBlanks (w ++ r) = w ++ r := by
  obtain ⟨c, cs, rfl, hc, _⟩ := h.exists_cons
  have hblank : Json.isBlank c = false := by
    simp [Json.isBlank, ne_of_isAlpha hc (show ' '.isAlpha = false by decide),
      ne_of_isAlpha hc (show '\t'.isAlpha = false by decide),
      ne_of_isAlpha hc (show '\n'.isAlpha = false by decide),
      ne_of_isAlpha hc (show '\r'.isAlpha = false by decide)]
  simp [skipBlanks, hblank]

theorem readParams_path (h : PlainWord w) (hws : ∀ v ∈ ws, PlainWord v) (fuel : Nat)
    (rest : List Char) :
    readParams (fuel + 3) [] [] (' ' :: (w ++ (dotted ws ++ closed rest))) =
      .found ([.path (pathOf w ws)], []) (closed rest) := by
  have hafter := atWordChar_dotted (r := closed rest) rfl ws
  have hskip : skipBlanks (' ' :: (w ++ (dotted ws ++ closed rest))) =
      w ++ (dotted ws ++ closed rest) := skipBlanks_plain h
  have hentry : readEntry (fuel + 2) (w ++ (dotted ws ++ closed rest)) = .absent := by
    rw [readEntry, readWord_plain h hafter]
    cases ws with
    | nil => rfl
    | cons v vs => rfl
  rw [readParams, hskip, hentry, readParam_plain h hws rfl rfl]
  exact readParams_closed fuel _ _ rest

theorem readTag_of_double {text : List Char} {m : Mark} {rest : List Char}
    (hbrace : ∀ t, text ≠ '\x7b' :: t) (hcomment : ∀ t, text ≠ '!' :: t)
    (hskip : skipTilde text = (false, text)) (h : readMarked false text = some (m, rest)) :
    readTag text = some (m, rest) := by
  have htriple : readTriple text = none := by
    unfold readTriple
    split
    · exact absurd rfl (hbrace _)
    · rfl
  rw [readTag, htriple, readDouble, hskip]
  · exact h
  · exact hcomment

theorem skipTilde_plain (h : PlainWord w) {r : List Char} :
    skipTilde (w ++ r) = (false, w ++ r) := by
  unfold skipTilde
  rw [skipBlanks_plain h]
  split
  · rename_i he
    exact absurd he (h.append_ne (by decide) _)
  · rfl

theorem readMarked_plain (h : PlainWord w) {r : List Char} (hr : NoLetter r) :
    readMarked false (w ++ r) = readValueTag false twoBraces (w ++ r) := by
  have helse := strip?_reserved h hr (p := "else") (by simp [reserved])
  have hother : readOther (w ++ r) = none := by
    rw [readOther, helse]
    obtain ⟨c, cs, rfl, hc, _⟩ := h.exists_cons
    simp [strip?, Ne.symm (ne_of_isAlpha hc (show '^'.isAlpha = false by decide))]
  rw [readMarked]
  · rw [readPlain, hother]
  all_goals exact fun t => h.append_ne (by decide) t

theorem readTag_plain (h : PlainWord w) {r : List Char} (hr : NoLetter r) {m : Mark}
    {rest : List Char} (hv : readValueTag false twoBraces (w ++ r) = some (m, rest)) :
    readTag (w ++ r) = some (m, rest) :=
  readTag_of_double (fun t => h.append_ne (by decide) t) (fun t => h.append_ne (by decide) t)
    (skipTilde_plain h) ((readMarked_plain h hr).trans hv)

theorem readTag_value (h : PlainWord w) (rest : List Char) :
    readTag (w ++ closed rest) =
      some (⟨.value ⟨.path (pathOf w []), [], []⟩, false, false⟩, rest) := by
  refine readTag_plain h (noLetter_of_atWordChar rfl) ?_
  have hnamed : readNamed (stepsFor (w ++ closed rest)) (w ++ closed rest) = .absent := by
    rw [stepsFor, readNamed, readWord_plain h rfl]
    dsimp only
    rw [readParams_closed]
    rfl
  have hname : readName (w ++ closed rest) = some (.path (pathOf w []), closed rest) := by
    have hnone : ∀ v ∈ ([] : List (List Char)), PlainWord v := nofun
    have hpath := readPath_plain h hnone (r := closed rest) rfl rfl
    rw [dotted, List.nil_append] at hpath
    rw [readName, hpath]
    · rfl
    · exact fun t => h.append_ne (by decide) t
  rw [readValueTag, readValueCall, hnamed, hname]
  rfl

theorem readTag_helper {f : List Char} (hf : PlainWord f) (h : PlainWord w)
    (hws : ∀ v ∈ ws, PlainWord v) (rest : List Char) :
    readTag (f ++ ' ' :: (w ++ (dotted ws ++ closed rest))) =
      some (⟨.value ⟨.word (String.ofList f), [.path (pathOf w ws)], []⟩, false, false⟩, rest) := by
  refine readTag_plain hf (noLetter_of_atWordChar rfl) ?_
  rw [readValueTag, readValueCall, stepsFor, readNamed, readWord_plain hf rfl]
  dsimp only
  rw [readParams_path h hws]
  rfl

theorem readTag_opening {f : List Char} (hf : PlainWord f) (h : PlainWord w)
    (hws : ∀ v ∈ ws, PlainWord v) (rest : List Char) :
    readTag ('#' :: (f ++ ' ' :: (w ++ (dotted ws ++ closed rest)))) =
      some (⟨.opening ⟨.word (String.ofList f), [.path (pathOf w ws)], []⟩ none, false, false⟩,
        rest) := by
  refine readTag_of_double (by simp) (by simp) rfl ?_
  rw [readMarked, skipBlanks_plain hf, readOpening]
  · rw [readLine, readWord_plain hf rfl]
    dsimp only
    rw [stepsFor, readParams_path h hws]
    rfl
  all_goals exact fun t => hf.append_ne (by decide) t

theorem readTag_closing (h : PlainWord w) (rest : List Char) :
    readTag ('/' :: (w ++ closed rest)) =
      some (⟨.closing (String.ofList w), false, false⟩, rest) := by
  refine readTag_of_double (by simp) (by simp) rfl ?_
  obtain ⟨htake, hdrop⟩ := takeWhile_word (p := fun c => isWordChar c || isPartialChar c) h
    (fun c hc => by rw [isWordChar_of_isAlpha hc]; rfl) (r := closed rest) (by
      intro c hc
      cases hc
      rfl)
  rw [readMarked, skipBlanks_plain h, readClosing, htake, hdrop]
  · rfl
  · exact fun t => h.append_ne (by decide) t

structure PartialWord (w : List Char) : Prop where
  nonempty : w ≠ []
  chars : ∀ c ∈ w, isPartialChar c = true

instance (w : List Char) : Decidable (PartialWord w) :=
  decidable_of_iff (w ≠ [] ∧ w.all isPartialChar = true)
    ⟨fun h => ⟨h.1, List.all_eq_true.mp h.2⟩, fun h => ⟨h.nonempty, List.all_eq_true.mpr h.chars⟩⟩

theorem PartialWord.ne_of_head {c d : Char} {cs : List Char} (h : PartialWord (c :: cs))
    (hd : isPartialChar d = false) : c ≠ d := by
  rintro rfl
  rw [h.chars c List.mem_cons_self] at hd
  cases hd

theorem skipBlanks_partialWord (h : PartialWord w) {r : List Char} :
    skipBlanks (w ++ r) = w ++ r := by
  cases w with
  | nil => exact absurd rfl h.nonempty
  | cons c cs =>
      have hblank : Json.isBlank c = false := by
        simp [Json.isBlank, h.ne_of_head (show isPartialChar ' ' = false by decide),
          h.ne_of_head (show isPartialChar '\t' = false by decide),
          h.ne_of_head (show isPartialChar '\n' = false by decide),
          h.ne_of_head (show isPartialChar '\r' = false by decide)]
      simp [skipBlanks, hblank]

theorem readTag_inclusion (h : PartialWord w) (rest : List Char) :
    readTag ('>' :: ' ' :: (w ++ closed rest)) =
      some (⟨.inclusion ⟨.word (String.ofList w), [], []⟩, false, false⟩, rest) := by
  refine readTag_of_double (by simp) (by simp) rfl ?_
  obtain ⟨htake, hdrop⟩ := takeWhile_append (r := closed rest) h.chars (by
    intro c hc
    cases hc
    rfl)
  have hskip : skipBlanks (' ' :: (w ++ closed rest)) = w ++ closed rest :=
    skipBlanks_partialWord h
  have hname : readPartialName (w ++ closed rest) = some (String.ofList w, closed rest) := by
    unfold readPartialName
    rw [htake, hdrop]
    split
    · exact absurd rfl h.nonempty
    · rfl
  rw [readMarked, hskip, readInclusion, hname]
  dsimp only
  rw [stepsFor, readParams_closed]
  rfl

end

end Viewsmith.Template
