import Viewsmith.Text.Lower

namespace Viewsmith.Unicode

def Shift.sources (s : Shift) : List Nat :=
  (List.range' s.first (s.last - s.first + 1)).filter s.covers

theorem Shift.mem_sources_iff {s : Shift} {n : Nat} : n ∈ s.sources ↔ s.covers n = true := by
  rw [sources, List.mem_filter, List.mem_range'_1]
  refine ⟨And.right, fun h => ⟨?_, h⟩⟩
  simp only [covers, Bool.and_eq_true, decide_eq_true_eq] at h
  omega

/-- A set of code points as one number: its binary digit at each of them is a one. -/
def mask : List Nat → Nat
  | [] => 0
  | n :: ns => 1 <<< n ||| mask ns

theorem testBit_mask (ns : List Nat) (n : Nat) : (mask ns).testBit n = decide (n ∈ ns) := by
  induction ns with
  | nil => simp [mask]
  | cons m ns ih => simp [mask, Nat.testBit_or, Nat.one_shiftLeft, Nat.testBit_two_pow, ih, eq_comm]

theorem not_mem_of_mask {ms ns : List Nat} (h : mask ms &&& mask ns = 0) {n : Nat} (hm : n ∈ ms) :
    n ∉ ns := by
  have hbit := congrArg (Nat.testBit · n) h
  simpa [testBit_mask, hm] using hbit

end Viewsmith.Unicode

namespace Viewsmith.Text

open Unicode

abbrev InLowerRange (n : Nat) : Prop := 97 ≤ n ∧ (n ≤ 122 ∨ 128 ≤ n)

/-- The code points that lower case changes. `Σ` is among those of the shifts. -/
def capitals : List Nat :=
  'İ'.toNat :: lowerShifts.flatMap Shift.sources

def smalls : List Nat :=
  ['σ', 'ς', 'i', '\u0307'].map Char.toNat ++
    lowerShifts.flatMap fun s => s.sources.map fun n : Nat => (n + s.delta).toNat

-- Comparing the two lists member by member takes far longer than reducing each to one number.
theorem smalls_apart_capitals : mask smalls &&& mask capitals = 0 := by
  decide +kernel

theorem lowerShifts_bounds : ∀ s ∈ lowerShifts, 97 ≤ (s.first : Int) + s.delta ∧
    ((s.last : Int) + s.delta ≤ 122 ∨ 128 ≤ (s.first : Int) + s.delta) ∧
    ((s.last : Int) + s.delta < 0xd800 ∨
      0xdfff < (s.first : Int) + s.delta ∧ (s.last : Int) + s.delta < 0x110000) := by
  decide +kernel

theorem of_mem_smalls {n : Nat} (h : n ∈ smalls) : InLowerRange n ∧ n.isValidChar := by
  rcases List.mem_append.mp h with hspecial | hshifted
  · clear h
    revert n
    decide
  · obtain ⟨s, hs, hn⟩ := List.mem_flatMap.mp hshifted
    obtain ⟨m, hm, rfl⟩ := List.mem_map.mp hn
    have hcovers := Shift.mem_sources_iff.mp hm
    simp only [Shift.covers, Bool.and_eq_true, decide_eq_true_eq] at hcovers
    obtain ⟨hlow, hascii, hvalid⟩ := lowerShifts_bounds s hs
    simp only [Nat.isValidChar]
    omega

theorem ascii_mem_capitals : ∀ n < 26, 65 + n ∈ capitals := by
  decide +kernel

theorem sigma_mem_capitals : 'Σ'.toNat ∈ capitals := by
  decide +kernel

theorem not_ascii_of_not_mem_capitals {n : Nat} (h : n ∉ capitals) : ¬ (65 ≤ n ∧ n ≤ 90) := by
  rintro ⟨hlow, hhigh⟩
  have hcapital := ascii_mem_capitals (n - 65) (by omega)
  rw [show 65 + (n - 65) = n by omega] at hcapital
  exact h hcapital

theorem covers_eq_false_of_not_mem_capitals {n : Nat} (h : n ∉ capitals) :
    ∀ s ∈ lowerShifts, s.covers n = false := by
  intro s hs
  refine Bool.eq_false_iff.mpr fun hcovers => h (List.mem_cons_of_mem _ ?_)
  exact List.mem_flatMap.mpr ⟨s, hs, Shift.mem_sources_iff.mpr hcovers⟩

theorem lowerPoint_of_not_mem_capitals {n : Nat} (h : n ∉ capitals) : lowerPoint n = n := by
  have hnone : lowerShifts.find? (·.covers n) = none :=
    List.find?_eq_none.mpr fun s hs => by simp [covers_eq_false_of_not_mem_capitals h s hs]
  rw [lowerPoint, hnone]

theorem lowerPoint_cases {n : Nat} (hdot : n ≠ 'İ'.toNat) :
    lowerPoint n ∈ smalls ∨ (lowerPoint n = n ∧ n ∉ capitals) := by
  unfold lowerPoint
  cases hs : lowerShifts.find? (·.covers n) with
  | none =>
      refine .inr ⟨rfl, fun hn => ?_⟩
      obtain ⟨s, hs', hn⟩ := List.mem_flatMap.mp ((List.mem_cons.mp hn).resolve_left hdot)
      exact List.find?_eq_none.mp hs s hs' (Shift.mem_sources_iff.mp hn)
  | some s =>
      have hcovers := List.find?_some hs
      have hn : n ∈ s.sources := Shift.mem_sources_iff.mpr hcovers
      left
      refine List.mem_append_right _ (List.mem_flatMap.mpr ⟨s, List.mem_of_find?_eq_some hs, ?_⟩)
      exact List.mem_map.mpr ⟨n, hn, rfl⟩

theorem toNat_ofNat {n : Nat} (h : n.isValidChar) : (Char.ofNat n).toNat = n := by
  rw [Char.ofNat, dif_pos h]
  rfl

theorem mem_lowerChar {before after : List Char} {c d : Char} (h : d ∈ lowerChar before c after) :
    d.toNat ∈ smalls ∨ (d = c ∧ d.toNat ∉ capitals) := by
  unfold lowerChar lowerSigma at h
  split at h
  · left
    split at h <;> rw [List.mem_singleton.mp h] <;> simp [smalls]
  · split at h
    · left
      rcases List.mem_cons.mp h with hd | hd
      · simp [hd, smalls]
      · simp [List.mem_singleton.mp hd, smalls]
    · rename_i hdot
      rw [List.mem_singleton.mp h]
      rcases lowerPoint_cases fun hn => hdot (Char.toNat_inj.mp hn) with hsmall | ⟨hsame, hcapital⟩
      · rw [toNat_ofNat (of_mem_smalls hsmall).2]
        exact .inl hsmall
      · rw [hsame, Char.ofNat_toNat]
        exact .inr ⟨rfl, hcapital⟩

theorem mem_lowerFrom {before cs : List Char} {d : Char} (h : d ∈ lowerFrom before cs) :
    d.toNat ∈ smalls ∨ (d ∈ cs ∧ d.toNat ∉ capitals) := by
  induction cs generalizing before with
  | nil => cases h
  | cons c cs ih =>
      rcases List.mem_append.mp h with h | h
      · rcases mem_lowerChar h with hsmall | ⟨rfl, hcapital⟩
        · exact .inl hsmall
        · exact .inr ⟨List.mem_cons_self, hcapital⟩
      · rcases ih h with hsmall | ⟨hd, hcapital⟩
        · exact .inl hsmall
        · exact .inr ⟨List.mem_cons_of_mem _ hd, hcapital⟩

/-- A lower-case text has no character of ASCII that was not there, apart from small letters, and no
capital letter. -/
theorem mem_lower {s : String} {d : Char} (h : d ∈ (lower s).toList) :
    InLowerRange d.toNat ∨ (d ∈ s.toList ∧ ¬ (65 ≤ d.toNat ∧ d.toNat ≤ 90)) := by
  rw [toList_lower] at h
  rcases mem_lowerFrom h with hsmall | ⟨hd, hcapital⟩
  · exact .inl (of_mem_smalls hsmall).1
  · exact .inr ⟨hd, not_ascii_of_not_mem_capitals hcapital⟩

theorem not_mem_lower {s : String} {d : Char} (hd : ¬ InLowerRange d.toNat) (h : d ∉ s.toList) :
    d ∉ (lower s).toList := by
  intro hm
  rcases mem_lower hm with hlow | ⟨hs, _⟩
  · exact hd hlow
  · exact h hs

theorem lower_ne_empty {s : String} (h : s ≠ "") : lower s ≠ "" := by
  intro hlower
  cases hs : s.toList with
  | nil => exact h (String.toList_eq_nil_iff.mp hs)
  | cons c cs =>
      have hlist := congrArg String.toList hlower
      rw [toList_lower, hs, lowerFrom] at hlist
      have hchar : lowerChar [] c cs = [] := (List.append_eq_nil_iff.mp hlist).1
      unfold lowerChar at hchar
      split at hchar
      · cases hchar
      · split at hchar <;> cases hchar

theorem lowerChar_of_not_mem_capitals (before after : List Char) {d : Char}
    (h : d.toNat ∉ capitals) : lowerChar before d after = [d] := by
  have hsigma : d ≠ 'Σ' := by
    rintro rfl
    exact h sigma_mem_capitals
  have hdot : d ≠ 'İ' := by
    rintro rfl
    exact h List.mem_cons_self
  rw [lowerChar, if_neg hsigma, if_neg hdot, lowerPoint_of_not_mem_capitals h, Char.ofNat_toNat]

theorem lowerFrom_of_not_mem_capitals (before : List Char) {cs : List Char}
    (h : ∀ d ∈ cs, d.toNat ∉ capitals) : lowerFrom before cs = cs := by
  induction cs generalizing before with
  | nil => rfl
  | cons c cs ih =>
      rw [List.forall_mem_cons] at h
      rw [lowerFrom, lowerChar_of_not_mem_capitals before cs h.1, ih (c :: before) h.2]
      rfl

/-- What stands around a letter decides about `Σ` only, and no text in lower case has one. -/
theorem lower_lower (s : String) : lower (lower s) = lower s := by
  have hsettled : ∀ d ∈ (lower s).toList, d.toNat ∉ capitals := by
    intro d hd
    rw [toList_lower] at hd
    rcases mem_lowerFrom hd with hsmall | ⟨_, hcapital⟩
    · exact not_mem_of_mask smalls_apart_capitals hsmall
    · exact hcapital
  rw [lower, lowerFrom_of_not_mem_capitals [] hsettled, String.ofList_toList]

end Viewsmith.Text
