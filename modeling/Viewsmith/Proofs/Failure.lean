import Viewsmith.Failure

namespace Viewsmith

section

variable {α β ε : Type}

theorem bind_eq_ok_iff {x : Except ε α} {f : α → Except ε β} {b : β} :
    x >>= f = .ok b ↔ ∃ a, x = .ok a ∧ f a = .ok b := by
  cases x with
  | ok a =>
      constructor
      · intro h
        exact ⟨a, rfl, h⟩
      · rintro ⟨_, h, hf⟩
        cases h
        exact hf
  | error e =>
      constructor
      · intro h
        cases h
      · rintro ⟨_, h, _⟩
        cases h

theorem bind_congr_of_ok {x : Except ε α} {f g : α → Except ε β} (h : ∀ a, x = .ok a → f a = g a) :
    x >>= f = x >>= g := by
  cases x with
  | ok a => exact h a rfl
  | error e => rfl

theorem map_eq_ok_iff {x : Except ε α} {f : α → β} {b : β} :
    x.map f = .ok b ↔ ∃ a, x = .ok a ∧ f a = b := by
  cases x <;> simp [Except.map]

theorem within_eq_ok_iff {context : String} {x : Except Failure α} {a : α} :
    within context x = .ok a ↔ x = .ok a := by
  cases x <;> simp [within]

theorem ofRender_eq_ok_iff {x : Except View.RenderError α} {a : α} :
    ofRender x = .ok a ↔ x = .ok a := by
  cases x <;> simp [ofRender]

theorem ofIo_eq_ok_iff {x : Except Files.IoError α} {a : α} : ofIo x = .ok a ↔ x = .ok a := by
  cases x <;> simp [ofIo]

end

end Viewsmith
