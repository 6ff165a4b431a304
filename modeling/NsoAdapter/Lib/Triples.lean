import Mathlib

/-! From a triple about a program that keeps a state and may stop back to its runs. -/

namespace NsoAdapter.Lib
open Std.Do

theorem run_of_triple {σ ε α : Type} {program : ExceptT ε (StateM σ) α} {returns : α → σ → Prop} {stops : ε → σ → Prop}
    {start : σ} (spec : ⦃fun s => ⌜s = start⌝⦄ program ⦃post⟨fun a s => ⌜returns a s⌝, fun e s => ⌜stops e s⌝⟩⦄) :
    (∀ result finish, program.run.run start = (.ok result, finish) → returns result finish) ∧
      ∀ stop finish, program.run.run start = (.error stop, finish) → stops stop finish := by
  have holds := spec start rfl
  constructor
  · intro result finish ran
    simp only [wp, PredTrans.apply_pushExcept, PredTrans.apply_pushArg, ran] at holds
    exact holds
  · intro stop finish ran
    simp only [wp, PredTrans.apply_pushExcept, PredTrans.apply_pushArg, ran] at holds
    exact holds

end NsoAdapter.Lib
