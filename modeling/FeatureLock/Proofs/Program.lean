import FeatureLock.Program

/-!
# Laws of programs

Programs make a lawful monad, so the steps of an operation can be rearranged
without looking at its questions; and a program is run alike by two states that
answer alike.

Main statements: the instance `LawfulMonad (Program Q A)`, and
`Program.run_related`.
-/

namespace FeatureLock

namespace Program

variable {Q : Type} {A : Q → Type} {α β γ σ τ : Type}

theorem id_map (p : Program Q A α) : id <$> p = p := by
  induction p with
  | done a => rfl
  | ask q next ih => exact congrArg (ask q) (funext ih)

theorem bind_assoc (p : Program Q A α) (f : α → Program Q A β) (g : β → Program Q A γ) :
    p >>= f >>= g = p >>= fun a => f a >>= g := by
  induction p with
  | done a => rfl
  | ask q next ih => exact congrArg (ask q) (funext ih)

instance : LawfulMonad (Program Q A) :=
  LawfulMonad.mk' _ id_map (fun _ _ => rfl) bind_assoc

/-- **Two states that answer every question alike, and stay so, are alike to every program.** -/
theorem run_related {answer : (q : Q) → σ → A q × σ} {answer' : (q : Q) → τ → A q × τ}
    {R : σ → τ → Prop}
    (alike : ∀ q s t, R s t → (answer q s).1 = (answer' q t).1 ∧ R (answer q s).2 (answer' q t).2)
    (p : Program Q A α) {s : σ} {t : τ} (h : R s t) :
    (p.run answer s).1 = (p.run answer' t).1 ∧ R (p.run answer s).2 (p.run answer' t).2 := by
  induction p generalizing s t with
  | done a => exact ⟨rfl, h⟩
  | ask q next ih =>
    obtain ⟨same, rest⟩ := alike q s t h
    rw [run_ask, run_ask, same]
    exact ih _ rest

end Program

end FeatureLock
