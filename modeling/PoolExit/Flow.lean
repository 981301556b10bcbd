/-!
# Flows

A flow is a program that asks questions and goes on with the answers.  It is a finite tree: a leaf is
the result, a node is a question with one branch for each answer.  What answers is left open, so a
law about a flow holds for every wallet, every ledger and every server.

`Flow.perform` carries a flow out in a monad that answers the questions; the monad may itself be one
of flows, over other questions.
-/

namespace PoolExit

/-- A program over questions `Q`, whose answers to `q` have the type `A q`. -/
inductive Flow (Q : Type) (A : Q → Type) (α : Type) : Type where
  | done (value : α) : Flow Q A α
  | ask (question : Q) (next : A question → Flow Q A α) : Flow Q A α

namespace Flow

variable {Q : Type} {A : Q → Type} {α β γ : Type}

/-- Goes on with a second flow where the first one is done. -/
def bind : Flow Q A α → (α → Flow Q A β) → Flow Q A β
  | .done a, f => f a
  | .ask q next, f => .ask q fun a => (next a).bind f

/-- One question, whose answer is the result. -/
def question (q : Q) : Flow Q A (A q) := .ask q .done

instance : Monad (Flow Q A) where
  pure := .done
  bind := bind

@[simp] theorem done_bind (a : α) (f : α → Flow Q A β) : (Flow.done a).bind f = f a := rfl

@[simp] theorem ask_bind (q : Q) (next : A q → Flow Q A α) (f : α → Flow Q A β) :
    (Flow.ask q next).bind f = .ask q fun a => (next a).bind f := rfl

theorem bind_done (p : Flow Q A α) : p.bind .done = p := by
  induction p with
  | done a => rfl
  | ask q next ih => simp [ih]

theorem bind_assoc (p : Flow Q A α) (f : α → Flow Q A β) (g : β → Flow Q A γ) :
    (p.bind f).bind g = p.bind fun a => (f a).bind g := by
  induction p with
  | done a => rfl
  | ask q next ih => simp [ih]

instance : LawfulMonad (Flow Q A) :=
  LawfulMonad.mk' (Flow Q A) (fun p => bind_done p) (fun _ _ => rfl) bind_assoc

/-- Carries a flow out in another monad, which answers the questions. -/
def perform {m : Type → Type} [Monad m] (answer : (q : Q) → m (A q)) : Flow Q A α → m α
  | .done a => pure a
  | .ask q next => do (next (← answer q)).perform answer

section

variable {m : Type → Type} [Monad m] [LawfulMonad m] (answer : (q : Q) → m (A q))

theorem perform_bind (p : Flow Q A α) (f : α → Flow Q A β) :
    (p >>= f).perform answer = p.perform answer >>= fun a => (f a).perform answer := by
  induction p with
  | done a => exact (pure_bind a fun a => (f a).perform answer).symm
  | ask q next ih =>
      calc (ask q next >>= f).perform answer
          = answer q >>= fun a => (next a >>= f).perform answer := rfl
        _ = answer q >>= fun a => (next a).perform answer >>= fun b => (f b).perform answer := by
            simp only [ih]
        _ = (ask q next).perform answer >>= fun b => (f b).perform answer :=
            (LawfulMonad.bind_assoc ..).symm

theorem perform_question (q : Q) : (question q).perform answer = answer q := bind_pure (answer q)

end

end Flow

end PoolExit
