/-!
# Taking off the front

A reader of a list takes a value off its front and gives what is left. `Taken` carries the proof
that something was taken, so a reader that calls itself on the rest ends. `dropHead?` takes a
single element that passes a test.
-/

namespace QueryBind

/-- A value taken off the front of `input`, and the shorter list that is left. -/
structure Taken (σ α : Type) (input : List σ) where
  value : α
  rest : List σ
  shorter : rest.length < input.length

/-- The rest of a list whose first element passes a test. -/
def dropHead? {σ : Type} (test : σ → Bool) : (xs : List σ) →
    Option { rest : List σ // rest.length < xs.length }
  | [] => none
  | x :: rest => if test x then some ⟨rest, Nat.lt_succ_self _⟩ else none

end QueryBind
