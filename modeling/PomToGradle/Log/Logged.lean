import PomToGradle.Log.Event

/-!
Work that reports events and may fail. What was reported before a failure stays.
-/
namespace PomToGradle

structure Logged (ε α : Type) where
  events : List Event
  result : Except ε α

namespace Logged

variable {ε ε' α β : Type}

def bind (x : Logged ε α) (f : α → Logged ε β) : Logged ε β :=
  match x.result with
  | .ok a =>
    let y := f a
    ⟨x.events ++ y.events, y.result⟩
  | .error e => ⟨x.events, .error e⟩

instance : Monad (Logged ε) where
  pure a := ⟨[], .ok a⟩
  bind := bind

/-- Nothing is reported. -/
def ofExcept (x : Except ε α) : Logged ε α := ⟨[], x⟩

/-- Reports `event a` once there is a result `a`. -/
def andReport (x : Except ε α) (event : α → Event) : Logged ε α where
  events := match x with
    | .ok a => [event a]
    | .error _ => []
  result := x

def report (events : List Event) : Logged ε Unit := ⟨events, .ok ()⟩

def mapError (f : ε → ε') (x : Logged ε α) : Logged ε' α := ⟨x.events, x.result.mapError f⟩

end Logged

end PomToGradle
