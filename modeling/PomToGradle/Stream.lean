import PomToGradle.Bytes
import PomToGradle.IoError

/-!
Reading to the end of a stream that delivers bytes in pieces.
-/
namespace PomToGradle

/-- One attempt to read from a stream. An interrupted one is made again and leaves no trace. -/
inductive Delivery where
  | data (bytes : Bytes)
  | interrupted
  | failed (error : IoError)
deriving DecidableEq, Repr

/-- All bytes of a stream, unless an attempt fails. An attempt that gives none has come to the end, and
    no further one is made. -/
def gather : List Delivery → Except IoError Bytes
  | [] => .ok []
  | .data [] :: _ => .ok []
  | .data (b :: bytes) :: rest => (gather rest).map (b :: bytes ++ ·)
  | .interrupted :: rest => gather rest
  | .failed error :: _ => .error error

end PomToGradle
