/-!
The characters of a text that a terminal would show. Control characters other than white space move
nothing onto the screen, and an escape sequence is an order to the terminal, not text. A text without
control characters is shown as it is.
-/
namespace PomToGradle.Terminal

def escape : Char := Char.ofNat 0x1B

def bell : Char := Char.ofNat 0x07

/-- The white space among the control characters. -/
def isSpacing (c : Char) : Bool :=
  c == '\t' || c == '\n' || c == Char.ofNat 0x0C || c == '\r'

/-- The control characters of ASCII. -/
def isControl (c : Char) : Bool := c.toNat < 0x20 || c.toNat == 0x7F

/-- The two control characters that break off any sequence. -/
def isCancel (c : Char) : Bool := c.toNat == 0x18 || c.toNat == 0x1A

def isWithin (low high : Nat) (c : Char) : Bool := low ≤ c.toNat && c.toNat ≤ high

/-- The string terminator of eight bits is one byte, and a terminal finds it even inside the UTF-8
    form of another character. -/
def holdsTerminator (c : Char) : Bool := (String.utf8EncodeChar c).contains 0x9C

/-- How far an escape sequence has come. -/
inductive Mode where
  /-- In no sequence. -/
  | ground
  | opened
  /-- After intermediate characters, the last of a short sequence still to come. -/
  | intermediate
  /-- Among the parameters of a control sequence. -/
  | parameters
  /-- At the start of a device control string. -/
  | device
  /-- Among the parameters of a device control string. -/
  | deviceParameters
  /-- After intermediate characters of a device control string, the last of its header still to come. -/
  | deviceIntermediate
  /-- In a string that the string terminator ends. -/
  | string
  /-- In a string that a bell ends. -/
  | command
  /-- In text that interrupts a sequence. -/
  | suspended (sequence : Mode)
deriving DecidableEq, Repr

/-- What becomes of a sequence that white space interrupts: in a text it is given up, in a stream the
    next control character takes it up again. -/
inductive Medium where
  | text
  | stream
deriving DecidableEq, Repr

def Medium.interrupt : Medium → Mode → Mode
  | text, _ => .ground
  | stream, m => .suspended m

namespace Mode

/-- What the character after the escape character opens, or whether it is the whole sequence. -/
def afterEscape (c : Char) : Mode :=
  if isWithin 0x20 0x2F c then intermediate
  else if c = '[' then parameters
  else if c = ']' then command
  else if c = 'P' then device
  else if c = 'X' ∨ c = '^' ∨ c = '_' then string
  else if isWithin 0x30 0x7E c then ground
  else opened

/-- Where a character of a sequence leads. One that has no place there leads nowhere. -/
def advance : Mode → Char → Mode
  | ground, _ => ground
  | opened, c => afterEscape c
  | intermediate, c => if isWithin 0x30 0x7E c then ground else intermediate
  | parameters, c => if isWithin 0x40 0x7E c then ground else parameters
  | device, c =>
    if isWithin 0x20 0x2F c then deviceIntermediate
    else if isWithin 0x30 0x3F c then deviceParameters
    else if isWithin 0x40 0x7E c then string
    else device
  | deviceParameters, c =>
    if isWithin 0x20 0x2F c then deviceIntermediate
    else if isWithin 0x3C 0x7E c then string
    else deviceParameters
  | deviceIntermediate, c => if isWithin 0x30 0x7E c then string else deviceIntermediate
  | string, c => if holdsTerminator c then ground else string
  | command, c => if c = bell then ground else command
  | suspended m, _ => m

/-- Whether the terminal obeys control characters in the middle of the sequence. -/
def obeysControls : Mode → Bool
  | opened | intermediate | parameters => true
  | _ => false

/-- Where a character leads, and whether it is shown. -/
def step (medium : Medium) (m : Mode) (c : Char) : Mode × Bool :=
  if c = escape then (opened, false)
  else if isCancel c then (ground, false)
  else
    let isShown := !isControl c || isSpacing c
    match m with
    | ground => (ground, isShown)
    | suspended sequence =>
      if isShown then (if c.toNat < 0x80 then suspended sequence else ground, true)
      else (sequence, false)
    | m =>
      if m.obeysControls ∧ isSpacing c then (medium.interrupt m, true) else (m.advance c, false)

end Mode

def shownChars (medium : Medium) : Mode → List Char → List Char
  | _, [] => []
  | m, c :: rest =>
    let (next, isShown) := m.step medium c
    if isShown then c :: shownChars medium next rest else shownChars medium next rest

theorem step_ground (medium : Medium) {c : Char} (plain : isControl c = false) :
    Mode.step medium .ground c = (.ground, true) := by
  have notEscape : c ≠ escape := by
    intro same
    subst same
    exact absurd plain (by decide)
  have notCancel : isCancel c = false := by
    simp only [isControl, isCancel, Bool.or_eq_false_iff, decide_eq_false_iff_not, beq_eq_false_iff_ne,
      ne_eq] at plain ⊢
    omega
  simp [Mode.step, notEscape, notCancel, plain]

/-- Nothing is taken from a text without control characters. -/
theorem shownChars_of_plain (medium : Medium) {s : List Char} (plain : ∀ c ∈ s, isControl c = false) :
    shownChars medium .ground s = s := by
  induction s with
  | nil => rfl
  | cons c rest ih =>
    have first := step_ground medium (plain c List.mem_cons_self)
    have others := ih fun d member => plain d (List.mem_cons_of_mem c member)
    simp [shownChars, first, others]

def shown (medium : Medium) (s : String) : String :=
  String.ofList (shownChars medium .ground s.toList)

end PomToGradle.Terminal
