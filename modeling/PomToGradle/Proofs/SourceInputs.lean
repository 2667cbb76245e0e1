import PomToGradle.Proofs.TokenEffects

/-!
What is read, wherever it comes from: tokens, and the encoding in force in front of them. A source is one
input unless reading it fails, and its document is what the tokens do, each in the encoding in force
where it stands (`Source.load_eq_ok_iff`).
-/
namespace PomToGradle

structure Encoding where
  charset : Charset
  /-- Whether no declaration changes it any more. -/
  settled : Bool
deriving DecidableEq, Repr

namespace Encoding

/-- The encoding in force behind a token. -/
def after (e : Encoding) (t : Token) : Encoding :=
  if e.settled then e
  else
    match t.declared? with
    | some charset => ⟨charset, true⟩
    | none => e

theorem after_of_undeclared (e : Encoding) {t : Token} (undeclared : t.declared? = none) :
    e.after t = e := by
  unfold after
  rw [undeclared]
  split <;> rfl

end Encoding

structure Input where
  encoding : Encoding
  lexed : Lexed
deriving DecidableEq, Repr

/-- The place in the tree behind the tokens, if every one may stand where it stands. -/
def Site.follow (s : Site) (e : Encoding) : List Token → Option Site
  | [] => some s
  | t :: l => ((t.effect? e.charset).bind s.take).bind fun next => next.follow (e.after t) l

namespace Input

def ofText (s : String) : Input := ⟨⟨.utf8, true⟩, Document.lexed s⟩

def ofBytes (s : Bytes) : Input :=
  ⟨⟨(Charset.ofSignature (dropUtf8Mark s)).1, false⟩, Document.lexedBytes s⟩

def document? (i : Input) : Option Document :=
  match i.lexed.fault with
  | some _ => none
  | none => (Site.top.follow i.encoding i.lexed.tokens).bind Site.document?

theorem document?_eq_some_iff {i : Input} {d : Document} :
    i.document? = some d ↔ i.lexed.fault = none ∧
      ∃ f, Site.top.follow i.encoding i.lexed.tokens = some ⟨f, []⟩ ∧ d = ⟨f.reverse⟩ := by
  unfold document?
  constructor
  · intro read
    split at read
    next => contradiction
    next whole =>
      obtain ⟨⟨level, opened⟩, followed, closed⟩ := Option.bind_eq_some_iff.mp read
      cases opened with
      | nil => exact ⟨whole, level, followed, (Option.some.inj closed).symm⟩
      | cons innermost outer => contradiction
  · rintro ⟨whole, f, followed, rfl⟩
    rw [whole]
    exact Option.bind_eq_some_iff.mpr ⟨_, followed, rfl⟩

end Input

namespace Assembly

def encoding (a : Assembly) : Encoding := ⟨a.charset, a.settled⟩

theorem encoding_declare (a : Assembly) (content : Bytes) :
    (a.declare content).encoding = a.encoding.after (.instruction content) := by
  have same : a.encoding.settled = a.settled := rfl
  unfold declare Encoding.after
  rw [same, Token.declared?]
  by_cases settled : a.settled = true
  · rw [if_pos settled, if_pos settled]
  · rw [if_neg settled, if_neg settled]
    cases (declarationBody? content).bind Charset.declared? <;> rfl

theorem encoding_step {a b : Assembly} {t : Token} (done : a.step t = .ok b) :
    b.encoding = a.encoding.after t := by
  obtain ⟨next, moves, rfl⟩ := step_eq_ok_iff.mp done
  change next.encoding = a.encoding.after t
  cases moves with
  | instruction content => exact encoding_declare a content
  | _ => exact (Encoding.after_of_undeclared a.encoding rfl).symm

theorem site_follow (a : Assembly) (l : List Token) :
    (a.run l).toOption.map site = a.site.follow a.encoding l := by
  induction l generalizing a with
  | nil => rfl
  | cons t l ih =>
    rw [run_cons, Site.follow, show a.encoding.charset = a.charset from rfl, ← site_step]
    cases moved : a.step t with
    | error e => rfl
    | ok b =>
      rw [← encoding_step moved]
      exact ih b

theorem toOption_start (e : Encoding) (lexed : Lexed) :
    (((start e.charset e.settled).ofLexed lexed).map Document.mk).toOption
      = (Input.mk e lexed).document? := by
  have followed := site_follow (start e.charset e.settled) lexed.tokens
  change _ = Site.top.follow e lexed.tokens at followed
  rw [ofLexed, Input.document?, ← followed]
  cases (start e.charset e.settled).run lexed.tokens with
  | error error => cases lexed.fault <;> rfl
  | ok b =>
    cases lexed.fault with
    | some fault => rfl
    | none => exact toOption_finish b

end Assembly

namespace Source

/-- What there is to read, unless reading fails. -/
def input? : Source → Option Input
  | text s => some (.ofText s)
  | bytes s => some (.ofBytes s)
  | reader attempts => (gather attempts).toOption.map .ofBytes
  | file fs path => (fs.read path).toOption.map .ofBytes

theorem parse_eq_ok_iff {s : String} {d : Document} :
    Document.parse s = .ok d ↔ (Input.ofText s).document? = some d := by
  rw [← toOption_eq_some_iff]
  exact iff_of_eq (congrArg (· = some d) (Assembly.toOption_start ⟨.utf8, true⟩ _))

theorem load_text_eq_ok_iff {s : String} {d : Document} :
    (text s).load.result = .ok d ↔ Document.parse s = .ok d := mapError_eq_ok

theorem parseBytes_eq_ok_iff {s : Bytes} {d : Document} :
    Document.parseBytes s = .ok d ↔ (Input.ofBytes s).document? = some d := by
  rw [← toOption_eq_some_iff]
  exact iff_of_eq (congrArg (· = some d) (Assembly.toOption_start ⟨_, false⟩ _))

theorem ofBytes_eq_ok_iff {x : Except IoError Bytes} {d : Document} :
    Document.ofBytes x = .ok d ↔ ∃ i, x.toOption.map Input.ofBytes = some i ∧ i.document? = some d := by
  constructor
  · intro loaded
    obtain ⟨s, read, parsed⟩ := bind_eq_ok.mp loaded
    rw [mapError_eq_ok] at read parsed
    subst read
    exact ⟨_, rfl, parseBytes_eq_ok_iff.mp parsed⟩
  · rintro ⟨i, input, read⟩
    obtain ⟨s, given, rfl⟩ := Option.map_eq_some_iff.mp input
    rw [toOption_eq_some_iff.mp given]
    exact mapError_eq_ok.mpr (parseBytes_eq_ok_iff.mpr read)

theorem load_eq_ok_iff {source : Source} {d : Document} :
    source.load.result = .ok d ↔ ∃ i, source.input? = some i ∧ i.document? = some d := by
  cases source with
  | text s =>
    rw [load_text_eq_ok_iff, parse_eq_ok_iff]
    simp [input?]
  | bytes s => exact ofBytes_eq_ok_iff (x := .ok s)
  | reader attempts => exact ofBytes_eq_ok_iff
  | file fs path => exact ofBytes_eq_ok_iff

end Source

end PomToGradle
