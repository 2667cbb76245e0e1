import Mathlib
import PomToGradle.Proofs.SourceAgreement

/-!
What a token does, apart from where it stands. The tree under way is changed in one of five ways, and
the encoding shows only in which texts are read. So a document is what its tokens do one after the
other, by `Document.toOption_parse` and `toOption_parseBytes`, and texts or bytes whose tokens do the
same are the same document.
-/
namespace PomToGradle

theorem toOption_eq_some_iff {ε α : Type} {x : Except ε α} {a : α} :
    x.toOption = some a ↔ x = .ok a := by
  cases x <;> simp [Except.toOption]

inductive Effect where
  | text (content : String)
  | enter (name : Bytes)
  | leave (name : Bytes)
  /-- An element with nothing inside. -/
  | leaf (name : Bytes)
  | nothing
deriving DecidableEq, Repr

/-- What a walk through the tree meets where something is done to it. -/
def Effect.marks : Effect → List Mark
  | .text content => marksOf content.toList
  | .enter name => [.enter (elementName name)]
  | .leave name => [.leave (elementName name)]
  | .leaf name => [.enter (elementName name), .leave (elementName name)]
  | .nothing => []

/-- A run of text in that encoding with its escapes replaced. -/
def Charset.readText? (charset : Charset) (run : Bytes) : Option String :=
  (charset.decode? run).bind fun raw => (unescape raw).toOption

theorem Charset.readText?_of_plain (charset : Charset) {run : Bytes} (plain : ascii '&' ∉ run) :
    charset.readText? run = charset.decode? run := by
  unfold readText?
  cases read : charset.decode? run with
  | none => rfl
  | some raw => simp only [Option.bind_some, unescape_of_decode? read plain, Except.toOption]

/-- What a token does in a document of that encoding, if it can be read. -/
def Token.effect? (charset : Charset) : Token → Option Effect
  | .text run => (charset.readText? run).map .text
  | .cdata content => (charset.decode? content).map .text
  | .reference name =>
    (charset.decode? name).bind fun shown => (Assembly.resolve shown).toOption.map .text
  | .startTag content => some (.enter (tagName content))
  | .emptyTag content => some (.leaf (tagName content))
  | .endTag content => some (.leave (endTagName content))
  | .comment _ | .doctype _ _ | .instruction _ => some .nothing

/-- A place in a tree under way, with the nodes in front of it kept last first. -/
structure Site where
  level : Forest
  opened : List OpenElement
deriving DecidableEq, Repr

namespace Site

def top : Site := ⟨.nil, []⟩

def take (s : Site) : Effect → Option Site
  | .text content => some { s with level := s.level.pushText content }
  | .enter name => some ⟨.nil, ⟨name, s.level⟩ :: s.opened⟩
  | .leaf name => some { s with level := .element (elementName name) .nil s.level }
  | .leave name =>
    match s.opened with
    | [] => none
    | innermost :: outer =>
      if innermost.name = name then
        some ⟨.element (elementName name) s.level.reverse innermost.before, outer⟩
      else none
  | .nothing => some s

def walked (s : Site) : List Mark := Assembly.descent s.opened ++ s.level.reverse.walk

def read (charset : Charset) (s : Site) (l : List Token) : Option Site :=
  l.foldlM (fun s t => (t.effect? charset).bind s.take) s

def document? (s : Site) : Option Document :=
  match s.opened with
  | [] => some ⟨s.level.reverse⟩
  | _ :: _ => none

theorem exists_of_take_leave {s s' : Site} {name : Bytes} (taken : s.take (.leave name) = some s') :
    ∃ before outer, s.opened = ⟨name, before⟩ :: outer ∧
      s' = ⟨.element (elementName name) s.level.reverse before, outer⟩ := by
  simp only [take] at taken
  split at taken
  next => contradiction
  next innermost outer opened =>
    obtain ⟨rfl, next⟩ := Option.ite_none_right_eq_some.mp taken
    exact ⟨innermost.before, outer, opened, (Option.some.inj next).symm⟩

theorem walked_of_take {s s' : Site} {effect : Effect} (taken : s.take effect = some s') :
    s'.walked = s.walked ++ effect.marks := by
  cases effect with
  | text content =>
    obtain rfl := Option.some.inj taken
    simp [walked, Effect.marks, Forest.walk_reverse_pushText]
  | enter name =>
    obtain rfl := Option.some.inj taken
    simp [walked, Effect.marks, Assembly.descent, Forest.reverse, Forest.reverseOnto, Forest.walk]
  | leaf name =>
    obtain rfl := Option.some.inj taken
    simp [walked, Effect.marks, Forest.walk]
  | leave name =>
    obtain ⟨before, outer, opened, rfl⟩ := exists_of_take_leave taken
    simp [walked, Effect.marks, Assembly.descent, opened]
  | nothing =>
    obtain rfl := Option.some.inj taken
    simp [Effect.marks]

@[simp] theorem read_nil (charset : Charset) (s : Site) : s.read charset [] = some s := rfl

@[simp] theorem read_cons (charset : Charset) (s : Site) (t : Token) (l : List Token) :
    s.read charset (t :: l) = ((t.effect? charset).bind s.take).bind fun s => s.read charset l := rfl

theorem read_append (charset : Charset) (s : Site) (l r : List Token) :
    s.read charset (l ++ r) = (s.read charset l).bind fun s => s.read charset r := by
  simp [read, List.foldlM_append]

/-- Every token of what is read can be read. -/
theorem exists_effect_of_read {charset : Charset} {s s' : Site} {l : List Token}
    (done : s.read charset l = some s') {t : Token} (member : t ∈ l) :
    ∃ e, t.effect? charset = some e := by
  obtain ⟨before, after, rfl⟩ := List.append_of_mem member
  rw [read_append] at done
  obtain ⟨middle, -, rest⟩ := Option.bind_eq_some_iff.mp done
  rw [read_cons] at rest
  obtain ⟨next, first, -⟩ := Option.bind_eq_some_iff.mp rest
  obtain ⟨e, read, -⟩ := Option.bind_eq_some_iff.mp first
  exact ⟨e, read⟩

/-- Tokens that do the same, each in its own encoding, are read alike. -/
theorem read_map {charset charset' : Charset} (f : Token → Token) {l : List Token}
    (same : ∀ t ∈ l, (f t).effect? charset' = t.effect? charset) (s : Site) :
    s.read charset' (l.map f) = s.read charset l := by
  induction l generalizing s with
  | nil => rfl
  | cons t l ih =>
    rw [List.map_cons, read_cons, read_cons, same t List.mem_cons_self]
    exact congrArg _ (funext (ih fun u member => same u (List.mem_cons_of_mem t member)))

end Site

/-- What a document of that encoding is, if its markup is complete and everything in it can be
    read. -/
def Lexed.document? (charset : Charset) (lexed : Lexed) : Option Document :=
  match lexed.fault with
  | some _ => none
  | none => (Site.top.read charset lexed.tokens).bind Site.document?

namespace Assembly

def site (a : Assembly) : Site := ⟨a.level, a.opened⟩

theorem site_declare (a : Assembly) (content : Bytes) : (a.declare content).site = a.site := by
  unfold declare
  split
  · rfl
  · split <;> rfl

theorem toOption_decode (a : Assembly) (s : Bytes) :
    (a.decode s).toOption = a.charset.decode? s := by
  unfold decode
  cases a.charset.decode? s <;> rfl

theorem toOption_readText (a : Assembly) (run : Bytes) :
    (a.readText run).toOption = a.charset.readText? run := by
  rw [Charset.readText?, ← toOption_decode, readText]
  cases a.decode run with
  | error e => rfl
  | ok raw =>
    simp only [bind, Except.bind, Except.toOption, Option.bind]
    cases unescape raw <;> rfl

theorem site_apply (a : Assembly) (t : Token) :
    (a.apply t).toOption.map site = (t.effect? a.charset).bind a.site.take := by
  cases t with
  | text run =>
    rw [apply, Token.effect?, ← toOption_readText]
    cases a.readText run <;> rfl
  | cdata content =>
    rw [apply, Token.effect?, ← toOption_decode]
    cases a.decode content <;> rfl
  | reference name =>
    rw [apply, Token.effect?, ← toOption_decode]
    cases a.decode name with
    | error e => rfl
    | ok shown =>
      simp only [bind, Except.bind, Except.toOption, Option.bind]
      cases resolve shown <;> rfl
  | endTag content =>
    simp only [apply, closeElement, Token.effect?, Option.bind_some, Site.take, site]
    cases a.opened with
    | nil => rfl
    | cons innermost outer =>
      dsimp only
      split <;> rfl
  | instruction content => exact congrArg some (site_declare a content)
  | _ => rfl

theorem site_step (a : Assembly) (t : Token) :
    (a.step t).toOption.map site = (t.effect? a.charset).bind a.site.take := by
  rw [← site_apply, step]
  cases a.apply t <;> rfl

/-- No token changes the encoding any more. -/
def Steady (a : Assembly) (l : List Token) : Prop :=
  a.settled = true ∨ ∀ t ∈ l, ∀ charset, t.declared? = some charset → charset = a.charset

theorem steady_declare {a : Assembly} {content : Bytes} {l : List Token}
    (steady : a.Steady (.instruction content :: l)) :
    (a.declare content).charset = a.charset ∧ (a.declare content).Steady l := by
  rcases steady with settled | same
  · have kept : a.declare content = a := by simp [declare, settled]
    rw [kept]
    exact ⟨rfl, Or.inl settled⟩
  · have later := fun t member => same t (List.mem_cons_of_mem _ member)
    unfold declare
    split
    next settled => exact ⟨rfl, Or.inl settled⟩
    next =>
      split
      next charset declared =>
        obtain rfl := same _ List.mem_cons_self charset declared
        exact ⟨rfl, Or.inl rfl⟩
      next => exact ⟨rfl, Or.inr later⟩

theorem steady_step {a b : Assembly} {t : Token} {l : List Token} (steady : a.Steady (t :: l))
    (done : a.step t = .ok b) : b.charset = a.charset ∧ b.Steady l := by
  obtain ⟨next, moves, rfl⟩ := step_eq_ok_iff.mp done
  suffices kept : next.charset = a.charset ∧ next.Steady l from kept
  have later : a.Steady l :=
    steady.imp_right fun same u member => same u (List.mem_cons_of_mem t member)
  cases moves with
  | instruction content => exact steady_declare steady
  | _ => exact ⟨rfl, later⟩

theorem charset_of_run {a b : Assembly} {l : List Token} (steady : a.Steady l)
    (done : a.run l = .ok b) : b.charset = a.charset := by
  induction l generalizing a with
  | nil =>
    obtain rfl := Except.ok.inj done
    rfl
  | cons t l ih =>
    obtain ⟨next, step, rest⟩ := bind_eq_ok.mp done
    obtain ⟨kept, later⟩ := steady_step steady step
    rw [ih later rest, kept]

theorem site_run {a : Assembly} {l : List Token} (steady : a.Steady l) :
    (a.run l).toOption.map site = a.site.read a.charset l := by
  induction l generalizing a with
  | nil => rfl
  | cons t l ih =>
    rw [run_cons, Site.read_cons, ← site_step]
    cases moved : a.step t with
    | error e => rfl
    | ok b =>
      obtain ⟨kept, rest⟩ := steady_step steady moved
      have after := ih rest
      rw [kept] at after
      exact after

theorem toOption_finish (a : Assembly) :
    (a.finish.map Document.mk).toOption = a.site.document? := by
  unfold finish Site.document?
  cases opened : a.opened <;> simp [site, opened, Except.map, Except.toOption]

theorem toOption_ofLexed {a : Assembly} {lexed : Lexed} (initial : a.site = Site.top)
    (steady : a.Steady lexed.tokens) :
    ((a.ofLexed lexed).map Document.mk).toOption = lexed.document? a.charset := by
  have ran := site_run steady
  rw [initial] at ran
  rw [ofLexed, Lexed.document?, ← ran]
  cases a.run lexed.tokens with
  | error e => cases lexed.fault <;> rfl
  | ok b =>
    cases lexed.fault with
    | some fault => rfl
    | none => exact toOption_finish b

end Assembly

namespace Document

theorem toOption_parse (s : String) : (parse s).toOption = (lexed s).document? .utf8 :=
  Assembly.toOption_ofLexed rfl (Or.inl rfl)

/-- The tokens of a byte string behind its marks. -/
def lexedBytes (s : Bytes) : Lexed := Lexed.ofBytes (Charset.ofSignature (dropUtf8Mark s)).2

theorem toOption_parseBytes {s : Bytes} {charset : Charset}
    (signed : (Charset.ofSignature (dropUtf8Mark s)).1 = charset)
    (undeclared : ∀ t ∈ (lexedBytes s).tokens, ∀ other, t.declared? = some other → other = charset) :
    (parseBytes s).toOption = (lexedBytes s).document? charset := by
  rw [← signed] at undeclared ⊢
  exact Assembly.toOption_ofLexed rfl (Or.inr undeclared)

end Document

end PomToGradle
