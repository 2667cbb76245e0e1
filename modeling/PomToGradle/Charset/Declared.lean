import PomToGradle.Charset.Label

/-!
The encoding that an XML declaration names. A declaration is read as attributes, one after the other,
up to the first one called `encoding` or the first one that is not of the form `name = "value"`.
-/
namespace PomToGradle

def isKeyByte (b : UInt8) : Bool := !(isBlankByte b || b == ascii '=')

structure Attribute where
  name : Bytes
  value : Bytes
deriving DecidableEq, Repr

/-- A value up to the quote that opened it, and what follows. -/
def quotedValue? : Bytes → Option (Bytes × Bytes)
  | [] => none
  | b :: rest =>
    match Quote.ofByte? b with
    | none => none
    | some q =>
      match rest.dropWhile (· != q.byte) with
      | [] => none
      | _ :: after => some (rest.takeWhile (· != q.byte), after)

/-- The first attribute and what follows it: a name up to a blank or an equals sign, the sign, and a
    quoted value, with blanks allowed before each of the three. -/
def attribute? (s : Bytes) : Option (Attribute × Bytes) :=
  match s.dropWhile isBlankByte with
  | [] => none
  | first :: rest =>
    match (rest.dropWhile isKeyByte).dropWhile isBlankByte with
    | [] => none
    | sign :: sequel =>
      if sign = ascii '=' then
        (quotedValue? (sequel.dropWhile isBlankByte)).map fun (value, after) =>
          (⟨first :: rest.takeWhile isKeyByte, value⟩, after)
      else none

theorem length_dropWhile_le (p : UInt8 → Bool) (s : Bytes) : (s.dropWhile p).length ≤ s.length :=
  (List.dropWhile_sublist p).length_le

theorem length_lt_of_quotedValue? {s value after : Bytes} (h : quotedValue? s = some (value, after)) :
    after.length < s.length := by
  unfold quotedValue? at h
  split at h
  · contradiction
  next b rest =>
    split at h
    · contradiction
    next q _ =>
      have shorter := length_dropWhile_le (· != q.byte) rest
      split at h
      · contradiction
      next c left eq =>
        rw [eq] at shorter
        simp only [Option.some.injEq, Prod.mk.injEq] at h
        obtain ⟨_, rfl⟩ := h
        simp only [List.length_cons] at shorter ⊢
        omega

/-- Reading an attribute uses up bytes, so a search through attributes ends. -/
theorem length_lt_of_attribute? {s after : Bytes} {a : Attribute}
    (h : attribute? s = some (a, after)) : after.length < s.length := by
  unfold attribute? at h
  have blanks := length_dropWhile_le isBlankByte s
  split at h
  · contradiction
  next first rest eq =>
    rw [eq] at blanks
    have key := length_dropWhile_le isKeyByte rest
    have shorter := length_dropWhile_le isBlankByte (rest.dropWhile isKeyByte)
    split at h
    · contradiction
    next sign sequel eq' =>
      rw [eq'] at shorter
      split at h
      next =>
        obtain ⟨⟨value, left⟩, hv, pair⟩ := Option.map_eq_some_iff.1 h
        simp only [Prod.mk.injEq] at pair
        obtain ⟨_, rfl⟩ := pair
        have value := length_lt_of_quotedValue? hv
        have opening := length_dropWhile_le isBlankByte sequel
        simp only [List.length_cons] at blanks shorter
        omega
      · contradiction

/-- The value of the first attribute of that name. -/
def attributeValue? (name : Bytes) (s : Bytes) : Option Bytes :=
  match _h : attribute? s with
  | none => none
  | some (a, after) => if a.name = name then some a.value else attributeValue? name after
termination_by s.length
decreasing_by exact length_lt_of_attribute? _h

/-- The encoding named by a declaration, given what stands between its `<?xml` and its `?>`. -/
def Charset.declared? (s : Bytes) : Option Charset :=
  (attributeValue? (Bytes.ofAscii "encoding") s).bind Charset.ofLabel?

end PomToGradle
