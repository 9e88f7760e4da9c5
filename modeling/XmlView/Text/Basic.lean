/-! Text as a caller holds it: a sequence of code points in which, unlike `String`,
a surrogate may stand unpaired. Writing such text as UTF-8 fails at the first run of
unpaired surrogates; `encode_ofString` says that text made from a `String` always writes. -/
namespace XmlView

/-- A sequence of code points; a surrogate in `0xD800`–`0xDFFF` may stand alone. -/
structure Text where
  points : List Nat
  deriving DecidableEq, Hashable, Inhabited, Repr

namespace Text

def ofString (s : String) : Text := ⟨s.toList.map Char.toNat⟩

def empty : Text := ⟨[]⟩

def length (t : Text) : Nat := t.points.length

def isEmpty (t : Text) : Bool := t.points.isEmpty

instance : Append Text := ⟨fun a b => ⟨a.points ++ b.points⟩⟩

theorem append_points (a b : Text) : (a ++ b).points = a.points ++ b.points := rfl

def isSurrogate (n : Nat) : Bool := 0xD800 ≤ n && n < 0xE000

def charOf? (n : Nat) : Option Char :=
  if n.isValidChar then some (Char.ofNat n) else none

/-- White space as text methods count it: the ASCII controls from tab to carriage return
and the four separators after them, the space, next line, no-break space and the Unicode
spaces and separators. -/
def isSpacePoint (p : Nat) : Bool :=
  (0x09 ≤ p && p ≤ 0x0D) || (0x1C ≤ p && p ≤ 0x20) || p == 0x85 || p == 0xA0 ||
    p == 0x1680 || (0x2000 ≤ p && p ≤ 0x200A) || p == 0x2028 || p == 0x2029 ||
    p == 0x202F || p == 0x205F || p == 0x3000

def stripPoints (ps : List Nat) : List Nat :=
  ((ps.dropWhile isSpacePoint).reverse.dropWhile isSpacePoint).reverse

def strip (t : Text) : Text := ⟨stripPoints t.points⟩

/-- The run of unpaired surrogates at which writing as UTF-8 stops: where it starts,
where it ends, and its first code point. -/
structure EncodeFault where
  start : Nat
  stop : Nat
  first : Nat
  deriving DecidableEq, Repr

def hex4 (n : Nat) : String :=
  let ds := Nat.toDigits 16 n
  String.ofList (List.replicate (4 - ds.length) '0' ++ ds)

def EncodeFault.message (f : EncodeFault) : String :=
  if f.stop = f.start + 1 then
    "'utf-8' codec can't encode character '\\u" ++ hex4 f.first ++ "' in position " ++
      toString f.start ++ ": surrogates not allowed"
  else
    "'utf-8' codec can't encode characters in position " ++ toString f.start ++ "-" ++
      toString (f.stop - 1) ++ ": surrogates not allowed"

def firstFault (i : Nat) : List Nat → Option EncodeFault
  | [] => none
  | p :: ps =>
    if isSurrogate p then
      some ⟨i, i + 1 + (ps.takeWhile isSurrogate).length, p⟩
    else firstFault (i + 1) ps

def chars (t : Text) : List Char := t.points.filterMap charOf?

def toStringLossy (t : Text) : String := String.ofList t.chars

/-- The text as a `String`, or the run of unpaired surrogates that stops it. -/
def encode (t : Text) : Except EncodeFault String :=
  match firstFault 0 t.points with
  | some f => .error f
  | none => .ok t.toStringLossy

theorem firstFault_map_char (i : Nat) (cs : List Char) :
    firstFault i (cs.map Char.toNat) = none := by
  induction cs generalizing i with
  | nil => rfl
  | cons c cs ih =>
    have hc : isSurrogate c.toNat = false := by
      have := c.valid
      simp only [isSurrogate, Bool.and_eq_false_iff, decide_eq_false_iff_not, Nat.not_le,
        Nat.not_lt]
      simp only [Char.toNat, UInt32.isValidChar, Nat.isValidChar] at this ⊢
      omega
    simp [firstFault, hc, ih]

theorem charOf_toNat (c : Char) : charOf? c.toNat = some c := by
  have h : c.toNat.isValidChar := c.valid
  simp [charOf?, h, Char.ofNat_toNat]

theorem chars_ofString (s : String) : (ofString s).chars = s.toList := by
  simp only [chars, ofString]
  induction s.toList with
  | nil => rfl
  | cons c cs ih => simp [charOf_toNat, ih]

theorem encode_ofString (s : String) : (ofString s).encode = .ok s := by
  simp only [encode, ofString, firstFault_map_char, toStringLossy]
  have := chars_ofString s
  simp only [ofString] at this
  rw [this, String.ofList_toList]

end Text

end XmlView
