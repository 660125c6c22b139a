import Mathlib.Data.List.Basic

/-! # Code points of bytes

The encodings that `json.loads` tells apart by the first bytes of a text, each read into
code points. Units of a surrogate pair that stand alone are let through, as the reader's
error handler does.
-/

namespace Foundation

/-- The encodings of a JSON text in bytes. -/
inductive ByteEncoding
  | utf8
  | utf8Sig
  | utf16
  | utf16Be
  | utf16Le
  | utf32
  | utf32Be
  | utf32Le
  deriving DecidableEq, Repr

/-- `json.detect_encoding`. -/
def detectEncoding (bytes : List Nat) : ByteEncoding :=
  if [0x00, 0x00, 0xfe, 0xff].isPrefixOf bytes || [0xff, 0xfe, 0x00, 0x00].isPrefixOf bytes then
    .utf32
  else if [0xfe, 0xff].isPrefixOf bytes || [0xff, 0xfe].isPrefixOf bytes then .utf16
  else if [0xef, 0xbb, 0xbf].isPrefixOf bytes then .utf8Sig
  else
    match bytes with
    | a :: b :: c :: d :: _ =>
        if a = 0 then (if b = 0 then .utf32Be else .utf16Be)
        else if b = 0 then (if c = 0 ∧ d = 0 then .utf32Le else .utf16Le)
        else .utf8
    | [a, b] => if a = 0 then .utf16Be else if b = 0 then .utf16Le else .utf8
    | _ => .utf8

/-- A byte behind the first of a character. -/
def isTailByte (byte : Nat) : Bool :=
  0x80 ≤ byte && byte < 0xc0

/-- A character of two bytes. -/
def twoBytes (a b : Nat) : Option Nat :=
  if 0xc2 ≤ a ∧ a < 0xe0 ∧ isTailByte b then some ((a - 0xc0) * 64 + (b - 0x80)) else none

/-- A character of three bytes, a unit of a surrogate pair among them. -/
def threeBytes (a b c : Nat) : Option Nat :=
  let code := (a - 0xe0) * 4096 + (b - 0x80) * 64 + (c - 0x80)
  if 0xe0 ≤ a ∧ a < 0xf0 ∧ isTailByte b ∧ isTailByte c ∧ 0x800 ≤ code then some code else none

/-- A character of four bytes. -/
def fourBytes (a b c d : Nat) : Option Nat :=
  let code := (a - 0xf0) * 262144 + (b - 0x80) * 4096 + (c - 0x80) * 64 + (d - 0x80)
  if 0xf0 ≤ a ∧ a < 0xf5 ∧ isTailByte b ∧ isTailByte c ∧ isTailByte d ∧ 0x10000 ≤ code ∧
      code < 0x110000 then some code
  else none

/-- `bytes.decode("utf-8", "surrogatepass")`. -/
def utf8Codes : List Nat → Option (List Nat)
  | [] => some []
  | a :: rest =>
      if a < 0x80 then (utf8Codes rest).map (a :: ·)
      else
        match rest with
        | [] => none
        | b :: rest =>
            match twoBytes a b with
            | some code => (utf8Codes rest).map (code :: ·)
            | none =>
                match rest with
                | [] => none
                | c :: rest =>
                    match threeBytes a b c with
                    | some code => (utf8Codes rest).map (code :: ·)
                    | none =>
                        match rest with
                        | [] => none
                        | d :: rest =>
                            (fourBytes a b c d).bind fun code => (utf8Codes rest).map (code :: ·)

/-- The units that bytes spell two at a time. -/
def unitsOf16 (big : Bool) : List Nat → Option (List Nat)
  | [] => some []
  | [_] => none
  | a :: b :: rest =>
      (unitsOf16 big rest).map ((if big then a * 256 + b else b * 256 + a) :: ·)

/-- The code points of units: two that make a pair are one, and others stand for
themselves. -/
def joinUnits : List Nat → List Nat
  | high :: low :: rest =>
      if 0xd800 ≤ high ∧ high < 0xdc00 ∧ 0xdc00 ≤ low ∧ low < 0xe000 then
        (0x10000 + (high - 0xd800) * 1024 + (low - 0xdc00)) :: joinUnits rest
      else high :: joinUnits (low :: rest)
  | [unit] => [unit]
  | [] => []

/-- The code points that bytes spell four at a time. -/
def unitsOf32 (big : Bool) : List Nat → Option (List Nat)
  | [] => some []
  | a :: b :: c :: d :: rest =>
      let code := if big then ((a * 256 + b) * 256 + c) * 256 + d
        else ((d * 256 + c) * 256 + b) * 256 + a
      if code < 0x110000 then (unitsOf32 big rest).map (code :: ·) else none
  | _ => none

/-- Whether the bytes of a unit stand with the most significant first: an encoding without
its own order takes it from the mark. -/
def ByteEncoding.isBig (encoding : ByteEncoding) (bytes : List Nat) : Bool :=
  match encoding with
  | .utf16Be | .utf32Be => true
  | .utf16 => [0xfe, 0xff].isPrefixOf bytes
  | .utf32 => [0x00, 0x00, 0xfe, 0xff].isPrefixOf bytes
  | _ => false

/-- The bytes behind the mark. -/
def ByteEncoding.unmarked (encoding : ByteEncoding) (bytes : List Nat) : List Nat :=
  match encoding with
  | .utf8Sig => bytes.drop 3
  | .utf16 => bytes.drop 2
  | .utf32 => bytes.drop 4
  | _ => bytes

/-- The units of a text: of two bytes or four, or characters of UTF-8. -/
def ByteEncoding.units (encoding : ByteEncoding) (bytes : List Nat) : Option (List Nat) :=
  match encoding with
  | .utf8 | .utf8Sig => utf8Codes (encoding.unmarked bytes)
  | .utf16 | .utf16Be | .utf16Le => unitsOf16 (encoding.isBig bytes) (encoding.unmarked bytes)
  | .utf32 | .utf32Be | .utf32Le => unitsOf32 (encoding.isBig bytes) (encoding.unmarked bytes)

/-- `bytes.decode(encoding, "surrogatepass")`. -/
def ByteEncoding.decode (encoding : ByteEncoding) (bytes : List Nat) : Option (List Nat) :=
  match encoding with
  | .utf16 | .utf16Be | .utf16Le => (encoding.units bytes).map joinUnits
  | _ => encoding.units bytes

/-- The encodings whose bytes below 128 are characters of their own. -/
def ByteEncoding.isUtf8 (encoding : ByteEncoding) : Bool :=
  encoding = .utf8 || encoding = .utf8Sig

/-- What a mark can be. -/
def byteMarks : List (List Nat) :=
  [[], [0xef, 0xbb, 0xbf], [0xfe, 0xff], [0xff, 0xfe], [0x00, 0x00, 0xfe, 0xff],
    [0xff, 0xfe, 0x00, 0x00]]

/-- The mark stands in front of the text. -/
theorem exists_mark (bytes : List Nat) :
    ∃ mark ∈ byteMarks, bytes = mark ++ (detectEncoding bytes).unmarked bytes := by
  have split : ∀ {mark : List Nat}, mark.isPrefixOf bytes = true →
      bytes = mark ++ bytes.drop mark.length := fun starts =>
    (List.prefix_iff_eq_append.mp (List.isPrefixOf_iff_prefix.mp starts)).symm
  unfold detectEncoding
  split_ifs with wide narrow signed
  · rcases Bool.or_eq_true_iff.mp wide with starts | starts
    · exact ⟨_, by decide, split starts⟩
    · exact ⟨_, by decide, split starts⟩
  · rcases Bool.or_eq_true_iff.mp narrow with starts | starts
    · exact ⟨_, by decide, split starts⟩
    · exact ⟨_, by decide, split starts⟩
  · exact ⟨_, by decide, split signed⟩
  · refine ⟨[], by decide, ?_⟩
    split
    · split_ifs
      all_goals rfl
    · split_ifs
      all_goals rfl
    · rfl

end Foundation
