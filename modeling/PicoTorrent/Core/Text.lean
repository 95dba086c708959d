import Mathlib.Data.List.Basic

namespace PicoTorrent

/-! Text as the program holds it.  A `std::string` is its bytes; a `wxString` is Unicode
text, which we keep as its UTF-8 encoding together with the proof that the encoding is
well formed, so that an ill-formed `wxString` cannot be built. -/

/-- A `std::string`, as the bytes it holds. -/
abbrev StdString := List UInt8

/-- The bytes of a C++ string literal (sources are UTF-8). -/
def StdString.ofString (text : String) : StdString :=
  text.data.flatMap String.utf8EncodeChar

/-- `std::string::rfind(needle, pos)`: the last position at or before `pos` where `needle`
starts, `none` standing for `npos`. -/
def StdString.rfind (haystack needle : StdString) (pos : Nat) : Option Nat :=
  ((List.range (min pos (haystack.length - needle.length) + 1)).filter fun i =>
    needle.isPrefixOf (haystack.drop i)).getLast?

/-- With `pos = 0` only position `0` is tried, so `rfind` tests for a prefix. -/
theorem StdString.rfind_zero_eq_some_zero_iff (haystack needle : StdString) :
    haystack.rfind needle 0 = some 0 ↔ needle <+: haystack := by
  by_cases starts : needle <+: haystack <;> simp [rfind, List.range_succ, List.filter_cons, starts]

/-- `std::string::compare`: the sign of the first difference, or of the length difference
when one string is a prefix of the other. -/
def StdString.compare : StdString → StdString → Int
  | [], [] => 0
  | [], _ :: _ => -1
  | _ :: _, [] => 1
  | a :: as, b :: bs => if a < b then -1 else if b < a then 1 else StdString.compare as bs

theorem StdString.compare_eq_zero_iff : ∀ (a b : StdString), a.compare b = 0 ↔ a = b
  | [], [] => by simp [StdString.compare]
  | [], _ :: _ => by simp [StdString.compare]
  | _ :: _, [] => by simp [StdString.compare]
  | x :: as, y :: bs => by
      by_cases less : x < y
      · simp [StdString.compare, less, UInt8.ne_of_lt less]
      · by_cases greater : y < x
        · simp [StdString.compare, less, greater, (UInt8.ne_of_lt greater).symm]
        · have same : x = y := by
            simp only [UInt8.lt_def, BitVec.lt_def] at less greater
            exact UInt8.eq_of_toBitVec_eq (BitVec.eq_of_toNat_eq (by omega))
          simp [StdString.compare, less, greater, same, compare_eq_zero_iff as bs]

/-- The byte ranges allowed after a lead byte, one range per continuation byte,
following the table of well-formed UTF-8 byte sequences of the Unicode standard. -/
def continuationRanges (lead : UInt8) : Option (List (UInt8 × UInt8)) :=
  if lead ≤ 0x7F then some []
  else if lead < 0xC2 then none
  else if lead ≤ 0xDF then some [(0x80, 0xBF)]
  else if lead = 0xE0 then some [(0xA0, 0xBF), (0x80, 0xBF)]
  else if lead = 0xED then some [(0x80, 0x9F), (0x80, 0xBF)]
  else if lead ≤ 0xEF then some [(0x80, 0xBF), (0x80, 0xBF)]
  else if lead = 0xF0 then some [(0x90, 0xBF), (0x80, 0xBF), (0x80, 0xBF)]
  else if lead ≤ 0xF3 then some [(0x80, 0xBF), (0x80, 0xBF), (0x80, 0xBF)]
  else if lead = 0xF4 then some [(0x80, 0x8F), (0x80, 0xBF), (0x80, 0xBF)]
  else none

/-- Scan `bytes` while the continuation ranges in `pending` are still owed. -/
def validUTF8From : List (UInt8 × UInt8) → StdString → Bool
  | [], [] => true
  | _ :: _, [] => false
  | [], lead :: rest =>
      match continuationRanges lead with
      | some pending => validUTF8From pending rest
      | none => false
  | (low, high) :: pending, byte :: rest =>
      low ≤ byte && byte ≤ high && validUTF8From pending rest

/-- The well-formedness check of `wxString::FromUTF8`. -/
def isValidUTF8 (bytes : StdString) : Bool :=
  validUTF8From [] bytes

@[simp] theorem isValidUTF8_nil : isValidUTF8 [] = true := rfl

structure WxString where
  utf8 : StdString
  valid : isValidUTF8 utf8 = true
  deriving DecidableEq

namespace WxString

def empty : WxString := ⟨[], isValidUTF8_nil⟩

/-- `wxString::FromUTF8`: the text the bytes encode, or the empty string when they are
not well-formed UTF-8. -/
def fromUTF8 (bytes : StdString) : WxString :=
  if valid : isValidUTF8 bytes = true then ⟨bytes, valid⟩ else empty

theorem fromUTF8_of_valid {bytes : StdString} (valid : isValidUTF8 bytes = true) :
    fromUTF8 bytes = ⟨bytes, valid⟩ :=
  dif_pos valid

end WxString

/-- `Utils::toStdString`: the UTF-8 encoding of a `wxString`. -/
def Utils.toStdString (text : WxString) : StdString :=
  text.utf8

@[simp] theorem WxString.fromUTF8_toStdString (text : WxString) :
    WxString.fromUTF8 (Utils.toStdString text) = text :=
  WxString.fromUTF8_of_valid text.valid

end PicoTorrent
