import PicoTorrent.Libtorrent.AddTorrentParams

namespace PicoTorrent

namespace Json

/-! nlohmann's `basic_json::dump()` for the one kind of value PicoTorrent dumps: an object
whose members are arrays of strings.  `dump()` with no arguments writes no whitespace, leaves
non-ASCII text unescaped (`ensure_ascii` off) and throws `type_error` 316 on a string that is
not UTF-8 (`error_handler_t::strict`).  `serializer::dump_escaped` decodes each string byte by
byte with a UTF-8 automaton, whose states are the continuation ranges of
`continuationRanges`. -/

/-- `type_error` 316 of `dump_escaped`. -/
inductive DumpError where
  /-- `invalid UTF-8 byte at index i: 0xNN` -/
  | invalidByte (index : Nat) (byte : UInt8)
  /-- `incomplete UTF-8 string; last byte: 0xNN` -/
  | incomplete (lastByte : UInt8)
  deriving DecidableEq

/-- The byte of the quotation mark. -/
def quote : UInt8 := 0x22

def backslash : UInt8 := 0x5C

def comma : UInt8 := 0x2C

def colon : UInt8 := 0x3A

def openBracket : UInt8 := 0x5B

def closeBracket : UInt8 := 0x5D

def openBrace : UInt8 := 0x7B

def closeBrace : UInt8 := 0x7D

/-- The `switch` of `dump_escaped` on a code point it has just decoded, with `ensure_ascii`
off: short escapes for backspace, tab, newline, form feed, carriage return, quotation mark and
backslash, `\u00XX` in lower-case hexadecimal for the other control characters, and the byte
as it is otherwise.  A code point of several bytes reaches it with its last byte only, the
others being copied as they come. -/
def escapeCodePoint (codePoint : UInt8) : StdString :=
  if codePoint = 0x08 then [backslash, 'b'.toUInt8]
  else if codePoint = 0x09 then [backslash, 't'.toUInt8]
  else if codePoint = 0x0A then [backslash, 'n'.toUInt8]
  else if codePoint = 0x0C then [backslash, 'f'.toUInt8]
  else if codePoint = 0x0D then [backslash, 'r'.toUInt8]
  else if codePoint = quote then [backslash, quote]
  else if codePoint = backslash then [backslash, backslash]
  else if codePoint ≤ 0x1F then backslash :: 'u'.toUInt8 :: toHex 4 codePoint.toNat
  else [codePoint]

/-- `serializer::dump_escaped` from the automaton's state `pending`, the continuation ranges
the code point being decoded still owes; `index` is the position of the next byte and `last`
the byte before it. -/
def dumpEscapedFrom : List (UInt8 × UInt8) → Nat → UInt8 → StdString →
    Except DumpError StdString
  | [], _, _, [] => .ok []
  | _ :: _, _, last, [] => .error (.incomplete last)
  | [], index, _, lead :: rest =>
      match continuationRanges lead with
      | some [] => (escapeCodePoint lead ++ ·) <$> dumpEscapedFrom [] (index + 1) lead rest
      | some pending => (lead :: ·) <$> dumpEscapedFrom pending (index + 1) lead rest
      | none => .error (.invalidByte index lead)
  | (low, high) :: pending, index, _, byte :: rest =>
      if low ≤ byte ∧ byte ≤ high then
        (byte :: ·) <$> dumpEscapedFrom pending (index + 1) byte rest
      else .error (.invalidByte index byte)

def dumpEscaped (text : StdString) : Except DumpError StdString :=
  dumpEscapedFrom [] 0 0 text

/-- A string: `"`, `dump_escaped`, `"`. -/
def dumpString (text : StdString) : Except DumpError StdString :=
  (fun escaped => quote :: escaped ++ [quote]) <$> dumpEscaped text

/-- An array after its `[`: its elements with a `,` after each but the last, then `]`. -/
def dumpElements : List StdString → Except DumpError StdString
  | [] => pure [closeBracket]
  | [text] => (· ++ [closeBracket]) <$> dumpString text
  | text :: next :: rest => do
      let dumped ← dumpString text
      let tail ← dumpElements (next :: rest)
      pure (dumped ++ comma :: tail)

def dumpArray (elements : List StdString) : Except DumpError StdString :=
  (openBracket :: ·) <$> dumpElements elements

/-- An object after its `{`: each member as its key, `:` and its value, with a `,` after each
but the last, then `}`. -/
def dumpMembers : List (StdString × List StdString) → Except DumpError StdString
  | [] => pure [closeBrace]
  | [(key, elements)] => do
      let dumpedKey ← dumpString key
      let value ← dumpArray elements
      pure (dumpedKey ++ colon :: value ++ [closeBrace])
  | (key, elements) :: next :: rest => do
      let dumpedKey ← dumpString key
      let value ← dumpArray elements
      let tail ← dumpMembers (next :: rest)
      pure (dumpedKey ++ colon :: value ++ comma :: tail)

/-- `basic_json::dump()` of an object whose members are arrays of strings. -/
def dump (members : List (StdString × List StdString)) : Except DumpError StdString :=
  (openBrace :: ·) <$> dumpMembers members

/-- `object[key] = value`: the object is a `std::map`, which keeps its members ordered by
key, `std::string::compare` deciding, and replaces the value of a key it holds. -/
def setMember (members : List (StdString × List StdString)) (key : StdString)
    (value : List StdString) : List (StdString × List StdString) :=
  match members with
  | [] => [(key, value)]
  | (held, elements) :: rest =>
      if key = held then (key, value) :: rest
      else if key.compare held < 0 then (key, value) :: (held, elements) :: rest
      else (held, elements) :: setMember rest key value

/-! What `dump` writes when it does not throw. -/

/-- A string that is UTF-8, as `dump` writes it. -/
def quoted (text : StdString) : StdString :=
  quote :: text.flatMap escapeCodePoint ++ [quote]

section Separated

variable {α : Type}

/-- Items with a `,` after each but the last, then the closing byte: how `dump` lays out
the elements of an array and the members of an object. -/
def separated (item : α → StdString) (close : UInt8) : List α → StdString
  | [] => [close]
  | [x] => item x ++ [close]
  | x :: y :: rest => item x ++ comma :: separated item close (y :: rest)

end Separated

def elementsText (texts : List StdString) : StdString :=
  separated quoted closeBracket texts

def memberText (member : StdString × List StdString) : StdString :=
  quoted member.1 ++ colon :: openBracket :: elementsText member.2

def membersText (members : List (StdString × List StdString)) : StdString :=
  separated memberText closeBrace members

/-- Every string of the object is UTF-8. -/
def AllValid (members : List (StdString × List StdString)) : Prop :=
  ∀ member ∈ members, isValidUTF8 member.1 ∧ ∀ element ∈ member.2, isValidUTF8 element

section Except

variable {α β : Type} {x : Except DumpError α} {f : α → β} {g : α → Except DumpError β}

theorem map_eq_ok {b : β} : f <$> x = .ok b ↔ ∃ a, x = .ok a ∧ b = f a := by
  cases x <;> simp [Functor.map, Except.map, eq_comm]

theorem pure_eq_ok {a b : α} : (pure a : Except DumpError α) = .ok b ↔ b = a := by
  simp [pure, Except.pure, eq_comm]

theorem exists_eq_error_iff : (∃ error, x = .error error) ↔ ∀ a, x ≠ .ok a := by
  cases x <;> simp

theorem bind_eq_ok {b : β} : x >>= g = .ok b ↔ ∃ a, x = .ok a ∧ g a = .ok b := by
  cases x <;> simp [bind, Except.bind]

theorem map_eq_error {error : DumpError} : f <$> x = .error error ↔ x = .error error := by
  cases x <;> simp [Functor.map, Except.map]

theorem bind_eq_error {error : DumpError} :
    x >>= g = .error error ↔ x = .error error ∨ ∃ a, x = .ok a ∧ g a = .error error := by
  cases x <;> simp [bind, Except.bind]

end Except

theorem byte_le_iff {a b : UInt8} : a ≤ b ↔ a.toNat ≤ b.toNat := .rfl

theorem byte_lt_iff {a b : UInt8} : a < b ↔ a.toNat < b.toNat := .rfl

/-! When `dump_escaped` throws, and what it writes when it does not. -/

/-- Bytes from `0x80` on are written as they are. -/
theorem escapeCodePoint_of_le {byte : UInt8} (high : 0x80 ≤ byte) :
    escapeCodePoint byte = [byte] := by
  have differs : ∀ small : UInt8, small < 0x80 → byte ≠ small := by
    rintro small below rfl
    exact absurd high (UInt8.not_le.mpr below)
  have notControl : ¬byte ≤ 0x1F := UInt8.not_le.mpr (Nat.lt_of_lt_of_le (by decide) high)
  unfold escapeCodePoint
  rw [if_neg (differs 0x08 (by decide)), if_neg (differs 0x09 (by decide)),
    if_neg (differs 0x0A (by decide)), if_neg (differs 0x0C (by decide)),
    if_neg (differs 0x0D (by decide)), if_neg (differs quote (by decide)),
    if_neg (differs backslash (by decide)), if_neg notControl]

theorem toHex_four {n : Nat} (small : n < 256) :
    toHex 4 n = [hexDigit 0, hexDigit 0, hexDigit (n / 16), hexDigit (n % 16)] := by
  have high : n / 16 / 16 / 16 % 16 = 0 ∧ n / 16 / 16 % 16 = 0 ∧ n / 16 % 16 = n / 16 := by
    omega
  simp [toHex, high]

/-- The three ways `dump_escaped` writes a code point: one of the seven two-character escapes,
a `\u00XX` escape of another control character, or the byte itself. -/
theorem escapeCodePoint_cases (byte : UInt8) :
    (byte = 0x08 ∨ byte = 0x09 ∨ byte = 0x0A ∨ byte = 0x0C ∨ byte = 0x0D ∨ byte = quote ∨
        byte = backslash) ∨
      (byte ≤ 0x1F ∧ escapeCodePoint byte = backslash :: 'u'.toUInt8 :: toHex 4 byte.toNat) ∨
      (0x1F < byte ∧ byte ≠ quote ∧ byte ≠ backslash ∧ escapeCodePoint byte = [byte]) := by
  by_cases short : byte = 0x08 ∨ byte = 0x09 ∨ byte = 0x0A ∨ byte = 0x0C ∨ byte = 0x0D ∨
      byte = quote ∨ byte = backslash
  · exact .inl short
  simp only [not_or] at short
  obtain ⟨backspace, tab, newline, formFeed, carriageReturn, quotation, reverseSolidus⟩ := short
  unfold escapeCodePoint
  rw [if_neg backspace, if_neg tab, if_neg newline, if_neg formFeed, if_neg carriageReturn,
    if_neg quotation, if_neg reverseSolidus]
  by_cases control : byte ≤ 0x1F
  · exact .inr (.inl ⟨control, if_pos control⟩)
  · exact .inr (.inr ⟨UInt8.not_le.mp control, quotation, reverseSolidus, if_neg control⟩)

/-- Every continuation range of the automaton lies from `0x80` on. -/
theorem continuationRanges_all_high (lead : UInt8) :
    (continuationRanges lead).all (fun pending => pending.all fun range => 0x80 ≤ range.1) := by
  unfold continuationRanges
  simp only [apply_ite (Option.all _), Option.all_some, Option.all_none, List.all_cons,
    List.all_nil, byte_le_iff, UInt8.toNat, UInt8.toBitVec_ofNat, BitVec.toNat_ofNat,
    Nat.reduceMod, Nat.reducePow, Nat.reduceLeDiff, decide_True, Bool.and_true, Bool.and_self,
    ite_self]

/-- The automaton's continuation ranges all lie from `0x80` on, and only a lead byte from
`0x80` on owes any. -/
theorem continuationRanges_high {lead : UInt8} {pending : List (UInt8 × UInt8)}
    (owed : continuationRanges lead = some pending) :
    (∀ range ∈ pending, 0x80 ≤ range.1) ∧ (pending ≠ [] → 0x80 ≤ lead) := by
  refine ⟨by simpa [owed] using continuationRanges_all_high lead, fun nonempty => ?_⟩
  by_cases ascii : lead ≤ 0x7F
  · rw [continuationRanges, if_pos ascii] at owed
    cases owed
    exact absurd rfl nonempty
  · simp only [UInt8.not_le, byte_lt_iff, byte_le_iff, UInt8.toNat, UInt8.toBitVec_ofNat,
      BitVec.toNat_ofNat] at ascii ⊢
    omega

/-- From a state whose owed ranges lie from `0x80` on, the automaton writes the text with
each completed code point escaped exactly when the rest of the string is well-formed. -/
theorem dumpEscapedFrom_eq_ok_iff {pending : List (UInt8 × UInt8)}
    (continuation : ∀ range ∈ pending, 0x80 ≤ range.1) (index : Nat) (last : UInt8)
    (text out : StdString) :
    dumpEscapedFrom pending index last text = .ok out ↔
      validUTF8From pending text = true ∧ out = text.flatMap escapeCodePoint := by
  induction text generalizing pending index last out with
  | nil => cases pending <;> simp [dumpEscapedFrom, validUTF8From, eq_comm]
  | cons byte rest induction =>
      cases pending with
      | nil =>
          cases owed : continuationRanges byte with
          | none => simp [dumpEscapedFrom, validUTF8From, owed]
          | some pending =>
              obtain ⟨continuation, lead⟩ := continuationRanges_high owed
              cases pending with
              | nil =>
                  simp [dumpEscapedFrom, validUTF8From, owed, map_eq_ok, induction, and_assoc]
              | cons range ranges =>
                  simp [dumpEscapedFrom, validUTF8From, owed, map_eq_ok, induction continuation,
                    and_assoc, escapeCodePoint_of_le (lead (List.cons_ne_nil _ _))]
      | cons range pending =>
          obtain ⟨low, high⟩ := range
          have lowHigh : 0x80 ≤ low := continuation _ (List.mem_cons_self _ _)
          have later : ∀ range ∈ pending, 0x80 ≤ range.1 :=
            fun range owed => continuation range (List.mem_cons_of_mem _ owed)
          by_cases inRange : low ≤ byte ∧ byte ≤ high
          · simp [dumpEscapedFrom, validUTF8From, inRange, map_eq_ok, induction later, and_assoc,
              escapeCodePoint_of_le (UInt8.le_trans lowHigh inRange.1)]
          · simp only [dumpEscapedFrom, validUTF8From, if_neg inRange]
            simp_all

theorem dumpString_eq_ok_iff (text out : StdString) :
    dumpString text = .ok out ↔ isValidUTF8 text = true ∧ out = quoted text := by
  simp [dumpString, dumpEscaped, map_eq_ok, isValidUTF8, quoted, and_assoc,
    dumpEscapedFrom_eq_ok_iff (List.forall_mem_nil _)]

theorem dumpElements_eq_ok_iff (texts : List StdString) (out : StdString) :
    dumpElements texts = .ok out ↔
      (∀ text ∈ texts, isValidUTF8 text = true) ∧ out = elementsText texts := by
  induction texts using dumpElements.induct generalizing out with
  | case1 => simp [dumpElements, elementsText, separated, pure_eq_ok]
  | case2 text =>
      simp [dumpElements, elementsText, separated, map_eq_ok, dumpString_eq_ok_iff, and_assoc]
  | case3 text next rest induction =>
      simp [dumpElements, bind_eq_ok, map_eq_ok, dumpString_eq_ok_iff, induction, elementsText,
        separated, pure_eq_ok, and_assoc]

theorem dumpArray_eq_ok_iff (texts : List StdString) (out : StdString) :
    dumpArray texts = .ok out ↔
      (∀ text ∈ texts, isValidUTF8 text = true) ∧
        out = openBracket :: elementsText texts := by
  simp [dumpArray, map_eq_ok, dumpElements_eq_ok_iff, and_assoc]

theorem dumpMembers_eq_ok_iff (members : List (StdString × List StdString)) (out : StdString) :
    dumpMembers members = .ok out ↔ AllValid members ∧ out = membersText members := by
  induction members using dumpMembers.induct generalizing out with
  | case1 => simp [dumpMembers, membersText, separated, AllValid, pure_eq_ok]
  | case2 key elements =>
      simp [dumpMembers, membersText, memberText, separated, AllValid, bind_eq_ok, map_eq_ok,
        dumpString_eq_ok_iff, dumpArray_eq_ok_iff, and_assoc]
  | case3 key elements next rest induction =>
      simp [dumpMembers, membersText, memberText, separated, AllValid, bind_eq_ok, map_eq_ok,
        dumpString_eq_ok_iff, dumpArray_eq_ok_iff, induction, and_assoc]

/-- `dump()` of an object of arrays of strings throws exactly when one of its keys or
elements is not UTF-8, and otherwise writes each string between quotation marks with its
control characters, quotation marks and backslashes escaped. -/
theorem dump_eq_ok_iff (members : List (StdString × List StdString)) (out : StdString) :
    dump members = .ok out ↔ AllValid members ∧ out = openBrace :: membersText members := by
  simp [dump, map_eq_ok, dumpMembers_eq_ok_iff, and_assoc]

/-! What `dump` writes byte by byte. -/

theorem hexDigit_bounds : ∀ nibble < 16, hexDigit nibble ≠ 0 ∧ hexDigit nibble < 0x80 := by
  decide

/-- `dump_escaped` writes no NUL byte, escaping one as `\u0000`, and writes an ASCII code
point in ASCII. -/
theorem escapeCodePoint_bytes (byte : UInt8) :
    ∀ unit ∈ escapeCodePoint byte, unit ≠ 0 ∧ (byte < 0x80 → unit < 0x80) := by
  rcases escapeCodePoint_cases byte with short | ⟨control, written⟩ | ⟨printable, -, -, written⟩
  · rcases short with rfl | rfl | rfl | rfl | rfl | rfl | rfl <;> decide
  · have small : byte.toNat < 32 := Nat.lt_succ_of_le control
    rw [written, toHex_four (by omega)]
    simp only [List.mem_cons, List.not_mem_nil, or_false]
    have digit : ∀ nibble < 16, hexDigit nibble ≠ 0 ∧ (byte < 0x80 → hexDigit nibble < 0x80) :=
      fun nibble small =>
        ⟨(hexDigit_bounds nibble small).1, fun _ => (hexDigit_bounds nibble small).2⟩
    rintro unit (rfl | rfl | rfl | rfl | rfl | rfl)
    exacts [⟨by decide, fun _ => by decide⟩, ⟨by decide, fun _ => by decide⟩, digit 0 (by decide),
      digit 0 (by decide), digit _ (by omega), digit _ (by omega)]
  · rw [written, List.forall_mem_singleton]
    exact ⟨fun zero => absurd printable (by simp [zero]), id⟩

section Separated

variable {α : Type} {item : α → StdString} {close : UInt8} {bytes : UInt8 → Prop}

/-- A property of every byte of the items, of the closing byte and of the comma holds of
every byte of their layout. -/
theorem forall_mem_separated (items : ∀ x, ∀ unit ∈ item x, bytes unit) (closing : bytes close)
    (separating : bytes comma) (xs : List α) : ∀ unit ∈ separated item close xs, bytes unit := by
  induction xs using separated.induct item close with
  | case1 => simpa [separated] using closing
  | case2 x =>
      simp only [separated, List.mem_append, List.mem_singleton]
      rintro unit (inItem | rfl)
      exacts [items x unit inItem, closing]
  | case3 x y rest induction =>
      simp only [separated, List.mem_append, List.mem_cons]
      rintro unit ((inItem | rfl | inRest))
      exacts [items x unit inItem, separating, induction unit inRest]

end Separated

theorem quoted_ne_zero (text : StdString) : ∀ unit ∈ quoted text, unit ≠ 0 := by
  simp only [quoted, List.mem_cons, List.mem_append, List.mem_flatMap, List.not_mem_nil, or_false]
  rintro unit ((rfl | ⟨byte, -, written⟩) | rfl)
  exacts [by decide, (escapeCodePoint_bytes byte unit written).1, by decide]

/-- `dump()` never writes a NUL byte. -/
theorem membersText_ne_zero (members : List (StdString × List StdString)) :
    ∀ unit ∈ membersText members, unit ≠ 0 := by
  refine forall_mem_separated (fun member unit written => ?_) (by decide) (by decide) members
  simp only [memberText, List.mem_append, List.mem_cons] at written
  rcases written with inKey | rfl | rfl | inElements
  exacts [quoted_ne_zero _ unit inKey, by decide, by decide,
    forall_mem_separated quoted_ne_zero (by decide) (by decide) _ unit inElements]

/-! The message of a `type_error` 316. -/

/-- What the message of a `type_error` 316 says of a string: the byte at the index it names,
or the string's last byte. -/
def DumpError.Describes : DumpError → StdString → Prop
  | .invalidByte index byte, text => text[index]? = some byte
  | .incomplete lastByte, text => text.getLast? = some lastByte

theorem getElem?_cons_of_succ_le {lead byte : UInt8} {rest : StdString} {index position : Nat}
    (found : index + 1 ≤ position ∧ rest[position - (index + 1)]? = some byte) :
    index ≤ position ∧ (lead :: rest)[position - index]? = some byte := by
  have shift : position - index = position - (index + 1) + 1 := by omega
  exact ⟨by omega, by rw [shift, List.getElem?_cons_succ]; exact found.2⟩

/-- The invalid byte the automaton reports is the text's byte at the index it names. -/
theorem invalidByte_of_dumpEscapedFrom {pending : List (UInt8 × UInt8)} {index : Nat}
    {last : UInt8} {text : StdString} {position : Nat} {byte : UInt8}
    (threw : dumpEscapedFrom pending index last text = .error (.invalidByte position byte)) :
    index ≤ position ∧ text[position - index]? = some byte := by
  induction text generalizing pending index last with
  | nil => cases pending <;> simp [dumpEscapedFrom] at threw
  | cons lead rest induction =>
      cases pending with
      | nil =>
          cases owed : continuationRanges lead with
          | none =>
              simp only [dumpEscapedFrom, owed, Except.error.injEq, DumpError.invalidByte.injEq]
                at threw
              obtain ⟨rfl, rfl⟩ := threw
              simp
          | some pending =>
              cases pending <;> simp only [dumpEscapedFrom, owed, map_eq_error] at threw <;>
                exact getElem?_cons_of_succ_le (induction threw)
      | cons range pending =>
          obtain ⟨low, high⟩ := range
          by_cases inRange : low ≤ lead ∧ lead ≤ high
          · simp only [dumpEscapedFrom, if_pos inRange, map_eq_error] at threw
            exact getElem?_cons_of_succ_le (induction threw)
          · simp only [dumpEscapedFrom, if_neg inRange, Except.error.injEq,
              DumpError.invalidByte.injEq] at threw
            obtain ⟨rfl, rfl⟩ := threw
            simp

/-- The automaton reports an incomplete code point with the text's last byte. -/
theorem incomplete_of_dumpEscapedFrom {pending : List (UInt8 × UInt8)} {index : Nat}
    {last : UInt8} {text : StdString} {byte : UInt8}
    (threw : dumpEscapedFrom pending index last text = .error (.incomplete byte)) :
    text.getLast?.getD last = byte := by
  induction text generalizing pending index last with
  | nil => cases pending <;> simp_all [dumpEscapedFrom]
  | cons lead rest induction =>
      rw [List.getLast?_cons, Option.getD_some]
      cases pending with
      | nil =>
          cases owed : continuationRanges lead with
          | none => simp [dumpEscapedFrom, owed] at threw
          | some pending =>
              cases pending <;> simp only [dumpEscapedFrom, owed, map_eq_error] at threw <;>
                exact induction threw
      | cons range pending =>
          obtain ⟨low, high⟩ := range
          by_cases inRange : low ≤ lead ∧ lead ≤ high
          · simp only [dumpEscapedFrom, if_pos inRange, map_eq_error] at threw
            exact induction threw
          · simp [dumpEscapedFrom, if_neg inRange] at threw

/-- A string `dump_escaped` rejects is not UTF-8, and the message names one of its bytes
truly. -/
theorem describes_of_dumpString {text : StdString} {error : DumpError}
    (threw : dumpString text = .error error) :
    isValidUTF8 text = false ∧ error.Describes text := by
  have invalid : isValidUTF8 text = false := by
    cases valid : isValidUTF8 text
    · rfl
    · have dumped := (dumpString_eq_ok_iff text (quoted text)).mpr ⟨valid, rfl⟩
      rw [threw] at dumped
      cases dumped
  refine ⟨invalid, ?_⟩
  simp only [dumpString, dumpEscaped, map_eq_error] at threw
  cases error with
  | invalidByte position byte => simpa using (invalidByte_of_dumpEscapedFrom threw).2
  | incomplete byte =>
      have last := incomplete_of_dumpEscapedFrom threw
      cases text with
      | nil => cases threw
      | cons lead rest => simpa [DumpError.Describes, List.getLast?_cons] using last

theorem describes_of_dumpElements (texts : List StdString) (error : DumpError) :
    dumpElements texts = .error error →
      ∃ text ∈ texts, isValidUTF8 text = false ∧ error.Describes text := by
  induction texts using dumpElements.induct with
  | case1 => exact fun threw => nomatch threw
  | case2 text =>
      intro threw
      rw [dumpElements, map_eq_error] at threw
      exact ⟨text, List.mem_singleton_self _, describes_of_dumpString threw⟩
  | case3 text next rest induction =>
      intro threw
      simp only [dumpElements, bind_eq_error] at threw
      rcases threw with threw | ⟨_, -, threw | ⟨_, -, threw⟩⟩
      · exact ⟨text, List.mem_cons_self _ _, describes_of_dumpString threw⟩
      · obtain ⟨bad, listed, found⟩ := induction threw
        exact ⟨bad, List.mem_cons_of_mem _ listed, found⟩
      · cases threw

theorem describes_of_dumpMembers (members : List (StdString × List StdString))
    (error : DumpError) :
    dumpMembers members = .error error →
      ∃ member ∈ members, ∃ text ∈ member.1 :: member.2,
        isValidUTF8 text = false ∧ error.Describes text := by
  have member : ∀ key elements, dumpString key = .error error ∨ dumpArray elements = .error error →
      ∃ text ∈ key :: elements, isValidUTF8 text = false ∧ error.Describes text := by
    rintro key elements (threw | threw)
    · exact ⟨key, List.mem_cons_self _ _, describes_of_dumpString threw⟩
    · rw [dumpArray, map_eq_error] at threw
      obtain ⟨bad, listed, found⟩ := describes_of_dumpElements elements error threw
      exact ⟨bad, List.mem_cons_of_mem _ listed, found⟩
  induction members using dumpMembers.induct with
  | case1 => exact fun threw => nomatch threw
  | case2 key elements =>
      intro threw
      simp only [dumpMembers, bind_eq_error] at threw
      rcases threw with threw | ⟨_, -, threw | ⟨_, -, threw⟩⟩
      · exact ⟨_, List.mem_singleton_self _, member key elements (.inl threw)⟩
      · exact ⟨_, List.mem_singleton_self _, member key elements (.inr threw)⟩
      · cases threw
  | case3 key elements next rest induction =>
      intro threw
      simp only [dumpMembers, bind_eq_error] at threw
      rcases threw with threw | ⟨_, -, threw | ⟨_, -, threw | ⟨_, -, threw⟩⟩⟩
      · exact ⟨_, List.mem_cons_self _ _, member key elements (.inl threw)⟩
      · exact ⟨_, List.mem_cons_self _ _, member key elements (.inr threw)⟩
      · obtain ⟨bad, listed, found⟩ := induction threw
        exact ⟨bad, List.mem_cons_of_mem _ listed, found⟩
      · cases threw

/-- Every `type_error` 316 of `dump()` tells the truth: some key or element of the object is
not UTF-8, and the message names its byte at the index it gives, or its last byte. -/
theorem describes_of_dump {members : List (StdString × List StdString)} {error : DumpError}
    (threw : dump members = .error error) :
    ∃ member ∈ members, ∃ text ∈ member.1 :: member.2,
      isValidUTF8 text = false ∧ error.Describes text :=
  describes_of_dumpMembers members error (map_eq_error.mp threw)

/-! Reading the text back.  The running instance hands what it receives to `json::parse`;
the reader below reads JSON text of the shape `dump` writes, an object whose members are
arrays of strings with no whitespace between the tokens, and says what such a text means. -/

/-- The byte a two-character escape `\c` stands for. -/
def shortEscape (code : UInt8) : Option UInt8 :=
  if code = 'b'.toUInt8 then some 0x08
  else if code = 't'.toUInt8 then some 0x09
  else if code = 'n'.toUInt8 then some 0x0A
  else if code = 'f'.toUInt8 then some 0x0C
  else if code = 'r'.toUInt8 then some 0x0D
  else if code = quote ∨ code = backslash ∨ code = '/'.toUInt8 then some code
  else none

/-- The value of a hexadecimal digit of either case. -/
def hexValue (digit : UInt8) : Option Nat :=
  if '0'.toUInt8 ≤ digit ∧ digit ≤ '9'.toUInt8 then some (digit.toNat - 48)
  else if 'a'.toUInt8 ≤ digit ∧ digit ≤ 'f'.toUInt8 then some (digit.toNat - 87)
  else if 'A'.toUInt8 ≤ digit ∧ digit ≤ 'F'.toUInt8 then some (digit.toNat - 55)
  else none

/-- Where the reader of a string stands: in its text, after a backslash, or inside a `\u`
escape with `digits` hexadecimal digits still to read and `value` read so far. -/
inductive StringReader where
  | text
  | escape
  | unicode (digits value : Nat)

/-- Puts a byte before the text read. -/
def prependByte (byte : UInt8) :
    Option (StdString × StdString) → Option (StdString × StdString) :=
  Option.map fun read => (byte :: read.1, read.2)

/-- Reads the rest of a string up to its closing quotation mark: its bytes, and the text after
the quotation mark.  A `\u` escape of a code point beyond ASCII, which `dump` never writes
with `ensure_ascii` off, is not read. -/
def readStringFrom : StringReader → StdString → Option (StdString × StdString)
  | _, [] => none
  | .text, byte :: rest =>
      if byte = quote then some ([], rest)
      else if byte = backslash then readStringFrom .escape rest
      else prependByte byte (readStringFrom .text rest)
  | .escape, code :: rest =>
      if code = 'u'.toUInt8 then readStringFrom (.unicode 4 0) rest
      else (shortEscape code).bind fun byte => prependByte byte (readStringFrom .text rest)
  | .unicode digits value, digit :: rest =>
      (hexValue digit).bind fun nibble =>
        if 1 < digits then readStringFrom (.unicode (digits - 1) (value * 16 + nibble)) rest
        else if value * 16 + nibble < 0x80 then
          prependByte (UInt8.ofNat (value * 16 + nibble)) (readStringFrom .text rest)
        else none

def readString : StdString → Option (StdString × StdString)
  | byte :: rest => if byte = quote then readStringFrom .text rest else none
  | [] => none

section Separated

variable {α : Type} (readItem : StdString → Option (α × StdString)) (close : UInt8)

/-- Reads items from one that must be there up to the closing byte, `fuel` bounding how
many. -/
def readSeparatedFrom : Nat → StdString → Option (List α × StdString)
  | 0, _ => none
  | fuel + 1, text =>
      (readItem text).bind fun read =>
        match read.2 with
        | byte :: rest =>
            if byte = close then some ([read.1], rest)
            else if byte = comma then
              (readSeparatedFrom fuel rest).map fun items => (read.1 :: items.1, items.2)
            else none
        | [] => none

/-- Reads the opening byte, then items separated by `,` up to the closing byte. -/
def readBracketed (opening : UInt8) : StdString → Option (List α × StdString)
  | byte :: next :: rest =>
      if byte ≠ opening then none
      else if next = close then some ([], rest)
      else readSeparatedFrom readItem close (next :: rest).length (next :: rest)
  | _ => none

end Separated

def readMember (text : StdString) : Option ((StdString × List StdString) × StdString) :=
  (readString text).bind fun key =>
    match key.2 with
    | byte :: rest =>
        if byte = colon then
          (readBracketed readString closeBracket openBracket rest).map fun elements =>
            ((key.1, elements.1), elements.2)
        else none
    | [] => none

/-- Reads a whole text as an object whose members are arrays of strings. -/
def readObject (text : StdString) : Option (List (StdString × List StdString)) :=
  match readBracketed readMember closeBrace openBrace text with
  | some (members, []) => some members
  | _ => none

theorem hexValue_hexDigit : ∀ digit < 16, hexValue (hexDigit digit) = some digit := by
  decide

theorem ofNat_toNat_byte (byte : UInt8) : UInt8.ofNat byte.toNat = byte :=
  UInt8.toNat.inj (UInt8.toNat_ofNat_of_lt (UInt8.toNat_lt_size byte))

/-- Each escape `dump_escaped` writes reads back as its byte. -/
theorem readStringFrom_escapeCodePoint (byte : UInt8) (rest : StdString) :
    readStringFrom .text (escapeCodePoint byte ++ rest) =
      prependByte byte (readStringFrom .text rest) := by
  rcases escapeCodePoint_cases byte with short | ⟨control, written⟩ |
    ⟨-, quotation, reverseSolidus, written⟩
  · rcases short with rfl | rfl | rfl | rfl | rfl | rfl | rfl <;> rfl
  · have small : byte.toNat < 32 := Nat.lt_succ_of_le control
    have high : hexValue (hexDigit (byte.toNat / 16)) = some (byte.toNat / 16) :=
      hexValue_hexDigit _ (by omega)
    have low : hexValue (hexDigit (byte.toNat % 16)) = some (byte.toNat % 16) :=
      hexValue_hexDigit _ (by omega)
    have value : byte.toNat / 16 * 16 + byte.toNat % 16 = byte.toNat := Nat.div_add_mod' _ _
    have distinct : backslash ≠ quote := by decide
    rw [written, toHex_four (by omega)]
    simp [readStringFrom, hexValue_hexDigit 0, high, low, value, distinct,
      show byte.toNat < 128 by omega, ofNat_toNat_byte]
  · rw [written]
    simp [readStringFrom, quotation, reverseSolidus]

/-- An escaped string reads back up to its closing quotation mark, whatever follows. -/
theorem readStringFrom_flatMap (text rest : StdString) :
    readStringFrom .text (text.flatMap escapeCodePoint ++ quote :: rest) = some (text, rest) := by
  induction text with
  | nil => simp [readStringFrom]
  | cons byte text induction =>
      rw [List.flatMap_cons, List.append_assoc, readStringFrom_escapeCodePoint, induction]
      rfl

theorem readString_quoted (text rest : StdString) :
    readString (quoted text ++ rest) = some (text, rest) := by
  simp [quoted, readString, readStringFrom_flatMap]

section Separated

variable {α : Type} {item : α → StdString} {readItem : StdString → Option (α × StdString)}
  {close : UInt8}

theorem length_le_separated (xs : List α) : xs.length ≤ (separated item close xs).length := by
  induction xs using separated.induct item close with
  | case1 => simp
  | case2 x => simp [separated]
  | case3 x y rest induction =>
      simp only [separated, List.length_append, List.length_cons] at induction ⊢
      omega

theorem separated_cons (x : α) (more : List α) :
    ∃ tail, separated item close (x :: more) = item x ++ tail := by
  cases more <;> exact ⟨_, rfl⟩

variable (reads : ∀ x rest, readItem (item x ++ rest) = some (x, rest))
  (closeComma : close ≠ comma)
include reads closeComma

/-- Items laid out by `separated` read back, whatever follows, when the item reader inverts
the items' text. -/
theorem readSeparatedFrom_separated {xs : List α} (nonempty : xs ≠ []) {fuel : Nat}
    (enough : xs.length ≤ fuel) (rest : StdString) :
    readSeparatedFrom readItem close fuel (separated item close xs ++ rest) = some (xs, rest) := by
  induction xs using separated.induct item close generalizing fuel with
  | case1 => exact absurd rfl nonempty
  | case2 x =>
      cases fuel with
      | zero => simp at enough
      | succ fuel => simp [readSeparatedFrom, separated, reads]
  | case3 x y more induction =>
      cases fuel with
      | zero => simp at enough
      | succ fuel =>
          simp [readSeparatedFrom, separated, reads, closeComma.symm,
            induction (List.cons_ne_nil _ _) (by simpa using enough)]

/-- An array or an object reads back from its opening byte: empty by its closing byte, and
otherwise through its items, each of which starts with a quotation mark. -/
theorem readBracketed_separated (opens : ∀ x, ∃ body, item x = quote :: body)
    (closeQuote : close ≠ quote) (opening : UInt8) (xs : List α) (rest : StdString) :
    readBracketed readItem close opening (opening :: (separated item close xs ++ rest)) =
      some (xs, rest) := by
  cases xs with
  | nil => simp [readBracketed, separated]
  | cons x more =>
      obtain ⟨body, starts⟩ := opens x
      obtain ⟨tail, laidOut⟩ : ∃ tail, separated item close (x :: more) = item x ++ tail :=
        separated_cons x more
      have first : separated item close (x :: more) ++ rest = quote :: (body ++ tail ++ rest) := by
        simp [laidOut, starts]
      have enough : (x :: more).length ≤ (separated item close (x :: more) ++ rest).length :=
        (length_le_separated _).trans (List.length_append _ _ ▸ Nat.le_add_right _ _)
      rw [first, readBracketed, if_neg (not_not.mpr rfl),
        if_neg closeQuote.symm, ← first]
      exact readSeparatedFrom_separated reads closeComma (List.cons_ne_nil _ _) enough rest

end Separated

theorem readMember_memberText (member : StdString × List StdString) (rest : StdString) :
    readMember (memberText member ++ rest) = some (member, rest) := by
  obtain ⟨key, elements⟩ := member
  have read := readBracketed_separated readString_quoted
    (show closeBracket ≠ comma by decide) (fun _ => ⟨_, rfl⟩) (by decide) openBracket elements
    rest
  simp [readMember, memberText, readString_quoted, elementsText, read]

theorem readObject_membersText (members : List (StdString × List StdString)) :
    readObject (openBrace :: membersText members) = some members := by
  have read := readBracketed_separated readMember_memberText
    (show closeBrace ≠ comma by decide) (fun _ => ⟨_, rfl⟩) (by decide) openBrace members []
  rw [List.append_nil] at read
  rw [readObject, membersText, read]

/-- What `dump()` writes for an object of arrays of strings reads back as that object: the
text names every key and element, in order, byte for byte. -/
theorem readObject_dump {members : List (StdString × List StdString)} {text : StdString}
    (dumped : dump members = .ok text) : readObject text = some members := by
  simp only [dump, map_eq_ok, dumpMembers_eq_ok_iff] at dumped
  obtain ⟨_, ⟨-, rfl⟩, rfl⟩ := dumped
  exact readObject_membersText members

theorem readObject_dump_escapes :
    dump [(StdString.ofString "files", [StdString.ofString "C:\\a \"b\".torrent"])] =
        .ok (StdString.ofString "\x7b\"files\":[\"C:\\\\a \\\"b\\\".torrent\"]\x7d") ∧
      readObject (StdString.ofString "\x7b\"files\":[\"C:\\\\a \\\"b\\\".torrent\"]\x7d") =
        some [(StdString.ofString "files", [StdString.ofString "C:\\a \"b\".torrent"])] :=
  ⟨rfl, readObject_dump rfl⟩

example :
    (dump [(StdString.ofString "a\"b", [StdString.ofString "\n", [0xC3, 0xA9]])]).toOption.bind
        readObject =
      some [(StdString.ofString "a\"b", [StdString.ofString "\n", [0xC3, 0xA9]])] := by
  decide

end Json

end PicoTorrent
