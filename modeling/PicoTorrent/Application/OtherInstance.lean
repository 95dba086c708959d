import PicoTorrent.Application
import PicoTorrent.Nlohmann.Json

namespace PicoTorrent

/-! `Application::ActivateOtherInstance`: the JSON object a second PicoTorrent builds from its
command line, and the text it sends the running instance over a `wxConnection`.  There is no
`Execute(const std::string&)`: `j.dump()` becomes a `wxString` through the constructor that
decodes with `wxConvLibc`, the ANSI code page on Windows, and `Execute(const wxString&)` sends
`utf8_str()` of it. -/

/-- A single-byte ANSI code page, the one `wxConvLibc` reads a `std::string` with: the UTF-8
encoding, as `wxString::utf8_str` writes it, of the character each byte stands for.  The bytes
below `0x80` stand for themselves, and the others for characters beyond ASCII. -/
structure CodePage where
  utf8 : UInt8 → StdString
  ascii : ∀ byte, byte < 0x80 → utf8 byte = [byte]
  high : ∀ byte, 0x80 ≤ byte → ∀ unit ∈ utf8 byte, 0x80 ≤ unit

namespace CodePage

/-- `wxString(const std::string&)`, which decodes with `wxConvLibc`, then `utf8_str()`. -/
def recode (page : CodePage) (text : StdString) : StdString :=
  text.flatMap page.utf8

/-- A member of an object of arrays of strings, each string recoded. -/
def recodeMember (page : CodePage) (member : StdString × List StdString) :
    StdString × List StdString :=
  (page.recode member.1, member.2.map page.recode)

theorem toNat_add_byte (a b : UInt8) : (a + b).toNat = (a.toNat + b.toNat) % 256 :=
  BitVec.toNat_add _ _

/-- ISO 8859-1, where byte `b` stands for U+00b; Windows-1252 agrees with it from `0xA0` on. -/
def latin1 : CodePage where
  utf8 byte := if byte < 0x80 then [byte] else [byte / 0x40 + 0xC0, byte % 0x40 + 0x80]
  ascii _ small := if_pos small
  high byte large := by
    have small : byte.toNat < 256 := UInt8.toNat_lt_size byte
    have literals : (0x80 : UInt8).toNat = 128 ∧ (0x40 : UInt8).toNat = 64 ∧
        (0xC0 : UInt8).toNat = 192 := ⟨rfl, rfl, rfl⟩
    dsimp only
    rw [if_neg (UInt8.not_lt.mpr large)]
    simp only [List.mem_cons, List.not_mem_nil, or_false]
    rintro unit (rfl | rfl) <;>
      simp only [Json.byte_le_iff, toNat_add_byte, UInt8.toNat_div, UInt8.toNat_mod, literals] <;>
      omega

variable (page : CodePage)

@[simp] theorem recode_nil : page.recode [] = [] := rfl

theorem recode_append (first second : StdString) :
    page.recode (first ++ second) = page.recode first ++ page.recode second :=
  List.flatMap_append _ _ _

theorem recode_cons (byte : UInt8) (rest : StdString) :
    page.recode (byte :: rest) = page.utf8 byte ++ page.recode rest :=
  List.flatMap_cons _ _ _

theorem recode_cons_of_ascii {byte : UInt8} (ascii : byte < 0x80) (rest : StdString) :
    page.recode (byte :: rest) = byte :: page.recode rest := by
  rw [recode_cons, page.ascii byte ascii]
  rfl

theorem flatMap_eq_self {f : UInt8 → StdString} {text : StdString}
    (single : ∀ unit ∈ text, f unit = [unit]) : text.flatMap f = text := by
  induction text with
  | nil => rfl
  | cons unit rest induction =>
      rw [List.flatMap_cons, single unit (List.mem_cons_self _ _),
        induction fun other listed => single other (List.mem_cons_of_mem _ listed)]
      rfl

theorem recode_of_ascii {text : StdString} (ascii : ∀ unit ∈ text, unit < 0x80) :
    page.recode text = text :=
  flatMap_eq_self fun unit listed => page.ascii unit (ascii unit listed)

/-- Recoding commutes with `dump_escaped`: an ASCII code point is escaped in ASCII, and the
bytes a high byte becomes are high, which `dump_escaped` copies. -/
theorem recode_flatMap_escapeCodePoint (text : StdString) :
    page.recode (text.flatMap Json.escapeCodePoint) =
      (page.recode text).flatMap Json.escapeCodePoint := by
  induction text with
  | nil => rfl
  | cons byte rest induction =>
      have escaped : page.recode (Json.escapeCodePoint byte) =
          (page.utf8 byte).flatMap Json.escapeCodePoint := by
        by_cases ascii : byte < 0x80
        · rw [page.ascii byte ascii, List.flatMap_singleton]
          exact page.recode_of_ascii fun unit written =>
            (Json.escapeCodePoint_bytes byte unit written).2 ascii
        · have large : 0x80 ≤ byte := UInt8.not_lt.mp ascii
          rw [Json.escapeCodePoint_of_le large, recode_cons, recode_nil, List.append_nil,
            flatMap_eq_self]
          exact fun unit written => Json.escapeCodePoint_of_le (page.high byte large unit written)
      rw [List.flatMap_cons, recode_append, induction, recode_cons, List.flatMap_append, escaped]

theorem recode_quoted (text : StdString) :
    page.recode (Json.quoted text) = Json.quoted (page.recode text) := by
  simp only [Json.quoted, recode_append, recode_nil, recode_flatMap_escapeCodePoint,
    page.recode_cons_of_ascii (show Json.quote < 0x80 by decide)]

theorem recode_separated {α β : Type} {item : α → StdString} {item' : β → StdString}
    {f : α → β} {close : UInt8} (closeAscii : close < 0x80)
    (recodes : ∀ x, page.recode (item x) = item' (f x)) (xs : List α) :
    page.recode (Json.separated item close xs) = Json.separated item' close (xs.map f) := by
  induction xs using Json.separated.induct item close with
  | case1 => simp [Json.separated, page.recode_cons_of_ascii closeAscii]
  | case2 x =>
      simp [Json.separated, recode_append, recodes, page.recode_cons_of_ascii closeAscii]
  | case3 x y rest induction =>
      simp only [Json.separated, recode_append, recodes, induction, List.map_cons,
        page.recode_cons_of_ascii (show Json.comma < 0x80 by decide)]

theorem recode_elementsText (texts : List StdString) :
    page.recode (Json.elementsText texts) = Json.elementsText (texts.map page.recode) :=
  page.recode_separated (by decide) page.recode_quoted texts

theorem recode_membersText (members : List (StdString × List StdString)) :
    page.recode (Json.membersText members) =
      Json.membersText (members.map page.recodeMember) := by
  refine page.recode_separated (by decide) (fun member => ?_) members
  simp only [Json.memberText, recode_append, recode_quoted, recode_elementsText, recodeMember,
    page.recode_cons_of_ascii (show Json.colon < 0x80 by decide),
    page.recode_cons_of_ascii (show Json.openBracket < 0x80 by decide)]

end CodePage

namespace Application

/-! `Application::ActivateOtherInstance`. -/

/-- `json j; j["files"] = m_options.files; j["magnet_links"] = m_options.magnets;`. -/
def otherInstanceObject (options : ApplicationOptions) : List (StdString × List StdString) :=
  Json.setMember (Json.setMember [] (StdString.ofString "files") options.files)
    (StdString.ofString "magnet_links") options.magnets

/-- `wxConnectionBase::Execute(const wxString&)` given `buf = s.utf8_str()`: it sends
`strlen(buf) + 1` bytes, so the text before the first NUL and then a NUL. -/
def execute (utf8 : StdString) : StdString :=
  utf8.takeWhile (· != 0)

/-- `Application::ActivateOtherInstance`: the text `conn->Execute` sends when `MakeConnection`
gave a connection, and none when it did not; `j.dump()` may throw. -/
def activateOtherInstance (page : CodePage) (connected : Bool) (options : ApplicationOptions) :
    Except Json.DumpError (Option StdString) :=
  if connected then
    (fun dumped => some (execute (page.recode dumped))) <$> Json.dump (otherInstanceObject options)
  else pure none

/-- The `std::map` of the object holds `files` before `magnet_links`: it is the payload
`OnInit` hands over. -/
theorem otherInstanceObject_eq (options : ApplicationOptions) :
    otherInstanceObject options =
      (activateOtherInstancePayload options).map fun member =>
        (StdString.ofString member.1, member.2) :=
  rfl

/-- What is sent for a dumped object: its text with every string recoded; `dump` writes no
NUL, so `Execute` sends all of it. -/
theorem execute_recode_dump (page : CodePage) (members : List (StdString × List StdString)) :
    execute (page.recode (Json.openBrace :: Json.membersText members)) =
      Json.openBrace :: Json.membersText (members.map page.recodeMember) := by
  rw [page.recode_cons_of_ascii (by decide), page.recode_membersText, execute,
    List.takeWhile_eq_self_iff]
  simp only [List.mem_cons, bne_iff_ne, ne_eq]
  rintro unit (rfl | written)
  exacts [by decide, Json.membersText_ne_zero _ unit written]

theorem activateOtherInstance_eq_ok_none_iff (page : CodePage) (connected : Bool)
    (options : ApplicationOptions) :
    activateOtherInstance page connected options = .ok none ↔ connected = false := by
  cases connected <;> simp [activateOtherInstance, Json.map_eq_ok, pure, Except.pure]

theorem activateOtherInstance_eq_ok_some_iff (page : CodePage) (connected : Bool)
    (options : ApplicationOptions) (text : StdString) :
    activateOtherInstance page connected options = .ok (some text) ↔
      connected = true ∧ Json.AllValid (otherInstanceObject options) ∧
        text = Json.openBrace ::
          Json.membersText ((otherInstanceObject options).map page.recodeMember) := by
  cases connected <;>
    simp [activateOtherInstance, Json.map_eq_ok, Json.dump_eq_ok_iff, execute_recode_dump,
      and_assoc, pure, Except.pure]

/-- `ActivateOtherInstance` throws exactly when it is connected and some string of the object
is not UTF-8. -/
theorem exists_activateOtherInstance_eq_error_iff (page : CodePage) (connected : Bool)
    (options : ApplicationOptions) :
    (∃ error, activateOtherInstance page connected options = .error error) ↔
      connected = true ∧ ¬Json.AllValid (otherInstanceObject options) := by
  cases connected
  · simp [activateOtherInstance, pure, Except.pure]
  · simp [activateOtherInstance, Json.map_eq_error, Json.exists_eq_error_iff, Json.dump_eq_ok_iff]

/-- The magnet links of a command line are UTF-8: they are the parameters' own text. -/
theorem magnets_valid (absolute : StdString → StdString) (params : List WxString) :
    ∀ magnet ∈ (onCmdLineParsed absolute params .empty).2.magnets,
      isValidUTF8 magnet = true := by
  intro magnet listed
  simp only [onCmdLineParsed, foldl_addParam, ApplicationOptions.empty, List.nil_append,
    List.mem_filter, List.mem_map] at listed
  obtain ⟨⟨param, -, rfl⟩, -⟩ := listed
  exact param.valid

/-- The files of a command line are UTF-8 exactly when the absolute path of every parameter
that is not a magnet link is. -/
theorem files_valid_iff (absolute : StdString → StdString) (params : List WxString) :
    (∀ file ∈ (onCmdLineParsed absolute params .empty).2.files, isValidUTF8 file = true) ↔
      ∀ arg ∈ params.map Utils.toStdString, ¬magnetPrefix <+: arg →
        isValidUTF8 (absolute arg) = true := by
  simp only [onCmdLineParsed, foldl_addParam, ApplicationOptions.empty, List.nil_append,
    List.forall_mem_map, List.forall_mem_filter, ← isMagnetArg_iff, Bool.not_eq_true',
    Bool.not_eq_true]

theorem keys_valid :
    isValidUTF8 (StdString.ofString "files") = true ∧
      isValidUTF8 (StdString.ofString "magnet_links") = true := by
  decide

/-- The object is UTF-8 throughout exactly when its files are: its keys and, here, its
magnet links always are. -/
theorem allValid_otherInstanceObject {options : ApplicationOptions}
    (magnets : ∀ magnet ∈ options.magnets, isValidUTF8 magnet = true) :
    Json.AllValid (otherInstanceObject options) ↔
      ∀ file ∈ options.files, isValidUTF8 file = true := by
  simp [otherInstanceObject_eq, Json.AllValid, activateOtherInstancePayload, keys_valid]
  exact fun _ => magnets

/-- When `ActivateOtherInstance` throws, the message names truly a byte of one of the file
paths, which is not UTF-8: the keys and the magnet links never are the cause. -/
theorem describes_file_of_activateOtherInstance {page : CodePage} {connected : Bool}
    {options : ApplicationOptions} {error : Json.DumpError}
    (magnets : ∀ magnet ∈ options.magnets, isValidUTF8 magnet = true)
    (threw : activateOtherInstance page connected options = .error error) :
    ∃ file ∈ options.files, isValidUTF8 file = false ∧ error.Describes file := by
  cases connected with
  | false => cases threw
  | true =>
      obtain ⟨member, listed, text, inMember, invalid, describes⟩ :=
        Json.describes_of_dump (Json.map_eq_error.mp threw)
      simp only [otherInstanceObject_eq, activateOtherInstancePayload, List.map_cons,
        List.map_nil, List.mem_cons, List.not_mem_nil, or_false] at listed
      rcases listed with rfl | rfl <;> simp only [List.mem_cons] at inMember
      · rcases inMember with rfl | file
        · exact absurd invalid (by simp [keys_valid.1])
        · exact ⟨text, file, invalid, describes⟩
      · rcases inMember with rfl | magnet
        · exact absurd invalid (by simp [keys_valid.2])
        · exact absurd invalid (by simp [magnets text magnet])

/-- A second instance, whatever its command line, whatever `std::filesystem::absolute` returns
and whatever the single-byte ANSI code page: when `MakeConnection` fails nothing is sent and
nothing is thrown; when it succeeds, `j.dump()` throws exactly when the absolute path of some
parameter that is not a magnet link is not UTF-8, and then the message names a byte of such a
path truly; otherwise the text sent reads back as the object of the files and the magnet
links, in command-line order, each recoded byte by byte through the code page.  ASCII text
arrives as it was, but a magnet link beyond ASCII, which is UTF-8, arrives encoded twice. -/
theorem activateOtherInstance_cmdLine (page : CodePage) (absolute : StdString → StdString)
    (params : List WxString) (connected : Bool) :
    let options := (onCmdLineParsed absolute params .empty).2
    (activateOtherInstance page connected options = .ok none ↔ connected = false) ∧
      (∀ text, activateOtherInstance page connected options = .ok (some text) →
        Json.readObject text =
          some [(StdString.ofString "files", options.files.map page.recode),
            (StdString.ofString "magnet_links", options.magnets.map page.recode)]) ∧
      ((∃ error, activateOtherInstance page connected options = .error error) ↔
        connected = true ∧ ∃ arg ∈ params.map Utils.toStdString,
          ¬magnetPrefix <+: arg ∧ isValidUTF8 (absolute arg) = false) ∧
      ∀ error, activateOtherInstance page connected options = .error error →
        ∃ file ∈ options.files, isValidUTF8 file = false ∧ error.Describes file := by
  intro options
  have valid := (allValid_otherInstanceObject (magnets_valid absolute params)).trans
    (files_valid_iff absolute params)
  refine ⟨activateOtherInstance_eq_ok_none_iff page connected options, fun text sent => ?_, ?_,
    fun error threw => describes_file_of_activateOtherInstance (magnets_valid absolute params)
      threw⟩
  · obtain ⟨-, -, rfl⟩ :=
      (activateOtherInstance_eq_ok_some_iff page connected options text).mp sent
    have keys : page.recode (StdString.ofString "files") = StdString.ofString "files" ∧
        page.recode (StdString.ofString "magnet_links") = StdString.ofString "magnet_links" :=
      ⟨page.recode_of_ascii (by decide), page.recode_of_ascii (by decide)⟩
    rw [Json.readObject_membersText, otherInstanceObject_eq]
    simp [activateOtherInstancePayload, CodePage.recodeMember, keys]
  · rw [exists_activateOtherInstance_eq_error_iff, valid]
    simp only [not_forall, Bool.not_eq_true, exists_prop]

/-- Under ISO 8859-1, as under Windows-1252, a magnet link whose name is `é`, UTF-8
`0xC3 0xA9`, reaches the running instance as `Ã©`, `0xC3 0x83 0xC2 0xA9`. -/
theorem activateOtherInstance_cmdLine_latin1 :
    let options := (onCmdLineParsed id
      [WxString.fromUTF8 (StdString.ofString "magnet:?xt=urn:btih:1&dn=é")] .empty).2
    options.magnets.map CodePage.latin1.recode =
        [StdString.ofString "magnet:?xt=urn:btih:1&dn=Ã©"] ∧
      ∃ text, activateOtherInstance CodePage.latin1 true options = .ok (some text) ∧
        Json.readObject text =
          some [(StdString.ofString "files", options.files.map CodePage.latin1.recode),
            (StdString.ofString "magnet_links", options.magnets.map CodePage.latin1.recode)] :=
  ⟨by decide, _, rfl, (activateOtherInstance_cmdLine CodePage.latin1 id
    [WxString.fromUTF8 (StdString.ofString "magnet:?xt=urn:btih:1&dn=é")] true).2.1 _ rfl⟩

end Application

end PicoTorrent
