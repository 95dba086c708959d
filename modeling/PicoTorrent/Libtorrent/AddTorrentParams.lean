import Mathlib.Data.BitVec
import PicoTorrent.Core.Text

namespace PicoTorrent

/-! The parts of libtorrent's `add_torrent_params` the add-torrent dialog reads and
writes, with libtorrent's constants for the flags and priorities it uses. -/

/-- `lt::torrent_flags_t`, a 64-bit flag word. -/
abbrev TorrentFlags := BitVec 64

namespace TorrentFlags

/-- The flag whose only set bit is `bit` (libtorrent's `N_bit`). -/
def ofBit (bit : Nat) : TorrentFlags := BitVec.twoPow 64 bit

def pausedBit : Nat := 4
def autoManagedBit : Nat := 5
def sequentialDownloadBit : Nat := 9

def paused : TorrentFlags := ofBit pausedBit
def autoManaged : TorrentFlags := ofBit autoManagedBit
def sequentialDownload : TorrentFlags := ofBit sequentialDownloadBit

@[simp] theorem getLsbD_ofBit (bit index : Nat) :
    (ofBit bit).getLsbD index = (decide (bit < 64) && decide (bit = index)) :=
  BitVec.getLsbD_twoPow bit index

/-- Setting a one-bit flag sets its bit and keeps the others. -/
theorem getLsbD_or_ofBit (flags : TorrentFlags) {bit : Nat} (inRange : bit < 64) (i : Nat) :
    (flags ||| ofBit bit).getLsbD i = if i = bit then true else flags.getLsbD i := by
  by_cases same : i = bit <;> simp [same, inRange, Ne.symm]

/-- Clearing a one-bit flag clears its bit and keeps the others. -/
theorem getLsbD_and_not_ofBit (flags : TorrentFlags) (bit i : Nat) :
    (flags &&& ~~~ofBit bit).getLsbD i = if i = bit then false else flags.getLsbD i := by
  by_cases same : i = bit
  · simp [same]
  · by_cases inside : i < 64
    · simp [same, inside, Ne.symm same]
    · simp [same, BitVec.getLsbD_ge flags i (by omega)]

/-- Testing a one-bit flag the way the dialog does, `(flags & flag) == flag`, reads
that bit. -/
theorem and_ofBit_beq_ofBit {bit : Nat} (flags : TorrentFlags) (inRange : bit < 64) :
    (flags &&& ofBit bit == ofBit bit) = flags.getLsbD bit := by
  unfold ofBit
  rw [BitVec.and_twoPow]
  split
  · simp [*]
  · have nonzero : BitVec.twoPow 64 bit ≠ 0#64 := by
      intro zero
      have bitSet := congrArg (fun word => BitVec.getLsbD word bit) zero
      simp [inRange] at bitSet
    simp [*, Ne.symm nonzero]

/-- Flipping a one-bit flag clears it where it was set and sets it where it was clear. -/
theorem xor_ofBit_eq (flags : TorrentFlags) {bit : Nat} (inRange : bit < 64) :
    flags ^^^ ofBit bit =
      if flags.getLsbD bit then flags &&& ~~~ofBit bit else flags ||| ofBit bit := by
  apply BitVec.eq_of_getLsbD_eq
  intro i
  by_cases same : i.val = bit
  · cases set : flags.getLsbD bit <;> simp [same, set, inRange]
  · split <;> simp [same, Ne.symm same, getLsbD_or_ofBit _ inRange, getLsbD_and_not_ofBit]

end TorrentFlags

/-- `lt::download_priority_t`. -/
abbrev DownloadPriority := UInt8

def dontDownload : DownloadPriority := 0
def lowPriority : DownloadPriority := 1
def defaultPriority : DownloadPriority := 4
def topPriority : DownloadPriority := 7

/-- `lt::sha1_hash`, read as a big-endian number. -/
abbrev Sha1Hash := BitVec 160

/-- `lt::sha256_hash`, read as a big-endian number. -/
abbrev Sha256Hash := BitVec 256

/-- `lt::info_hash_t`; a hash that is all zeros is absent. -/
structure InfoHash where
  v1 : Sha1Hash
  v2 : Sha256Hash
  deriving DecidableEq

namespace InfoHash

def hasV1 (hashes : InfoHash) : Bool := hashes.v1 != 0
def hasV2 (hashes : InfoHash) : Bool := hashes.v2 != 0

end InfoHash

/-- One lowercase hexadecimal digit, as an ASCII byte. -/
def hexDigit (nibble : Nat) : UInt8 :=
  if nibble < 10 then UInt8.ofNat (48 + nibble) else UInt8.ofNat (87 + nibble)

/-- The last `digits` hexadecimal digits of `value`, most significant first; this is how
`operator<<` prints a hash. -/
def toHex : Nat → Nat → StdString
  | 0, _ => []
  | digits + 1, value => toHex digits (value / 16) ++ [hexDigit (value % 16)]

/-- The parts of `lt::torrent_info` the dialog reads. -/
structure TorrentInfo where
  name : StdString
  totalSize : Nat
  comment : StdString
  infoHashes : InfoHash
  deriving DecidableEq

/-- The fields of `lt::add_torrent_params` the dialog reads or writes. -/
structure AddTorrentParams where
  ti : Option TorrentInfo
  name : StdString
  savePath : StdString
  flags : TorrentFlags
  filePriorities : List DownloadPriority
  infoHashes : InfoHash
  deriving DecidableEq

end PicoTorrent
