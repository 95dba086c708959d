import Mathlib.Data.List.GetD
import Mathlib.Order.Basic
import PicoTorrent.Libtorrent.AddTorrentParams

namespace PicoTorrent

/-! `std::vector` operations the dialog uses on a torrent's `file_priorities`. -/

namespace StdVector

def resize (values : List α) (count : Nat) (value : α) : List α :=
  if count ≤ values.length then values.take count
  else values ++ List.replicate (count - values.length) value

/-- `operator[]`.  A read past the end is undefined behaviour, which the model marks
`none`. -/
def index (values : List α) (position : Nat) : Option α :=
  values[position]?

end StdVector

namespace AddTorrentDialog

/-! `SetFilePriorities` on the selected torrent's `file_priorities` vector: for each
index, grow the vector with `default_priority` when the index is past its end, then
store the priority there. -/

def setFilePriority (prio : DownloadPriority) (priorities : List DownloadPriority)
    (idx : Nat) : List DownloadPriority :=
  let resized :=
    if priorities.length ≤ idx then StdVector.resize priorities (idx + 1) defaultPriority
    else priorities
  resized.set idx prio

def setFilePriorities (priorities : List DownloadPriority) (fileIndices : List Nat)
    (prio : DownloadPriority) : List DownloadPriority :=
  fileIndices.foldl (setFilePriority prio) priorities

inductive PriorityMenuItem
  | maximum
  | normal
  | low
  | doNotDownload
  deriving DecidableEq, Repr

/-- The priority a menu entry is checked for and that its handler applies. -/
def PriorityMenuItem.priority : PriorityMenuItem → DownloadPriority
  | .maximum => topPriority
  | .normal => defaultPriority
  | .low => lowPriority
  | .doNotDownload => dontDownload

/-- The priority the `std::all_of` lambda reads for file `i`: its entry, or
`default_priority` past the end of the vector. -/
def effectivePriority (priorities : List DownloadPriority) (i : Nat) : DownloadPriority :=
  if inside : priorities.length ≥ i + 1 then priorities[i] else defaultPriority

/-- `firstPrio`, guarded only by `file_priorities.size() > 0`; `none` where it reads
past the end of a vector. -/
def firstPrio (priorities : List DownloadPriority) (fileIndices : List Nat) :
    Option DownloadPriority :=
  if priorities.length > 0 then
    (StdVector.index fileIndices 0).bind (StdVector.index priorities)
  else some defaultPriority

/-- The check marks of the priority submenu, or `none` where computing them reads past
the end of a vector. -/
def priorityMenuChecks (priorities : List DownloadPriority) (fileIndices : List Nat) :
    Option (PriorityMenuItem → Bool) :=
  (firstPrio priorities fileIndices).map fun first =>
    let allSamePrio := fileIndices.all fun i => first == effectivePriority priorities i
    fun item => allSamePrio && first == item.priority

theorem effectivePriority_eq_getD (priorities : List DownloadPriority) (i : Nat) :
    effectivePriority priorities i = priorities[i]?.getD defaultPriority := by
  unfold effectivePriority
  split
  · simp [List.getElem?_eq_getElem (show i < priorities.length by omega)]
  · simp [List.getElem?_eq_none (show priorities.length ≤ i by omega)]

/-- After the priority of file 0 is set on a torrent with no priorities yet, a right
click on file 3 makes `firstPrio` read past the end of the one-entry vector, where the
`std::all_of` lambda reads `default_priority`. -/
theorem firstPrio_reads_past_end :
    setFilePriorities [] [0] topPriority = [topPriority] ∧
      firstPrio [topPriority] [3] = none ∧
      effectivePriority [topPriority] 3 = defaultPriority := by
  decide

theorem firstPrio_of_in_bounds {priorities : List DownloadPriority} {first : Nat}
    (rest : List Nat) (inBounds : priorities.length = 0 ∨ first < priorities.length) :
    firstPrio priorities (first :: rest) = some (effectivePriority priorities first) := by
  rw [effectivePriority_eq_getD]
  unfold firstPrio StdVector.index
  rcases inBounds with empty | inside
  · rw [if_neg (by omega), List.getElem?_eq_none (by omega)]
    rfl
  · rw [if_pos (by omega)]
    simp only [List.getElem?_cons_zero, Option.some_bind, List.getElem?_eq_getElem inside,
      Option.getD_some]

/-- Where `firstPrio` stays in bounds, an entry of the menu is checked exactly when
every selected file has its priority. -/
theorem priorityMenuChecks_of_in_bounds {priorities : List DownloadPriority} {first : Nat}
    (rest : List Nat) (inBounds : priorities.length = 0 ∨ first < priorities.length) :
    priorityMenuChecks priorities (first :: rest) =
      some fun item => (first :: rest).all fun i =>
        effectivePriority priorities i == item.priority := by
  rw [priorityMenuChecks, firstPrio_of_in_bounds rest inBounds, Option.map_some']
  congr 1
  funext item
  simp only [List.all_cons, beq_self_eq_true, Bool.true_and]
  rw [Bool.eq_iff_iff]
  simp only [Bool.and_eq_true, List.all_eq_true, beq_iff_eq]
  constructor
  · rintro ⟨sameAsFirst, firstChecked⟩
    exact ⟨firstChecked, fun i member => (sameAsFirst i member).symm.trans firstChecked⟩
  · rintro ⟨firstChecked, othersChecked⟩
    exact ⟨fun i member => firstChecked.trans (othersChecked i member).symm, firstChecked⟩

theorem priorityMenuChecks_first_in_bounds :
    ([topPriority].length = 0 ∨ 0 < [topPriority].length) ∧
      priorityMenuChecks [topPriority] [0, 5] =
        some fun item => [0, 5].all fun i => effectivePriority [topPriority] i == item.priority :=
  ⟨.inr (by decide), priorityMenuChecks_of_in_bounds [5] (.inr (by decide))⟩

section Result

variable (priorities : List DownloadPriority) (fileIndices : List Nat) (prio : DownloadPriority)

end Result

end AddTorrentDialog

end PicoTorrent
