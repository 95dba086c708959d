import Mathlib.Data.List.Dedup
import Mathlib.Data.List.Sort
import Mathlib.Data.List.Perm.Subperm
import PicoTorrent.Libtorrent.AddTorrentParams

namespace PicoTorrent

/-! The `path_history` table and the statements the add-torrent dialog runs on it.  The
migration that creates the table is not among the sources; its schema is read off the
statements: an integer primary key `id`, and `(path, type)` unique, which the
`ON CONFLICT (path, type)` clause needs. -/

structure PathHistoryRow where
  id : Nat
  path : StdString
  type : StdString
  timestamp : Nat
  deriving DecidableEq

def addTorrentDialogType : StdString := StdString.ofString "add_torrent_dialog"

/-- The table, with its key constraints. -/
structure PathHistory where
  rows : List PathHistoryRow
  ids_nodup : (rows.map PathHistoryRow.id).Nodup
  keys_nodup : (rows.map fun row => (row.path, row.type)).Nodup

namespace PathHistory

/-- The `rowid` SQLite gives an inserted row: one past the largest in use. -/
def nextRowid (rows : List PathHistoryRow) : Nat :=
  (rows.map PathHistoryRow.id).foldr max 0 + 1

theorem id_lt_nextRowid {rows : List PathHistoryRow} {row : PathHistoryRow}
    (member : row ∈ rows) : row.id < nextRowid rows := by
  induction rows with
  | nil => cases member
  | cons head tail induction =>
      simp only [nextRowid, List.map_cons, List.foldr_cons] at induction ⊢
      rcases List.mem_cons.mp member with rfl | inTail
      · omega
      · have := induction inTail
        omega

/-- The row with this path and the dialog's type, whose timestamp the upsert refreshes. -/
def isDialogRowOf (path : StdString) (row : PathHistoryRow) : Bool :=
  row.path == path && row.type == addTorrentDialogType

/-- `DO UPDATE SET timestamp = excluded.timestamp`, on one row. -/
def refreshTimestamp (path : StdString) (now : Nat) (row : PathHistoryRow) : PathHistoryRow :=
  if isDialogRowOf path row then { row with timestamp := now } else row

@[simp] theorem id_refreshTimestamp (path : StdString) (now : Nat) (row : PathHistoryRow) :
    (refreshTimestamp path now row).id = row.id := by
  unfold refreshTimestamp; split <;> rfl

@[simp] theorem path_refreshTimestamp (path : StdString) (now : Nat) (row : PathHistoryRow) :
    (refreshTimestamp path now row).path = row.path := by
  unfold refreshTimestamp; split <;> rfl

@[simp] theorem type_refreshTimestamp (path : StdString) (now : Nat) (row : PathHistoryRow) :
    (refreshTimestamp path now row).type = row.type := by
  unfold refreshTimestamp; split <;> rfl

theorem nodup_map_append_of_fresh {β : Type} (key : PathHistoryRow → β)
    {rows : List PathHistoryRow} {row : PathHistoryRow} (nodup : (rows.map key).Nodup)
    (fresh : ∀ old ∈ rows, key old ≠ key row) : ((rows ++ [row]).map key).Nodup := by
  rw [List.map_append, List.nodup_append]
  refine ⟨nodup, List.nodup_singleton _, ?_⟩
  simpa using fresh

/-- `INSERT INTO path_history (path, type, timestamp) VALUES(?, 'add_torrent_dialog',
strftime('%s')) ON CONFLICT (path, type) DO UPDATE SET timestamp = excluded.timestamp`,
with `path` bound and the clock reading `now`. -/
def upsert (history : PathHistory) (path : StdString) (now : Nat) : PathHistory :=
  if present : history.rows.any (isDialogRowOf path) then
    { rows := history.rows.map (refreshTimestamp path now)
      ids_nodup := by simpa [Function.comp_def] using history.ids_nodup
      keys_nodup := by simpa [Function.comp_def] using history.keys_nodup }
  else
    { rows := history.rows ++
        [{ id := nextRowid history.rows, path, type := addTorrentDialogType, timestamp := now }]
      ids_nodup := nodup_map_append_of_fresh _ history.ids_nodup
        fun _ member => Nat.ne_of_lt (id_lt_nextRowid member)
      keys_nodup := nodup_map_append_of_fresh _ history.keys_nodup
        fun old member same => present <| List.any_eq_true.mpr
          ⟨old, member, by simp [isDialogRowOf, (Prod.mk.inj_iff.mp same).1,
            (Prod.mk.inj_iff.mp same).2]⟩ }

@[simp] theorem isDialogRowOf_refreshTimestamp (path other : StdString) (now : Nat)
    (row : PathHistoryRow) :
    isDialogRowOf other (refreshTimestamp path now row) = isDialogRowOf other row := by
  simp [isDialogRowOf]

theorem refreshTimestamp_of_not_isDialogRow (path : StdString) (now : Nat)
    {row : PathHistoryRow} (otherType : row.type ≠ addTorrentDialogType) :
    refreshTimestamp path now row = row := by
  simp [refreshTimestamp, isDialogRowOf, otherType]

/-- The upsert touches no row of another type. -/
theorem filter_type_ne_upsert (history : PathHistory) (path : StdString) (now : Nat) :
    (history.upsert path now).rows.filter (fun row => row.type ≠ addTorrentDialogType) =
      history.rows.filter fun row => row.type ≠ addTorrentDialogType := by
  unfold upsert
  split
  · rw [List.filter_map]
    simp only [Function.comp_def, type_refreshTimestamp]
    refine (List.map_congr_left fun row member => ?_).trans (List.map_id _)
    exact refreshTimestamp_of_not_isDialogRow path now
      (by simpa using (List.mem_filter.mp member).2)
  · simp [List.filter_append]

/-- After the upsert the table has a row for `path` and every row it had for another
path. -/
theorem exists_isDialogRowOf_upsert (history : PathHistory) (path : StdString) (now : Nat)
    {other : StdString}
    (recorded : other = path ∨ ∃ row ∈ history.rows, isDialogRowOf other row) :
    ∃ row ∈ (history.upsert path now).rows, isDialogRowOf other row := by
  unfold upsert
  split
  · rename_i present
    obtain ⟨row, stored, dialogRow⟩ :=
      recorded.elim (fun same => same ▸ List.any_eq_true.mp present) id
    exact ⟨_, List.mem_map_of_mem _ stored, by rwa [isDialogRowOf_refreshTimestamp]⟩
  · rcases recorded with rfl | ⟨row, stored, dialogRow⟩
    · exact ⟨_, List.mem_append_right _ (List.mem_singleton_self _), by simp [isDialogRowOf]⟩
    · exact ⟨row, List.mem_append_left _ stored, dialogRow⟩

/-- The destructor's loop: one upsert per torrent, the `i`-th at `clock i`. -/
def upsertAll (history : PathHistory) (params : List AddTorrentParams) (clock : Nat → Nat) :
    PathHistory :=
  params.enum.foldl (fun history entry => history.upsert entry.2.savePath (clock entry.1))
    history

/-- The destructor's upserts leave the rows of other types as they were. -/
theorem filter_type_ne_upsertAll (history : PathHistory) (params : List AddTorrentParams)
    (clock : Nat → Nat) :
    (history.upsertAll params clock).rows.filter (fun row => row.type ≠ addTorrentDialogType) =
      history.rows.filter fun row => row.type ≠ addTorrentDialogType := by
  unfold upsertAll
  induction params.enum generalizing history with
  | nil => rfl
  | cons entry entries induction =>
      rw [List.foldl_cons, induction, filter_type_ne_upsert]

theorem exists_isDialogRowOf_foldl_upsert (clock : Nat → Nat)
    (entries : List (Nat × AddTorrentParams)) (history : PathHistory) {other : StdString}
    (recorded :
      other ∈ entries.map (·.2.savePath) ∨ ∃ row ∈ history.rows, isDialogRowOf other row) :
    ∃ row ∈ (entries.foldl
        (fun history entry => history.upsert entry.2.savePath (clock entry.1)) history).rows,
      isDialogRowOf other row := by
  induction entries generalizing history with
  | nil => simpa using recorded
  | cons head entries induction =>
      rw [List.map_cons, List.mem_cons, or_assoc] at recorded
      rw [List.foldl_cons]
      rcases recorded with same | later | stored
      · exact induction _ (.inr (exists_isDialogRowOf_upsert _ _ _ (.inl same)))
      · exact induction _ (.inl later)
      · exact induction _ (.inr (exists_isDialogRowOf_upsert _ _ _ (.inr stored)))

/-- After the destructor's upserts every save path of `m_params` has a dialog row. -/
theorem exists_isDialogRowOf_upsertAll (history : PathHistory) (params : List AddTorrentParams)
    (clock : Nat → Nat) {entry : AddTorrentParams} (member : entry ∈ params) :
    ∃ row ∈ (history.upsertAll params clock).rows, isDialogRowOf entry.savePath row := by
  have saved := List.mem_map_of_mem AddTorrentParams.savePath member
  rw [← List.enum_map_snd params, List.map_map] at saved
  exact exists_isDialogRowOf_foldl_upsert clock _ history (.inl saved)

/-- `type = 'add_torrent_dialog'`. -/
def isDialogRow (row : PathHistoryRow) : Bool :=
  row.type == addTorrentDialogType

/-- `ORDER BY timestamp DESC`: `first` may come before `second`. -/
def NewerOrSame (first second : PathHistoryRow) : Prop :=
  second.timestamp ≤ first.timestamp

instance : DecidableRel NewerOrSame := fun first second =>
  inferInstanceAs (Decidable (second.timestamp ≤ first.timestamp))

instance : IsTotal PathHistoryRow NewerOrSame :=
  ⟨fun first second => Nat.le_total second.timestamp first.timestamp⟩

instance : IsTrans PathHistoryRow NewerOrSame :=
  ⟨fun _ _ _ first second => Nat.le_trans second first⟩

/-- The orders in which `SELECT ... WHERE type = 'add_torrent_dialog' ORDER BY timestamp
DESC` may return the dialog's rows: all of them, newest first, ties in any order. -/
def IsNewestFirst (history : PathHistory) (ordered : List PathHistoryRow) : Prop :=
  ordered.Perm (history.rows.filter isDialogRow) ∧ ordered.Sorted NewerOrSame

/-- One such order, by insertion sort. -/
def newestFirst (history : PathHistory) : List PathHistoryRow :=
  (history.rows.filter isDialogRow).insertionSort NewerOrSame

theorem isNewestFirst_newestFirst (history : PathHistory) :
    IsNewestFirst history history.newestFirst :=
  ⟨List.perm_insertionSort _ _, List.sorted_insertionSort _ _⟩

/-- `DELETE FROM path_history WHERE id NOT IN (SELECT id FROM path_history WHERE type =
'add_torrent_dialog' ORDER BY timestamp DESC LIMIT 5)`, the inner query returning the
rows in the order `ordered`. -/
def trim (history : PathHistory) (ordered : List PathHistoryRow) : PathHistory where
  rows := history.rows.filter fun row => row.id ∈ (ordered.take 5).map PathHistoryRow.id
  ids_nodup := history.ids_nodup.sublist ((List.filter_sublist _).map _)
  keys_nodup := history.keys_nodup.sublist ((List.filter_sublist _).map _)

/-- `~AddTorrentDialog`: the upserts, then the trimming `DELETE`. -/
def destroy (history : PathHistory) (params : List AddTorrentParams) (clock : Nat → Nat) :
    PathHistory :=
  let upserted := history.upsertAll params clock
  upserted.trim upserted.newestFirst

/-- The save-path history the next dialog loads: `SELECT path FROM path_history WHERE
type = 'add_torrent_dialog' ORDER BY timestamp DESC LIMIT 5`. -/
def savePathHistory (ordered : List PathHistoryRow) : List StdString :=
  (ordered.take 5).map PathHistoryRow.path

/-! What the trimming `DELETE` keeps. -/

theorem eq_of_id_eq (history : PathHistory) {row other : PathHistoryRow}
    (stored : row ∈ history.rows) (storedOther : other ∈ history.rows)
    (sameId : row.id = other.id) : row = other :=
  List.inj_on_of_nodup_map history.ids_nodup stored storedOther sameId

section Trim

variable {history : PathHistory} {ordered : List PathHistoryRow}

/-- The inner query lists dialog rows of the table. -/
theorem mem_of_mem_take (newest : IsNewestFirst history ordered) {row : PathHistoryRow}
    (taken : row ∈ ordered.take 5) : row ∈ history.rows ∧ isDialogRow row :=
  List.mem_filter.mp (newest.1.subset (List.mem_of_mem_take taken))

theorem nodup_take (newest : IsNewestFirst history ordered) : (ordered.take 5).Nodup :=
  (newest.1.nodup_iff.mpr ((history.ids_nodup.of_map _).filter _)).sublist
    (List.take_sublist _ _)

/-- A dialog row that is not among the first five of the inner query comes after them. -/
theorem mem_drop_of_not_mem_take (newest : IsNewestFirst history ordered) {row : PathHistoryRow}
    (stored : row ∈ history.rows) (dialogRow : isDialogRow row)
    (removed : row ∉ ordered.take 5) :
    row ∈ ordered.drop 5 := by
  have listed := newest.1.mem_iff.mpr (List.mem_filter.mpr ⟨stored, dialogRow⟩)
  rw [← List.take_append_drop 5 ordered] at listed
  exact (List.mem_append.mp listed).resolve_left removed

theorem newerOrSame_of_mem_take_of_mem_drop (newest : IsNewestFirst history ordered)
    {first later : PathHistoryRow} (taken : first ∈ ordered.take 5)
    (dropped : later ∈ ordered.drop 5) : NewerOrSame first later := by
  have sorted := newest.2
  rw [← List.take_append_drop 5 ordered] at sorted
  exact (List.pairwise_append.mp sorted).2.2 _ taken _ dropped

/-- A stored row survives exactly when it is among the first five of the inner query. -/
theorem mem_trim (newest : IsNewestFirst history ordered) {row : PathHistoryRow} :
    row ∈ (history.trim ordered).rows ↔ row ∈ ordered.take 5 := by
  simp only [trim, List.mem_filter, List.mem_map, decide_eq_true_eq]
  constructor
  · rintro ⟨member, first, firstTaken, sameId⟩
    rwa [← eq_of_id_eq history (mem_of_mem_take newest firstTaken).1 member sameId]
  · exact fun taken => ⟨(mem_of_mem_take newest taken).1, row, taken, rfl⟩

theorem isDialogRow_of_mem_trim (newest : IsNewestFirst history ordered)
    {row : PathHistoryRow} (kept : row ∈ (history.trim ordered).rows) : isDialogRow row :=
  (mem_of_mem_take newest ((mem_trim newest).mp kept)).2

theorem length_trim_le (newest : IsNewestFirst history ordered) :
    (history.trim ordered).rows.length ≤ 5 :=
  calc (history.trim ordered).rows.length
      ≤ (ordered.take 5).length :=
        ((history.trim ordered).ids_nodup.of_map _).subperm
          (fun _ kept => (mem_trim newest).mp kept) |>.length_le
    _ ≤ 5 := List.length_take_le _ _

theorem newerOrSame_of_mem_trim (newest : IsNewestFirst history ordered)
    {row removed : PathHistoryRow} (kept : row ∈ (history.trim ordered).rows)
    (stored : removed ∈ history.rows) (dialogRow : isDialogRow removed)
    (deleted : removed ∉ (history.trim ordered).rows) : NewerOrSame row removed :=
  newerOrSame_of_mem_take_of_mem_drop newest ((mem_trim newest).mp kept)
    (mem_drop_of_not_mem_take newest stored dialogRow fun taken =>
      deleted ((mem_trim newest).mpr taken))

theorem filter_isDialogRow_trim (newest : IsNewestFirst history ordered) :
    (history.trim ordered).rows.filter isDialogRow = (history.trim ordered).rows :=
  List.filter_eq_self.mpr fun _ kept => isDialogRow_of_mem_trim newest kept

/-- The next dialog reads back every row the `DELETE` kept. -/
theorem savePathHistory_perm (newest : IsNewestFirst history ordered)
    {next : List PathHistoryRow} (reread : IsNewestFirst (history.trim ordered) next) :
    (savePathHistory next).Perm ((history.trim ordered).rows.map PathHistoryRow.path) := by
  have listed := reread.1
  rw [filter_isDialogRow_trim newest] at listed
  rw [savePathHistory, List.take_of_length_le (listed.length_eq ▸ length_trim_le newest)]
  exact listed.map _

end Trim

/-- What the destructor leaves, the inner query returning the dialog's rows in the order
`ordered`: the upserts record every save path and leave the other rows alone; the `DELETE`
then keeps only dialog rows, at most five of them, none older than a dialog row it
removes; and the next dialog's query reads back what was kept. -/
structure DestructorOutcome (history : PathHistory) (params : List AddTorrentParams)
    (upserted : PathHistory) (ordered : List PathHistoryRow) : Prop where
  others_upserted :
    (upserted.rows.filter fun row => row.type ≠ addTorrentDialogType) =
      history.rows.filter fun row => row.type ≠ addTorrentDialogType
  saved : ∀ entry ∈ params, ∃ row ∈ upserted.rows, isDialogRowOf entry.savePath row
  dialog_type : ∀ row ∈ (upserted.trim ordered).rows, row.type = addTorrentDialogType
  at_most_five : (upserted.trim ordered).rows.length ≤ 5
  newest_kept :
    ∀ row ∈ (upserted.trim ordered).rows, ∀ removed ∈ upserted.rows,
      removed.type = addTorrentDialogType → removed ∉ (upserted.trim ordered).rows →
        removed.timestamp ≤ row.timestamp
  reread :
    ∀ next, IsNewestFirst (upserted.trim ordered) next →
      (savePathHistory next).Perm ((upserted.trim ordered).rows.map PathHistoryRow.path)

/-- The destructor's outcome, for every table, every `m_params`, every clock and every
order `ORDER BY timestamp DESC` allows. -/
theorem destructorOutcome_upsertAll (history : PathHistory) (params : List AddTorrentParams)
    (clock : Nat → Nat) {ordered : List PathHistoryRow}
    (newest : IsNewestFirst (history.upsertAll params clock) ordered) :
    DestructorOutcome history params (history.upsertAll params clock) ordered where
  others_upserted := filter_type_ne_upsertAll history params clock
  saved _ member := exists_isDialogRowOf_upsertAll history params clock member
  dialog_type _ kept := by simpa [isDialogRow] using isDialogRow_of_mem_trim newest kept
  at_most_five := length_trim_le newest
  newest_kept _ kept _ stored dialogRow deleted :=
    newerOrSame_of_mem_trim newest kept stored (by simpa [isDialogRow] using dialogRow) deleted
  reread _ := savePathHistory_perm newest

/-- A table with six dialog rows, and a dialog that closes on a torrent with a new save path
at a later time. -/
theorem destructorOutcome_sixRows :
    let history : PathHistory :=
      ⟨(List.range 6).map fun i =>
        { id := i + 1, path := [0x30 + UInt8.ofNat i], type := addTorrentDialogType,
          timestamp := i + 1 }, by decide, by decide⟩
    let params : List AddTorrentParams :=
      [{ ti := none, name := [], savePath := StdString.ofString "C:\\Downloads", flags := 0,
         filePriorities := [], infoHashes := { v1 := 1, v2 := 0 } }]
    let upserted := history.upsertAll params fun _ => 7
    IsNewestFirst upserted upserted.newestFirst ∧
      DestructorOutcome history params upserted upserted.newestFirst :=
  ⟨isNewestFirst_newestFirst _,
    destructorOutcome_upsertAll _ _ _ (isNewestFirst_newestFirst _)⟩

/-- A row of another history type. -/
def otherHistoryRow : PathHistoryRow :=
  { id := 1, path := StdString.ofString "D:\\Media", type := StdString.ofString "other",
    timestamp := 0 }

/-- The destructor of a dialog with one torrent deletes the row of another type. -/
theorem destroy_deletes_otherHistoryRow :
    let history : PathHistory := ⟨[otherHistoryRow], by decide, by decide⟩
    let params : AddTorrentParams :=
      { ti := none, name := [], savePath := StdString.ofString "C:\\Downloads", flags := 0,
        filePriorities := [], infoHashes := { v1 := 1, v2 := 0 } }
    otherHistoryRow.type ≠ addTorrentDialogType ∧
      (history.destroy [params] fun _ => 1).rows =
        [{ id := 2, path := params.savePath, type := addTorrentDialogType, timestamp := 1 }] := by
  decide

/-! A dialog that closes later than every recorded dialog row, with at most five distinct
save paths, leaves all of them in the history. -/

/-- Two dialog rows of one path are one row: `(path, type)` is unique. -/
theorem eq_of_path_eq (history : PathHistory) {row other : PathHistoryRow}
    (stored : row ∈ history.rows) (storedOther : other ∈ history.rows)
    (dialogRow : isDialogRow row) (dialogOther : isDialogRow other)
    (samePath : row.path = other.path) : row = other := by
  have sameType : row.type = other.type := by
    simp only [isDialogRow, beq_iff_eq] at dialogRow dialogOther
    rw [dialogRow, dialogOther]
  exact List.inj_on_of_nodup_map history.keys_nodup stored storedOther (by rw [samePath, sameType])

section Retention

variable (history : PathHistory) (now : Nat)

/-- What upserting the save paths `paths`, each at a time no earlier than `now`, leaves of a
row: a dialog row of one of those paths is no older than `now`, and any other row is one of
`history`'s. -/
def RefreshedRow (paths : List StdString) (row : PathHistoryRow) : Prop :=
  (isDialogRow row → row.path ∈ paths → now ≤ row.timestamp) ∧
    ((isDialogRow row ∧ row.path ∈ paths) ∨ row ∈ history.rows)

def Refreshed (paths : List StdString) (current : PathHistory) : Prop :=
  ∀ row ∈ current.rows, RefreshedRow history now paths row

theorem refreshed_self : Refreshed history now [] history :=
  fun _ stored => ⟨fun _ listed => absurd listed (List.not_mem_nil _), .inr stored⟩

theorem refreshedRow_of_isDialogRowOf {paths : List StdString} {path : StdString}
    {row : PathHistoryRow} (dialogRowOf : isDialogRowOf path row)
    (notEarlier : now ≤ row.timestamp) :
    RefreshedRow history now (paths ++ [path]) row := by
  simp only [isDialogRowOf, Bool.and_eq_true, beq_iff_eq] at dialogRowOf
  exact ⟨fun _ _ => notEarlier,
    .inl ⟨by simp [isDialogRow, dialogRowOf.2], by simp [dialogRowOf.1]⟩⟩

theorem RefreshedRow.append_of_not_isDialogRowOf {paths : List StdString} {path : StdString}
    {row : PathHistoryRow} (refreshed : RefreshedRow history now paths row)
    (other : isDialogRowOf path row = false) : RefreshedRow history now (paths ++ [path]) row := by
  have narrowed : isDialogRow row → row.path ∈ paths ++ [path] → row.path ∈ paths := by
    intro dialogRow listed
    refine (List.mem_append.mp listed).resolve_right fun same => ?_
    simp_all [isDialogRowOf, isDialogRow]
  exact ⟨fun dialogRow listed => refreshed.1 dialogRow (narrowed dialogRow listed),
    refreshed.2.imp_left fun ⟨dialogRow, listed⟩ =>
      ⟨dialogRow, List.mem_append_left _ listed⟩⟩

/-- One upsert at a time no earlier than `now` adds its path to the refreshed ones. -/
theorem refreshed_upsert {paths : List StdString} {current : PathHistory}
    (refreshed : Refreshed history now paths current) (path : StdString) {reading : Nat}
    (notEarlier : now ≤ reading) :
    Refreshed history now (paths ++ [path]) (current.upsert path reading) := by
  unfold upsert
  split
  · intro _ member
    obtain ⟨row, stored, rfl⟩ := List.mem_map.mp member
    by_cases dialogRowOf : isDialogRowOf path row
    · rw [refreshTimestamp, if_pos dialogRowOf]
      exact refreshedRow_of_isDialogRowOf history now dialogRowOf notEarlier
    · rw [refreshTimestamp, if_neg dialogRowOf]
      exact (refreshed row stored).append_of_not_isDialogRowOf history now
        (by simpa using dialogRowOf)
  · rename_i absent
    intro row member
    rcases List.mem_append.mp member with stored | added
    · exact (refreshed row stored).append_of_not_isDialogRowOf history now
        (Bool.eq_false_iff.mpr fun dialogRowOf =>
          absent (List.any_eq_true.mpr ⟨row, stored, dialogRowOf⟩))
    · rw [List.mem_singleton.mp added]
      exact refreshedRow_of_isDialogRowOf history now (by simp [isDialogRowOf]) notEarlier

theorem refreshed_foldl_upsert (clock : Nat → Nat) (entries : List (Nat × AddTorrentParams))
    (ticking : ∀ entry ∈ entries, now ≤ clock entry.1) {paths : List StdString}
    {current : PathHistory} (refreshed : Refreshed history now paths current) :
    Refreshed history now (paths ++ entries.map (·.2.savePath))
      (entries.foldl (fun history entry => history.upsert entry.2.savePath (clock entry.1))
        current) := by
  induction entries generalizing paths current with
  | nil => simpa using refreshed
  | cons entry entries induction =>
      rw [List.foldl_cons, List.map_cons, ← List.singleton_append, ← List.append_assoc]
      exact induction (fun later member => ticking later (List.mem_cons_of_mem _ member))
        (refreshed_upsert history now refreshed _ (ticking entry (List.mem_cons_self _ _)))

/-- The destructor's upserts, each at a time no earlier than `now`, refresh every save path
of `m_params`. -/
theorem refreshed_upsertAll (params : List AddTorrentParams) (clock : Nat → Nat)
    (ticking : ∀ i < params.length, now ≤ clock i) :
    Refreshed history now (params.map AddTorrentParams.savePath)
      (history.upsertAll params clock) := by
  have refreshed := refreshed_foldl_upsert history now clock params.enum
    (fun _ member => ticking _ (List.fst_lt_of_mem_enum member)) (refreshed_self history now)
  have paths : params.enum.map (·.2.savePath) = params.map AddTorrentParams.savePath := by
    show List.map (AddTorrentParams.savePath ∘ Prod.snd) params.enum = _
    rw [← List.map_map, List.enum_map_snd]
  rwa [List.nil_append, paths] at refreshed

/-- When the refreshed paths are at most five and every dialog row of `history` is older
than `now`, the trimming query lists each refreshed dialog row among its first five. -/
theorem mem_take_of_refreshed {paths : List StdString} {upserted : PathHistory}
    {ordered : List PathHistoryRow} (newest : IsNewestFirst upserted ordered)
    (refreshed : Refreshed history now paths upserted)
    (later : ∀ row ∈ history.rows, isDialogRow row → row.timestamp < now)
    (fewPaths : paths.dedup.length ≤ 5) {row : PathHistoryRow} (stored : row ∈ upserted.rows)
    (dialogRow : isDialogRow row) (listed : row.path ∈ paths) : row ∈ ordered.take 5 := by
  by_contra removed
  have dropped := mem_drop_of_not_mem_take newest stored dialogRow removed
  have first : ∀ other ∈ ordered.take 5, other ∈ upserted.rows ∧ isDialogRow other :=
    fun _ taken => mem_of_mem_take newest taken
  have current : ∀ other ∈ ordered.take 5, other.path ∈ paths := by
    intro other taken
    have newer := newerOrSame_of_mem_take_of_mem_drop newest taken dropped
    refine (refreshed other (first other taken).1).2.elim And.right fun original => ?_
    have := later other original (first other taken).2
    have := (refreshed row stored).1 dialogRow listed
    exact absurd newer (by unfold NewerOrSame; omega)
  have distinct : (row.path :: (ordered.take 5).map PathHistoryRow.path).Nodup := by
    refine List.nodup_cons.mpr ⟨fun inFirst => ?_, (nodup_take newest).map_on
      fun a taken b takenOther same => eq_of_path_eq upserted (first a taken).1
        (first b takenOther).1 (first a taken).2 (first b takenOther).2 same⟩
    obtain ⟨other, taken, samePath⟩ := List.mem_map.mp inFirst
    exact removed (eq_of_path_eq upserted (first other taken).1 stored (first other taken).2
      dialogRow samePath ▸ taken)
  have long : 5 < ordered.length := by
    have := List.length_pos_of_mem dropped
    rw [List.length_drop] at this
    omega
  have six := (distinct.subperm fun path member => List.mem_dedup.mpr <| by
    rcases List.mem_cons.mp member with rfl | inFirst
    · exact listed
    · obtain ⟨other, taken, rfl⟩ := List.mem_map.mp inFirst
      exact current other taken).length_le
  rw [List.length_cons, List.length_map, List.length_take, Nat.min_eq_left long.le] at six
  omega

end Retention

/-- A dialog closed later than every recorded dialog row, with at most five distinct save
paths, leaves every one of them in the history the next dialog offers, whatever order the
queries give rows of equal timestamp. -/
theorem savePath_mem_savePathHistory (history : PathHistory) (params : List AddTorrentParams)
    (clock : Nat → Nat) (now : Nat)
    (later : ∀ row ∈ history.rows, isDialogRow row → row.timestamp < now)
    (ticking : ∀ i < params.length, now ≤ clock i)
    (fewPaths : (params.map AddTorrentParams.savePath).dedup.length ≤ 5)
    {ordered next : List PathHistoryRow}
    (newest : IsNewestFirst (history.upsertAll params clock) ordered)
    (reread : IsNewestFirst ((history.upsertAll params clock).trim ordered) next) :
    ∀ entry ∈ params, entry.savePath ∈ savePathHistory next := by
  intro entry member
  obtain ⟨row, stored, dialogRowOf⟩ :=
    exists_isDialogRowOf_upsertAll history params clock member
  simp only [isDialogRowOf, Bool.and_eq_true, beq_iff_eq] at dialogRowOf
  have dialogRow : isDialogRow row := by simp [isDialogRow, dialogRowOf.2]
  have kept := mem_take_of_refreshed history now newest
    (refreshed_upsertAll history now params clock ticking) later fewPaths stored dialogRow
    (dialogRowOf.1 ▸ List.mem_map_of_mem _ member)
  rw [(savePathHistory_perm newest reread).mem_iff, ← dialogRowOf.1]
  exact List.mem_map_of_mem _ ((mem_trim newest).mpr kept)

theorem savePath_mem_savePathHistory_later :
    let history : PathHistory :=
      ⟨[{ id := 1, path := StdString.ofString "D:\\Old", type := addTorrentDialogType,
          timestamp := 0 }], by decide, by decide⟩
    let magnet : AddTorrentParams :=
      { ti := none, name := [], savePath := StdString.ofString "C:\\Downloads", flags := 0,
        filePriorities := [], infoHashes := { v1 := 1, v2 := 0 } }
    let params := [magnet, { magnet with savePath := StdString.ofString "E:\\Isos" }]
    let upserted := history.upsertAll params fun i => i + 1
    let kept := upserted.trim upserted.newestFirst
    (∀ row ∈ history.rows, isDialogRow row → row.timestamp < 1) ∧
      (∀ i < params.length, 1 ≤ i + 1) ∧
      (params.map AddTorrentParams.savePath).dedup.length ≤ 5 ∧
      IsNewestFirst upserted upserted.newestFirst ∧ IsNewestFirst kept kept.newestFirst ∧
      ∀ entry ∈ params, entry.savePath ∈ savePathHistory kept.newestFirst :=
  ⟨by decide, by decide, by decide, isNewestFirst_newestFirst _, isNewestFirst_newestFirst _,
    savePath_mem_savePathHistory _ _ _ 1 (by decide) (by decide) (by decide)
      (isNewestFirst_newestFirst _) (isNewestFirst_newestFirst _)⟩

end PathHistory

end PicoTorrent
