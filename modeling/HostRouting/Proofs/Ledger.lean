import HostRouting.Proofs.Recovery

/-!
# The event log as a ledger

While nothing else touches its storage, the event log is a ledger. Every entry gets the next row, but
for those of the minor levels, whatever is made sure of or looked up in between; no row is lost or
numbered anew, and the newest rows are those of the latest entries.
-/

namespace HostRouting

namespace Log

/-! ## Minor levels -/

/-- The levels that weigh less than information. -/
def minorLevels : List String := ["DEBUG", "NOTSET"]

/-- The minor levels are the known ones below information. -/
theorem mem_minorLevels {name : String} :
    name ∈ minorLevels ↔ ∃ w, weight? name = some w ∧ w < infoWeight := by
  constructor
  · intro h
    rcases List.mem_cons.1 h with rfl | h
    · exact ⟨10, by decide⟩
    · rw [List.mem_singleton.1 h]
      exact ⟨0, by decide⟩
  · rintro ⟨w, hw, hlt⟩
    obtain ⟨before, after, hweights, -⟩ := List.lookup_eq_some_iff.1 hw
    have hall : ∀ l ∈ levelWeights, l.2 < infoWeight → l.1 ∈ minorLevels := by decide
    exact hall (name, w) (by simp [hweights]) hlt

/-- An entry is kept unless its level is a minor one. -/
theorem Entry.isKept_iff {e : Entry} : e.isKept = true ↔ e.levelName ∉ minorLevels := by
  rw [mem_minorLevels, Entry.isKept, decide_eq_true_iff, Entry.weight]
  cases weight? e.levelName <;> simp

end Log

namespace EventLog

open Act (Spec)
open Storage (indexOf)

/-! ## Rows -/

/-- An entry, with the time at which it is recorded. -/
structure Note where
  time : String
  entry : Log.Entry

/-- The row of a note with an id. -/
def Note.row (n : Note) (id : Nat) : Row where
  id := id
  time := n.time
  level := Text.upper n.entry.level
  containerName := n.entry.containerName
  containerId := n.entry.containerId.text?
  message := n.entry.message

/-- The rows of notes, one after the other, where `last` is the last id that was given before. -/
def rowsOf (last : Nat) (notes : List Note) : List Row :=
  notes.mapIdx fun i n => n.row (last + 1 + i)

theorem rowsOf_append (last : Nat) (ns ms : List Note) :
    rowsOf last (ns ++ ms) = rowsOf last ns ++ rowsOf (last + ns.length) ms := by
  rw [rowsOf, List.mapIdx_append]
  congr 2
  funext i n
  congr 1
  omega

/-- The ids of the rows go up one by one. -/
theorem map_id_rowsOf (last : Nat) (notes : List Note) :
    (rowsOf last notes).map Row.id = List.range' (last + 1) notes.length := by
  refine List.ext_getElem (by simp [rowsOf]) fun i _ _ => ?_
  simp [rowsOf, Note.row]

/-- The table after more notes. -/
def Database.enter (db : Database) (notes : List Note) : Database where
  rows := db.rows ++ rowsOf db.lastId notes
  lastId := db.lastId + notes.length

@[simp] theorem Database.enter_nil (db : Database) : db.enter [] = db := by
  simp [enter, rowsOf]

/-- Notes may be entered in two parts. -/
theorem Database.enter_append (db : Database) (ns ms : List Note) :
    db.enter (ns ++ ms) = (db.enter ns).enter ms := by
  simp [enter, rowsOf_append, Nat.add_assoc]

/-! ## Uses -/

namespace Use

/-- What a use notes: an entry, unless its level is a minor one. -/
def note? : Use → Option Note
  | record now e => if Text.upper e.level ∈ Log.minorLevels then none else some ⟨now, e⟩
  | init | latest _ => none

/-- The id of a container in an entry is a text, if it has one. -/
def IsTextual : Use → Prop
  | record _ e => e.containerId = .null ∨ ∃ s, e.containerId = .str s
  | init | latest _ => True

/-- The use succeeds: an entry is shown and no fault is, the table is made sure of, and rows are given
for every limit that the storage takes. -/
def Succeeds (log : EventLog) : Use → Prop
  | record now e =>
    (log.record now e).outcome = .ok () ∧ (log.record now e).lines = e.line?.toList
  | init => (EventLog.init.outcome log).1 = .ok ()
  | latest limit => fitsWord limit = true → ∃ rows, ((EventLog.latest limit).outcome log).1 = .ok rows

/-- The log after uses, one after the other. -/
def afterAll (log : EventLog) (uses : List Use) : EventLog := uses.foldl after log

end Use

/-! ## A log in working order -/

variable {log : EventLog} {db : Database} {now : String} {e : Log.Entry}

/-- A textual id can be stored as it is. -/
theorem storedId_of_isTextual (h : (Use.record now e).IsTextual) :
    storedId e.containerId = .ok e.containerId.text? := by
  rcases h with h | ⟨s, h⟩
  · rw [h]
    rfl
  · rw [h]
    rfl

/-- The table with the next row is the one after one more note. -/
theorem Holds.nextTable_eq (h : log.Holds db) (now : String) (e : Log.Entry) :
    log.nextTable now e e.containerId.text? = db.enter [⟨now, e⟩] := by
  rw [← h.contents]
  rfl

/-- Recording succeeds, and the entry is in the table afterwards unless its level is a minor one. -/
theorem Holds.record (h : log.Holds db) (hid : (Use.record now e).IsTextual) :
    (Use.record now e).Succeeds log ∧
      ((Use.record now e).after log).Holds (db.enter (Use.record now e).note?.toList) := by
  by_cases hkept : e.isKept = true
  · have hnote : (Use.record now e).note? = some ⟨now, e⟩ := if_neg (Log.Entry.isKept_iff.1 hkept)
    have appended := append_spec h.sound h.index now e
    match ho : (append now e).outcome log with
    | (.ok (), l) =>
      obtain ⟨hw, containerId, hstored, hreached⟩ := appended.of_ok rfl ho
      obtain rfl := Except.ok.inj (hstored.symm.trans (storedId_of_isTextual hid))
      have hrecord := record_of_appended hkept ho
      refine ⟨⟨by rw [hrecord], by rw [hrecord]⟩, ?_⟩
      rw [Use.after, hrecord, hnote, Option.toList_some, ← h.nextTable_eq]
      exact hreached.holds h.sound hw
    | (.error f, l) =>
      have hbad := (appended.of_error rfl ho).2
      exact absurd ⟨h.writable, _, storedId_of_isTextual hid⟩ hbad
  · have hnote : (Use.record now e).note? = none := by
      rw [Log.Entry.isKept_iff, not_not] at hkept
      exact if_pos hkept
    have hrecord := record_of_not_kept (Bool.eq_false_iff.2 hkept) now log
    refine ⟨⟨by rw [hrecord], by rw [hrecord]⟩, ?_⟩
    rw [Use.after, hrecord, hnote, Option.toList_none, Database.enter_nil]
    exact h

/-- Making sure of the table succeeds and leaves it as it is. -/
theorem Holds.init (h : log.Holds db) :
    Use.init.Succeeds log ∧ (Use.init.after log).Holds db := by
  have made := init_reached h.sound h.index
  rw [h.contents] at made
  match ho : EventLog.init.outcome log with
  | (.ok (), l) =>
    have hreached := made.of_ok rfl ho
    rw [Use.Succeeds, Use.after, ho]
    exact ⟨rfl, hreached.holds h.sound h.writable⟩
  | (.error f, l) => exact absurd h.writable.ready (made.of_error rfl ho).2

/-- So does looking at the newest rows; a limit that the storage does not take does no harm. -/
theorem Holds.latest (h : log.Holds db) (limit : Int) :
    (Use.latest limit).Succeeds log ∧ ((Use.latest limit).after log).Holds db := by
  have looked := latest_spec h.sound h.index limit
  rw [h.contents] at looked
  match ho : (EventLog.latest limit).outcome log with
  | (.ok rows, l) =>
    have hreached := (looked.of_ok rfl ho).1
    rw [Use.Succeeds, Use.after, ho]
    exact ⟨fun _ => ⟨rows, rfl⟩, hreached.holds h.sound h.writable⟩
  | (.error f, l) =>
    obtain ⟨hfits, hreached⟩ := (looked.of_error rfl ho).2 ⟨h.writable.ready, h.writable.table⟩
    rw [Use.Succeeds, Use.after, ho, hfits]
    exact ⟨fun hword => (Bool.false_ne_true hword).elim, hreached.holds h.sound h.writable⟩

/-- A log in working order stays so in every use, and its table grows by what is noted. -/
theorem Holds.use (h : log.Holds db) {x : Use} (hx : x.IsTextual) :
    x.Succeeds log ∧ (x.after log).Holds (db.enter x.note?.toList) := by
  cases x with
  | record now e => exact h.record hx
  | init =>
    rw [Use.note?, Option.toList_none, Database.enter_nil]
    exact h.init
  | latest limit =>
    rw [Use.note?, Option.toList_none, Database.enter_nil]
    exact h.latest limit

/-- The same holds of uses one after the other. -/
theorem Holds.uses (h : log.Holds db) {uses : List Use} (hu : ∀ x ∈ uses, x.IsTextual) :
    (Use.afterAll log uses).Holds (db.enter (uses.filterMap Use.note?)) := by
  induction uses generalizing log db with
  | nil => exact db.enter_nil.symm ▸ h
  | cons x uses ih =>
    have hrest := ih (h.use (hu x (by simp))).2 fun y hy => hu y (by simp [hy])
    rw [← Database.enter_append] at hrest
    have hnotes : (x :: uses).filterMap Use.note? = x.note?.toList ++ uses.filterMap Use.note? := by
      cases hx : x.note? with
      | none => rw [List.filterMap_cons_none hx, Option.toList_none, List.nil_append]
      | some n => rw [List.filterMap_cons_some hx, Option.toList_some, List.singleton_append]
    rw [hnotes]
    exact hrest

/-- **The event log is a faithful history.** Started in working order, every use of it succeeds. The
newest rows afterwards, up to a limit that fits into a signed word of 64 bits, are those of the entries
that were recorded, the latest first, but for the entries of minor levels; each row has the level in
upper case and the rest of the entry as it was, and the ids go up one by one. After them come the rows
that were there before. -/
theorem latest_eq_newest_notes (sound : log.Sound)
    (hindex : log.storage.isDirectory (indexOf log.file) = false) (hw : log.Writable)
    {uses : List Use} (hu : ∀ x ∈ uses, x.IsTextual) {limit : Int} (hlimit : 0 ≤ limit)
    (hword : limit < 9223372036854775808) :
    (∀ before x after, uses = before ++ x :: after → x.Succeeds (Use.afterAll log before)) ∧
      ((latest limit).outcome (Use.afterAll log uses)).1 =
        .ok (((rowsOf log.contents.lastId (uses.filterMap Use.note?)).reverse ++
          log.contents.rows.reverse).take limit.toNat) ∧
      (rowsOf log.contents.lastId (uses.filterMap Use.note?)).map Row.id =
        List.range' (log.contents.lastId + 1) (uses.filterMap Use.note?).length := by
  have start : log.Holds log.contents := ⟨sound, hindex, hw, rfl⟩
  refine ⟨?_, ?_, map_id_rowsOf _ _⟩
  · rintro before x after rfl
    have hbefore : (Use.afterAll log before).Holds _ := start.uses fun y hy => hu y (by simp [hy])
    exact (hbefore.use (hu x (by simp))).1
  · have hfits : fitsWord limit = true := by
      simp only [fitsWord, Bool.and_eq_true, decide_eq_true_eq]
      omega
    rw [(start.uses hu).latest_eq hlimit hfits, Database.enter, List.reverse_append]

/-! ### A busy ledger -/

/-- Entries of all kinds of levels, with other uses between them. -/
def bustle : List Use :=
  [.record "t1" (.plain "warn" "a"), .latest 5, .record "t2" (.about "Debug" "b" "web" (.str "f00")),
    .init, .record "t3" (.about "fatal" "c" "web" (.str "f00")), .latest (-2),
    .latest 9223372036854775808, .record "t4" (.plain "notset" "d"),
    .record "t5" (.aboutId "loud" "e" (.str "f00"))]

/-- The last two of its three rows. -/
theorem latest_eq_newest_notes_bustle :
    (∀ x ∈ bustle, x.IsTextual) ∧ Writable {} ∧
      (∀ before x after, bustle = before ++ x :: after → x.Succeeds (Use.afterAll {} before)) ∧
      ((latest 2).outcome (Use.afterAll {} bustle)).1 =
        .ok [⟨3, "t5", "LOUD", none, some "f00", "e"⟩,
          ⟨2, "t3", "FATAL", some "web", some "f00", "c"⟩] := by
  have hready : Ready {} :=
    ready_of_absent ⟨by decide, by decide +kernel, by decide +kernel⟩ (by decide +kernel)
      (by decide +kernel) (by decide +kernel) (by decide +kernel) (by decide +kernel)
  have hw : Writable {} := ⟨hready, .inr (by simp), by decide +kernel⟩
  have hu : ∀ x ∈ bustle, x.IsTextual := by
    simp [bustle, Use.IsTextual, Log.Entry.plain, Log.Entry.about, Log.Entry.aboutId]
  obtain ⟨hsucceed, hnewest, -⟩ := latest_eq_newest_notes (sound_of_empty "drd.db") rfl hw hu
    (by decide : (0 : Int) ≤ 2) (by decide)
  refine ⟨hu, hw, hsucceed, hnewest.trans ?_⟩
  decide +kernel

end EventLog

end HostRouting
