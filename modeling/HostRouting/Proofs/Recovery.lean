import HostRouting.Proofs.Rooted

/-!
# The event log after a loss

The file of the event log may be removed between two calls, with the directory around it, and other
things may be put into its place. The next entry is kept as long as the log has not made its table at
the same path before: what was made once is taken to be there, and a file that was lost is opened
again without a table.
-/

namespace HostRouting.EventLog

open Act (Spec Leaves)
open Storage (Fitting Room Paved indexOf journalOf)

/-! ## The table in a file -/

namespace Storage

variable {s : Storage} {p : Path}

/-- The table of events in the file at a path, if there is one. -/
def table? (s : Storage) (p : Path) : Option Database :=
  match s.node? p with
  | some (.file (.database db)) => some db
  | _ => none

theorem table?_eq_some {db : Database} :
    s.table? p = some db ↔ s.node? p = some (.file (.database db)) := by
  unfold table?
  split
  · rename_i hnode
    simp [hnode]
  · rename_i hnone
    exact ⟨nofun, fun h => absurd h (hnone db)⟩

/-- The same table is in the file where the same node is. -/
theorem table?_congr {t : Storage} (h : t.node? p = s.node? p) : t.table? p = s.table? p := by
  rw [table?, h, table?]

/-- A file that is opened holds the table that it held. -/
theorem openFile_table? (hp : p ≠ []) :
    Spec (· = s) (openFile p) (fun _ t => t.table? p = s.table? p) (fun _ _ => True) := by
  unfold openFile
  by_cases hnull : p.hasNull = true
  · rw [if_pos hnull]
    exact Spec.fail_bind fun _ _ => trivial
  · rw [if_neg hnull]
    split
    · exact Spec.fail_bind fun _ _ => trivial
    · refine Spec.read_bind ?_
      split
      · exact Spec.pure fun t ht => by rw [ht]
      · exact Spec.pure fun t ht => by rw [ht]
      · exact Spec.fail fun _ _ => trivial
      · rename_i hnode
        refine Spec.read_bind ?_
        split
        · -- a new file has no table
          refine Spec.update fun t ht => ?_
          rw [ht, table?, node?_put_self hp, table?, hnode]
        · exact Spec.fail fun _ _ => trivial

/-- The table that is read is the one in the file, which stays there. -/
theorem table_table? (hp : p ≠ []) :
    Spec (· = s) (table p) (fun db t => s.table? p = some db ∧ t.table? p = some db)
      (fun _ _ => True) := by
  refine Spec.bind ((settle_spec hp).post (fun _ _ ht => ht) fun _ _ _ => trivial) fun _ => ?_
  refine Spec.each fun t ht => Spec.read_bind ?_
  split
  · rename_i hnode
    refine Spec.pure fun u hu => ?_
    rw [hu, table?_congr ht.same.symm]
    exact ⟨table?_eq_some.2 hnode, table?_eq_some.2 hnode⟩
  all_goals exact Spec.fail fun _ _ => trivial

/-- A table is read just when there is one and the file serves; it stays in the file. -/
theorem table_exact (hp : p ≠ []) (hthere : s.node? p ≠ none) :
    Spec (· = s) (table p)
      (fun db t => (s.table? p = some db ∧ s.Serves p) ∧ t.Kept p ∧ t.table? p = some db)
      (fun _ _ => s.table? p = none ∨ ¬ s.Serves p) := by
  have read := table_table? hp (s := s)
  cases hnone : s.table? p with
  | none =>
    refine read.post ?_ fun _ _ _ => .inl rfl
    rintro db t ⟨hdb, -⟩
    rw [hnone] at hdb
    cases hdb
  | some db =>
    have hblank : s.node? p ≠ some (.file .blank) := by
      rw [table?_eq_some.1 hnone]
      simp
    refine (read.and (table_spec hp hthere hblank)).mono (fun t ht => ⟨ht, ht⟩) ?_ ?_
    · rintro db' t ⟨⟨hdb, hstays⟩, hserves, hkept⟩
      exact ⟨⟨hnone ▸ hdb, hserves⟩, hkept, hstays⟩
    · exact fun _ _ ht => .inr ht.2

/-- A table is made if there is none, and an old one stays. -/
theorem makeTable_table? (hp : p ≠ []) :
    Spec (· = s) (makeTable p) (fun _ t => t.table? p = some ((s.table? p).getD {}))
      (fun _ _ => True) := by
  refine Spec.bind ((settle_spec hp).post (fun _ _ ht => ht) fun _ _ _ => trivial) fun _ => ?_
  refine Spec.each fun t ht => Spec.read_bind ?_
  have hsame : s.table? p = t.table? p := table?_congr ht.same.symm
  split
  · rename_i hnode
    refine (store_spec {}).post ?_ fun _ _ _ => trivial
    rintro _ u ⟨-, rfl⟩
    rw [hsame, table?, node?_put_self hp, table?, hnode]
    rfl
  · refine Spec.bind (table_table? hp) fun db => Spec.pure fun u hu => ?_
    rw [hsame, hu.1, hu.2]
    rfl

/-- A table is stored in a database that is kept just when a file fits beside it. -/
theorem store_kept (hp : p ≠ []) (hkept : s.Kept p) (hminded : s.Minded p) (db : Database) :
    Spec (· = s) (store p db)
      (fun _ t => (journalOf p).fits = true ∧ t.table? p = some db ∧ t.Kept p ∧ t.Minded p)
      (fun _ t => ¬ (journalOf p).fits = true ∧ t.Minded p) := by
  obtain ⟨old, hold⟩ := hkept.table
  have hfile : s.isDirectory p = false := by
    rw [isDirectory, hold]
    rfl
  have stored := (store_spec db (s := s) (p := p)).and (store_minded hp db)
  refine stored.mono (fun t ht => ⟨ht, ht ▸ ⟨hminded, hfile⟩⟩) ?_ ?_
  · rintro _ _ ⟨⟨⟨hfits, hjournal⟩, rfl⟩, hput⟩
    have hnode := node?_put_self (s := s) (n := .file (.database db)) hp
    refine ⟨hfits, table?_eq_some.2 hnode, ⟨⟨db, hnode⟩, ?_, ?_⟩, hput⟩
    · rw [isDirectory_put_of_ne (journalOf_ne hp), hjournal]
    · rw [isDirectory_put_of_ne (aheadOf_ne hp), hkept.ahead]
  · exact fun _ _ ht => ⟨fun hfits => ht.1 ⟨hfits, hkept.journal⟩, ht.2⟩

end Storage

variable {log l : EventLog} {now : String} {e : Log.Entry}

/-! ## What a call leaves of the log -/

/-- The log is kept where it was kept, remembers what it remembered, and its storage is a tree. -/
structure Framed (log l : EventLog) : Prop where
  home : l.home = log.home
  place : l.place = log.place
  prepared : l.prepared = log.prepared
  tree : l.storage.Tree

/-- The file of the log was opened. -/
structure Connected (log l : EventLog) : Prop where
  home : l.home = log.home
  place : l.place = log.place
  minded : l.storage.Minded log.file
  opened : Opened log l
  /-- A table is there for certain only if the path is a new one for the log. -/
  table : l.storage.table? log.file = if log.file ∈ log.prepared then log.storage.table? log.file
    else some ((log.storage.table? log.file).getD {})
  prepared : l.prepared = if log.file ∈ log.prepared then log.prepared else log.file :: log.prepared
  ready : log.file ∉ log.prepared → log.Ready

/-- An act on the storage leaves the rest of the log. -/
theorem onStorage_only {α : Type} {act : Act Storage α} {Q : α → Storage → Prop}
    {E : Fault → Storage → Prop} (h : Spec (· = l.storage) act Q E) :
    Spec (· = l) (onStorage act) (fun a m => ∃ t, Q a t ∧ m = { l with storage := t })
      (fun f m => ∃ t, E f t ∧ m = { l with storage := t }) :=
  h.within (fun _ hm => by rw [hm]) (fun _ _ t hm ht => ⟨t, ht, by rw [hm]⟩)
    fun _ _ t hm ht => ⟨t, ht, by rw [hm]⟩

theorem resolve_framed : Leaves (Framed log) resolve := by
  rw [resolve_eq]
  refine Leaves.bind (Spec.read fun _ hl => hl) fun l => ?_
  split
  · exact Leaves.pure _
  · refine Leaves.bind (Spec.each fun u hu => ?_) fun _ => Leaves.pure _
    have made := (Storage.makeDirectories_tree l.file.dropLast).pre
      (P := (· = u.storage)) fun t ht => ht ▸ hu.tree
    refine (onStorage_only made).post ?_ ?_
    · rintro _ _ ⟨t, ht, rfl⟩
      exact ⟨hu.home, hu.place, hu.prepared, ht⟩
    · rintro _ _ ⟨t, ht, rfl⟩
      exact ⟨hu.home, hu.place, hu.prepared, ht⟩

/-- The file of the log was opened, with the table that it held, if any. -/
structure Entered (log l : EventLog) : Prop where
  framed : Framed log l
  minded : l.storage.Minded log.file
  opened : Opened log l
  table : l.storage.table? log.file = log.storage.table? log.file

/-- The way to the file is paved, and the log is otherwise as it was. -/
theorem resolve_spec_framed (sound : log.Sound) :
    Spec (· = log) resolve
      (fun p l => p = log.file ∧ Paved log.storage l.storage log.file.dropLast ∧ Framed log l)
      (fun _ l => ¬ log.Ready ∧ Framed log l) := by
  have framed : Framed log log := ⟨rfl, rfl, rfl, sound.tree⟩
  refine ((resolve_paved sound).and (@resolve_framed log)).mono (fun l hl => ⟨hl, hl ▸ framed⟩)
    ?_ ?_
  · exact fun _ _ hl => ⟨hl.1.1, hl.1.2, hl.2⟩
  · exact fun _ _ hl => hl

/-- Where the way is paved, the file is opened as it lies there. -/
theorem openFile_entered (hindex : log.storage.isDirectory (indexOf log.file) = false)
    (hpaved : Paved log.storage l.storage log.file.dropLast) (hframed : Framed log l) :
    Spec (· = l) (onStorage (Storage.openFile log.file)) (fun _ => Entered log)
      (fun _ u => ¬ log.Ready ∧ Framed log u) := by
  have hne := file_ne_nil log
  have hlength : log.file.dropLast.length < log.file.length := by
    have := List.length_pos_iff.2 hne
    rw [List.length_dropLast]
    omega
  -- what lies there, and what lies beside it, was not touched
  have hsame : l.storage.node? log.file = log.storage.node? log.file := hpaved.beyond _ hlength
  have hbeside : l.storage.isDirectory (indexOf log.file) = false := by
    have hlength' : log.file.dropLast.length < (indexOf log.file).length := by
      rw [indexOf, Path.length_extended hne]
      exact hlength
    rw [Storage.isDirectory, hpaved.beyond _ hlength', ← Storage.isDirectory, hindex]
  have hfile : Spec (· = l.storage) (Storage.openFile log.file)
      (fun _ t => t.Minded log.file ∧ t.table? log.file = l.storage.table? log.file)
      (fun _ t => t.Tree) :=
    ((Storage.openFile_minded hne).and (Storage.openFile_table? hne)).mono
      (fun t ht => ⟨ht ▸ ⟨hpaved.tree, hbeside⟩, ht⟩) (fun _ _ ht => ht) fun _ _ ht => ht.1
  refine ((onStorage_only hfile).and (@openFile_opened log)).mono (fun u hu => ⟨hu, hu ▸ hpaved⟩)
    ?_ ?_
  · rintro _ _ ⟨⟨t, ⟨hminded, htable⟩, rfl⟩, hopened⟩
    have htree := hminded.tree
    refine ⟨⟨hframed.home, hframed.place, hframed.prepared, htree⟩, hminded, hopened, ?_⟩
    exact htable.trans (Storage.table?_congr hsame)
  · rintro _ _ ⟨⟨t, htree, rfl⟩, hready⟩
    exact ⟨hready, hframed.home, hframed.place, hframed.prepared, htree⟩

/-- In a file that was opened, a table is made unless there is one. -/
theorem Entered.makeTable_spec (h : Entered log l) :
    Spec (· = l) (onStorage (Storage.makeTable log.file))
      (fun _ u => log.Ready ∧ Framed log u ∧ u.storage.Minded log.file ∧ Opened log u ∧
        u.storage.table? log.file = some ((log.storage.table? log.file).getD {}))
      (fun _ u => ¬ log.Ready ∧ Framed log u) := by
  have hne := file_ne_nil log
  have hmake : Spec (· = l.storage) (Storage.makeTable log.file)
      (fun _ t => t.Minded log.file ∧ t.table? log.file = some ((l.storage.table? log.file).getD {}))
      (fun _ t => t.Minded log.file) :=
    ((Storage.makeTable_minded hne).and (Storage.makeTable_table? hne)).mono
      (fun t ht => ⟨ht ▸ h.minded, ht⟩) (fun _ _ ht => ht) fun _ _ ht => ht.1
  have framed (t : Storage) (ht : t.Minded log.file) : Framed log { l with storage := t } :=
    ⟨h.framed.home, h.framed.place, h.framed.prepared, ht.tree⟩
  refine ((onStorage_only hmake).and (@Opened.makeTable_spec log)).mono
    (fun u hu => ⟨hu, hu ▸ h.opened⟩) ?_ ?_
  · rintro _ _ ⟨⟨t, ⟨hminded, htable⟩, rfl⟩, hready, hopened⟩
    rw [h.table] at htable
    exact ⟨hready, framed t hminded, hminded, hopened, htable⟩
  · rintro _ _ ⟨⟨t, hminded, rfl⟩, hready⟩
    exact ⟨hready, framed t hminded⟩

/-- The file is opened, and what the log knows of its table depends on whether it made one there
before. -/
theorem connect_connected (sound : log.Sound)
    (hindex : log.storage.isDirectory (indexOf log.file) = false) :
    Spec (· = log) connect (fun p l => p = log.file ∧ Connected log l)
      (fun _ l => ¬ log.Ready ∧ Framed log l) := by
  refine Spec.bind (resolve_spec_framed sound) fun p => Spec.of_fact fun hp => ?_
  subst hp
  have entered : Spec (fun l => Paved log.storage l.storage log.file.dropLast ∧ Framed log l)
      (onStorage (Storage.openFile log.file)) (fun _ => Entered log)
      (fun _ l => ¬ log.Ready ∧ Framed log l) :=
    Spec.each fun l hl => openFile_entered hindex hl.1 hl.2
  refine Spec.bind entered fun _ => Spec.each fun l h => Spec.read_bind ?_
  rw [h.framed.prepared]
  by_cases hknown : log.file ∈ log.prepared
  · -- the table is not looked for
    rw [if_pos (by simpa using hknown)]
    refine Spec.pure fun u hu => ⟨rfl, ?_⟩
    subst hu
    refine ⟨h.framed.home, h.framed.place, h.minded, h.opened, ?_, ?_, fun hnew => absurd hknown hnew⟩
    · rw [if_pos hknown, h.table]
    · rw [if_pos hknown, h.framed.prepared]
  · rw [if_neg (by simpa using hknown)]
    refine Spec.bind h.makeTable_spec fun _ => ?_
    refine Spec.bind (R := fun _ => Connected log) (Spec.update ?_) fun _ => ?_
    · rintro u ⟨hready, hframed, hminded, hopened, htable⟩
      refine ⟨hframed.home, hframed.place, hminded, ?_, ?_, ?_, fun _ => hready⟩
      · exact ⟨hopened.fitting, hopened.room, hopened.there, hopened.serves⟩
      · rw [if_neg hknown]
        exact htable
      · rw [if_neg hknown, hframed.prepared]
    · exact Spec.pure fun u hu => ⟨rfl, hu⟩

/-- What a call that opens the file leaves: the log remembers the path if it could be made ready. -/
structure Remembers (log l : EventLog) : Prop where
  home : l.home = log.home
  place : l.place = log.place
  tree : l.storage.Tree
  prepared : ∀ p, p ∈ l.prepared ↔ p ∈ log.prepared ∨ p = log.file ∧ log.Ready

/-- A call that did not get to the file remembers nothing. -/
theorem Framed.remembers (h : Framed log l) (hready : ¬ log.Ready) : Remembers log l where
  home := h.home
  place := h.place
  tree := h.tree
  prepared p := by
    rw [h.prepared]
    exact ⟨.inl, fun hp => hp.resolve_right fun hp => hready hp.2⟩

/-- A call that opened the file remembers it, whatever it does to the file. -/
theorem Connected.remembers (h : Connected log l) {t : Storage} (ht : t.Minded log.file) :
    Remembers log { l with storage := t } where
  home := h.home
  place := h.place
  tree := ht.tree
  prepared p := by
    show p ∈ l.prepared ↔ _
    rw [h.prepared]
    by_cases hknown : log.file ∈ log.prepared
    · rw [if_pos hknown]
      refine ⟨.inl, fun hp => hp.elim id ?_⟩
      rintro ⟨rfl, -⟩
      exact hknown
    · rw [if_neg hknown, List.mem_cons, or_comm]
      exact or_congr_right ⟨fun hp => ⟨hp, h.ready hknown⟩, And.left⟩

/-- The call got to the table, which is `db` in the file afterwards. -/
structure Reached (log l : EventLog) (db : Database) : Prop where
  remembers : Remembers log l
  kept : l.storage.Kept log.file
  minded : l.storage.Minded log.file
  table : l.storage.table? log.file = some db

/-! ## The calls -/

/-- What is done after the file was opened. -/
theorem connect_bind {α : Type} {next : Path → Act EventLog α} {Q : α → EventLog → Prop}
    {E : Fault → EventLog → Prop} (sound : log.Sound)
    (hindex : log.storage.isDirectory (indexOf log.file) = false)
    (hfail : ∀ f l, ¬ log.Ready → Remembers log l → E f l)
    (hnext : ∀ l, Connected log l → Spec (· = l) (next log.file) Q E) :
    Spec (· = log) (connect >>= next) Q E := by
  have connected := (connect_connected sound hindex).post (fun _ _ hl => hl) fun f l hl =>
    hfail f l hl.1 (hl.2.remembers hl.1)
  refine Spec.bind connected fun p => Spec.of_fact fun hp => Spec.each fun l hl => ?_
  subst hp
  exact hnext l hl

/-- The table that whoever opens the file of the log finds there; without one it is empty. -/
def contents (log : EventLog) : Database := (log.storage.table? log.file).getD {}

/-- The log holds a table for whoever opens its file: there is one in the file, or the path is a new
one for the log. -/
def HasTable (log : EventLog) : Prop :=
  log.storage.table? log.file ≠ none ∨ log.file ∉ log.prepared

/-- After the file was opened, the table in it is the one that was there, or a new one. -/
theorem Connected.table_eq (h : Connected log l) (htable : log.HasTable) :
    l.storage.table? log.file = some log.contents := by
  rw [h.table]
  split
  · rename_i hknown
    have hsome := htable.resolve_right fun hnew => hnew hknown
    obtain ⟨db, hdb⟩ := Option.ne_none_iff_exists'.1 hsome
    rw [contents, hdb]
    rfl
  · rfl

/-- The table is read just when the log holds one and can be made ready. -/
theorem Connected.table_spec (h : Connected log l) :
    Spec (· = l) (onStorage (Storage.table log.file))
      (fun db m => (log.Ready ∧ log.HasTable) ∧ db = log.contents ∧
        ∃ t, (t.Kept log.file ∧ t.Minded log.file ∧ t.table? log.file = some db) ∧
          m = { l with storage := t })
      (fun _ m => ¬ (log.Ready ∧ log.HasTable) ∧ Remembers log m) := by
  have hne := file_ne_nil log
  have read := (Storage.table_exact hne h.opened.there).and (Storage.table_minded hne)
  refine (onStorage_only (read.pre fun t ht => ⟨ht, ht ▸ h.minded⟩)).post ?_ ?_
  · rintro db _ ⟨t, ⟨⟨⟨hdb, hserves⟩, hkept, hstays⟩, hminded⟩, rfl⟩
    have htable : log.HasTable := by
      by_cases hknown : log.file ∈ log.prepared
      · refine .inl ?_
        rw [h.table, if_pos hknown] at hdb
        simp [hdb]
      · exact .inr hknown
    have hready : log.Ready := ⟨h.opened.fitting, h.opened.room, h.opened.serves.1 hserves⟩
    refine ⟨⟨hready, htable⟩, ?_, t, ⟨hkept, hminded, hstays⟩, rfl⟩
    exact Option.some.inj (hdb.symm.trans (h.table_eq htable))
  · rintro _ _ ⟨t, ⟨hfail, hminded⟩, rfl⟩
    refine ⟨fun ⟨hready, htable⟩ => ?_, h.remembers hminded⟩
    rcases hfail with hnone | hserves
    · rw [h.table_eq htable] at hnone
      cases hnone
    · exact hserves (h.opened.serves.2 hready.serves)

/-- The table is made sure of just when the log can be made ready. -/
theorem init_reached (sound : log.Sound)
    (hindex : log.storage.isDirectory (indexOf log.file) = false) :
    Spec (· = log) init (fun _ l => Reached log l log.contents)
      (fun _ l => Remembers log l ∧ ¬ log.Ready) := by
  refine connect_bind sound hindex (fun _ _ hnot hl => ⟨hl, hnot⟩) fun l h => ?_
  have hne := file_ne_nil log
  have made := ((Storage.makeTable_spec hne h.opened.there).and
    (Storage.makeTable_table? hne (s := l.storage))).and (Storage.makeTable_minded hne)
  refine (onStorage_only (made.pre fun t ht => ⟨⟨ht, ht⟩, ht ▸ h.minded⟩)).post ?_ ?_
  · rintro _ _ ⟨t, ⟨⟨⟨-, hkept⟩, htable⟩, hminded⟩, rfl⟩
    refine ⟨h.remembers hminded, hkept, hminded, htable.trans ?_⟩
    rw [h.table]
    split <;> rfl
  · rintro _ _ ⟨t, ⟨⟨hserves, -⟩, hminded⟩, rfl⟩
    exact ⟨h.remembers hminded, fun hready => hserves (h.opened.serves.2 hready.serves)⟩

/-- Rows are given just when the log can be made ready and holds a table, and if the limit is one for
the storage. The table stays as it is, also if the limit is none. -/
theorem latest_spec (sound : log.Sound)
    (hindex : log.storage.isDirectory (indexOf log.file) = false) (limit : Int) :
    Spec (· = log) (latest limit)
      (fun rows l => Reached log l log.contents ∧
        let newest := log.contents.rows.reverse
        rows = if limit < 0 then newest else newest.take limit.toNat)
      (fun _ l => Remembers log l ∧ (log.Ready ∧ log.HasTable → fitsWord limit = false ∧
        Reached log l log.contents)) := by
  refine connect_bind sound hindex
    (fun _ _ hnot hl => ⟨hl, fun hgood => absurd hgood.1 hnot⟩) fun l h => ?_
  refine Spec.bind (h.table_spec.post (fun _ _ hm => hm)
    fun _ _ hm => ⟨hm.2, fun hgood => absurd hgood hm.1⟩) fun db => Spec.each fun m hm => ?_
  obtain ⟨-, rfl, t, ⟨hkept, hminded, htable⟩, rfl⟩ := hm
  have hreached : Reached log { l with storage := t } log.contents :=
    ⟨h.remembers hminded, hkept, hminded, htable⟩
  cases hfits : fitsWord limit with
  | true =>
    rw [if_pos rfl]
    refine Spec.pure fun u hu => ?_
    rw [hu]
    exact ⟨hreached, rfl⟩
  | false =>
    rw [if_neg (by decide)]
    refine Spec.fail_bind fun u hu => ?_
    rw [hu]
    exact ⟨hreached.remembers, fun _ => ⟨rfl, hreached⟩⟩

/-- An entry will be kept: the log can be made ready and holds a table, and a file fits beside it. -/
structure Writable (log : EventLog) : Prop where
  ready : log.Ready
  table : log.HasTable
  fits : (journalOf log.file).fits = true

/-- The row of an entry after those that are there. -/
def nextRow (log : EventLog) (now : String) (e : Log.Entry) (containerId : Option String) : Row where
  id := ((log.storage.table? log.file).getD {}).lastId + 1
  time := now
  level := e.levelName
  containerName := e.containerName
  containerId := containerId
  message := e.message

/-- The table with the row of an entry. -/
def nextTable (log : EventLog) (now : String) (e : Log.Entry) (containerId : Option String) :
    Database where
  rows := ((log.storage.table? log.file).getD {}).rows ++ [log.nextRow now e containerId]
  lastId := ((log.storage.table? log.file).getD {}).lastId + 1

/-- The row of an entry is added just when the log is writable and the row can be stored. -/
theorem append_spec (sound : log.Sound)
    (hindex : log.storage.isDirectory (indexOf log.file) = false) (now : String) (e : Log.Entry) :
    Spec (· = log) (append now e)
      (fun _ l => log.Writable ∧ ∃ containerId, storedId e.containerId = .ok containerId ∧
        Reached log l (log.nextTable now e containerId))
      (fun _ l => Remembers log l ∧
        ¬ (log.Writable ∧ ∃ containerId, storedId e.containerId = .ok containerId)) := by
  refine connect_bind sound hindex
    (fun _ _ hnot hl => ⟨hl, fun hw => hnot hw.1.ready⟩) fun l h => ?_
  refine Spec.bind (h.table_spec.post (fun _ _ hm => hm)
    fun _ _ hm => ⟨hm.2, fun hw => hm.1 ⟨hw.1.ready, hw.1.table⟩⟩) fun db => Spec.each fun m hm => ?_
  obtain ⟨⟨hready, htable⟩, rfl, t, ⟨hkept, hminded, -⟩, rfl⟩ := hm
  cases hid : storedId e.containerId with
  | error f =>
    refine Spec.ofExcept_fail rfl fun u hu => ⟨hu ▸ h.remembers hminded, ?_⟩
    rintro ⟨-, containerId, ⟨⟩⟩
  | ok containerId =>
    refine Spec.ofExcept_bind rfl ?_
    have stored := onStorage_only (l := { l with storage := t })
      (Storage.store_kept (file_ne_nil log) hkept hminded (log.nextTable now e containerId))
    refine stored.post ?_ ?_
    · rintro _ _ ⟨u, ⟨hfits, hput, hkept, hminded⟩, rfl⟩
      exact ⟨⟨hready, htable, hfits⟩, containerId, rfl, h.remembers hminded, hkept, hminded, hput⟩
    · rintro _ _ ⟨u, ⟨hfits, hminded⟩, rfl⟩
      exact ⟨h.remembers hminded, fun hw => hfits hw.1.fits⟩

/-! ## An entry and the look at it -/

/-- The storage of a sound log is a tree after a call. -/
theorem Remembers.sound (h : Remembers log l) (sound : log.Sound) : l.Sound :=
  ⟨h.tree, h.home ▸ sound.home⟩

/-- A database that is kept goes on being the file of the log. -/
theorem Remembers.file_eq (h : Remembers log l) (hkept : l.storage.Kept log.file) :
    l.file = log.file := by
  obtain ⟨⟨db, hdb⟩, -, -⟩ := hkept
  unfold file at hdb ⊢
  rw [h.home, h.place]
  dsimp only at hdb ⊢
  cases hdir : log.storage.isDirectory (Path.ofText log.home log.place) with
  | true =>
    rw [hdir, if_pos rfl] at hdb
    rw [if_pos (h.tree.directory (by rw [hdb]; simp)), if_pos rfl]
  | false =>
    rw [hdir, if_neg (by decide)] at hdb
    rw [if_neg (by simp [hdb]), if_neg (by decide)]

/-- The log is in working order, and `db` is the table that its entries go into. -/
structure Holds (log : EventLog) (db : Database) : Prop where
  sound : log.Sound
  index : log.storage.isDirectory (indexOf log.file) = false
  writable : log.Writable
  contents : log.contents = db

/-- A log in working order stays so when a call got to its table. -/
theorem Reached.holds {db : Database} (h : Reached log l db) (sound : log.Sound)
    (hw : log.Writable) : l.Holds db := by
  have hfile := h.remembers.file_eq h.kept
  have hnode : l.storage.node? log.file ≠ none := by
    obtain ⟨db, hdb⟩ := h.kept.table
    simp [hdb]
  rw [← List.dropLast_concat_getLast (file_ne_nil log)] at hnode
  have hroom : Room l.storage log.file.dropLast := .there (h.remembers.tree.directory hnode)
  have htable : l.storage.table? l.file = some db := by rw [hfile, h.table]
  refine ⟨h.remembers.sound sound, by rw [hfile, h.minded.index], ⟨?_, .inl (by simp [htable]), ?_⟩, ?_⟩
  · exact ⟨hfile ▸ hw.ready.fitting, hfile ▸ hroom, hfile ▸ h.kept.serves⟩
  · exact hfile ▸ hw.fits
  · rw [EventLog.contents, htable]
    rfl

/-- What becomes of an entry of weight whose row was added. -/
theorem record_of_appended (hkept : e.isKept = true)
    (ho : (append now e).outcome log = (.ok (), l)) :
    record now e log = ⟨e.line?.toList, .ok (), l⟩ := by
  rw [record, if_pos hkept, ho]

/-- An entry of weight leaves the log as adding its row does. -/
theorem record_log (hkept : e.isKept = true) :
    (record now e log).log = ((append now e).outcome log).2 := by
  rw [record, if_pos hkept]
  split
  · rename_i ho
    rw [ho]
  · rename_i ho
    rw [ho]

/-- Where the row could not be added, either one more line says so or the recording fails. -/
theorem record_of_error {f : Fault} (hkept : e.isKept = true)
    (ho : (append now e).outcome log = (.error f, l)) :
    (record now e log).lines = e.line?.toList ++ [notKept] ∨
      (record now e log).outcome = .error f := by
  rw [record, if_pos hkept, ho]
  cases f with
  | storage g => exact .inl rfl
  | _ => exact .inr rfl

/-- The newest rows of a log in working order. -/
theorem Holds.latest_eq {db : Database} (h : log.Holds db) {limit : Int} (hlimit : 0 ≤ limit)
    (hfits : fitsWord limit = true) :
    ((latest limit).outcome log).1 = .ok (db.rows.reverse.take limit.toNat) := by
  have looked := latest_spec h.sound h.index limit
  match ho : (latest limit).outcome log with
  | (.ok rows, l) =>
    have hrows := (looked.of_ok rfl ho).2
    dsimp only at hrows
    rw [if_neg (Int.not_lt.2 hlimit), h.contents] at hrows
    rw [hrows]
  | (.error f, l) =>
    have hbad := ((looked.of_error rfl ho).2 ⟨h.writable.ready, h.writable.table⟩).1
    rw [hfits] at hbad
    cases hbad

/-- The entry is kept: nothing is said but its line, and its row is the latest one. -/
def Keeps (log : EventLog) (now : String) (e : Log.Entry) (row : Row) : Prop :=
  (record now e log).outcome = .ok () ∧ (record now e log).lines = e.line?.toList ∧
    ((latest 1).outcome (record now e log).log).1 = .ok [row]

/-- An entry of weight is kept just when the log is writable. -/
theorem keeps_iff (sound : log.Sound) (hindex : log.storage.isDirectory (indexOf log.file) = false)
    {containerId : Option String} (hkept : e.isKept = true)
    (hid : storedId e.containerId = .ok containerId) :
    log.Keeps now e (log.nextRow now e containerId) ↔ log.Writable := by
  have appended := append_spec sound hindex now e
  match ho : (append now e).outcome log with
  | (.ok (), m) =>
    obtain ⟨hw, containerId', hid', hreached⟩ := appended.of_ok rfl ho
    obtain rfl : containerId' = containerId := Except.ok.inj (hid'.symm.trans hid)
    refine iff_of_true ?_ hw
    have hnewest := (hreached.holds sound hw).latest_eq (by decide : (0 : Int) ≤ 1) (by decide)
    have hrecord := record_of_appended hkept ho
    refine ⟨by rw [hrecord], by rw [hrecord], ?_⟩
    rw [hrecord, hnewest]
    simp [nextTable]
  | (.error f, m) =>
    have hbad := (appended.of_error rfl ho).2
    refine iff_of_false (fun h => ?_) fun hw => hbad ⟨hw, containerId, hid⟩
    rcases record_of_error hkept ho with hlines | houtcome
    · rw [h.2.1] at hlines
      simp at hlines
    · rw [h.1] at houtcome
      cases houtcome

/-! ## Histories -/

/-- A use of the event log. -/
inductive Use where
  | record (now : String) (e : Log.Entry)
  | init
  | latest (limit : Int)

namespace Use

/-- The use opens the database file. -/
def opens : Use → Bool
  | record _ e => e.isKept
  | init | latest _ => true

/-- The log after a use. -/
def after (log : EventLog) : Use → EventLog
  | record now e => (log.record now e).log
  | init => (EventLog.init.outcome log).2
  | latest limit => ((EventLog.latest limit).outcome log).2

/-- A use that does not open the file changes nothing. -/
theorem after_of_not_opens {x : Use} (hx : x.opens = false) : x.after log = log := by
  cases x with
  | record now e => rw [after, record_of_not_kept hx]
  | init | latest => cases hx

/-- After any other use the log remembers the path, if it could be made ready. -/
theorem after_remembers (sound : log.Sound)
    (hindex : log.storage.isDirectory (indexOf log.file) = false) {x : Use} (hx : x.opens = true) :
    Remembers log (x.after log) := by
  cases x with
  | record now e =>
    rw [after, record_log hx]
    refine ((append_spec sound hindex now e).post (fun _ _ h => ?_) fun _ _ h => h.1).after rfl
    obtain ⟨-, containerId, -, hreached⟩ := h
    exact hreached.remembers
  | init =>
    exact ((init_reached sound hindex).post (fun _ _ h => h.remembers) fun _ _ h => h.1).after rfl
  | latest limit =>
    refine ((latest_spec sound hindex limit).post (fun _ _ h => ?_) fun _ _ h => h.1).after rfl
    exact h.1.remembers

end Use

/-- Uses of the log, one after the other, while anything may become of its storage in between. The
log as it was before each use that opened the file is taken down, the last one first. -/
inductive History (log₀ : EventLog) : List EventLog → EventLog → Prop where
  | nil : History log₀ [] log₀
  | use {met : List EventLog} {log : EventLog} (h : History log₀ met log)
      (hindex : log.storage.isDirectory (indexOf log.file) = false) (x : Use) :
      History log₀ (if x.opens then log :: met else met) (x.after log)
  | change {met : List EventLog} {log : EventLog} (h : History log₀ met log) {storage : Storage}
      (tree : storage.Tree) : History log₀ met { log with storage }

variable {log₀ : EventLog} {met : List EventLog}

theorem History.sound (h : History log₀ met log) (sound : log₀.Sound) : log.Sound := by
  induction h with
  | nil => exact sound
  | use h hindex x ih =>
    cases hx : x.opens with
    | true => exact (x.after_remembers ih hindex hx).sound ih
    | false => rwa [x.after_of_not_opens hx]
  | change h tree ih => exact ⟨tree, ih.home⟩

/-- The paths that are remembered are those at which the log could be made ready before. -/
theorem History.mem_prepared (h : History log₀ met log) (sound : log₀.Sound) (p : Path) :
    p ∈ log.prepared ↔ p ∈ log₀.prepared ∨ ∃ l ∈ met, p = l.file ∧ l.Ready := by
  induction h with
  | nil => simp
  | use h hindex x ih =>
    cases hx : x.opens with
    | true =>
      rw [(x.after_remembers (h.sound sound) hindex hx).prepared, ih, if_pos rfl, or_assoc]
      simp only [List.mem_cons, exists_eq_or_imp]
      exact or_congr_right or_comm
    | false => rwa [x.after_of_not_opens hx, if_neg (by decide)]
  | change h tree ih => exact ih

/-- **An entry is kept just when there is a table in the file of the log, or no use before opened
the file at that path while it could be made ready.** The log has to be one that can be made ready
in any case, and there must be room for a file beside its own. -/
theorem kept_iff_table_there (h : History log₀ met log) (sound : log₀.Sound)
    (hnew : log₀.prepared = []) (hindex : log.storage.isDirectory (indexOf log.file) = false)
    {containerId : Option String} (hkept : e.isKept = true)
    (hid : storedId e.containerId = .ok containerId) :
    log.Keeps now e (log.nextRow now e containerId) ↔
      (log.Ready ∧ (journalOf log.file).fits = true) ∧
        (log.storage.table? log.file ≠ none ∨ ∀ l ∈ met, log.file = l.file → ¬ l.Ready) := by
  have hmem : log.file ∉ log.prepared ↔ ∀ l ∈ met, log.file = l.file → ¬ l.Ready := by
    rw [h.mem_prepared sound, hnew]
    simp
  rw [keeps_iff (h.sound sound) hindex hkept hid, ← hmem]
  exact ⟨fun hw => ⟨⟨hw.ready, hw.fits⟩, hw.table⟩, fun hw => ⟨hw.1.1, hw.2, hw.1.2⟩⟩

/-- A log without a file can be made ready where its directory is and nothing is beside. -/
theorem ready_of_absent (hfitting : Fitting log.file)
    (hdir : log.storage.isDirectory log.file.dropLast = true)
    (habsent : log.storage.node? log.file = none) (hfits : (journalOf log.file).fits = true)
    (hjournal : log.storage.isDirectory (journalOf log.file) = false)
    (hahead : log.storage.isDirectory (Storage.aheadOf log.file) = false) : log.Ready :=
  ⟨hfitting, .there hdir, hjournal, hahead, by rw [habsent]; exact hfits⟩

/-! ### A directory in the place of the file -/

theorem sound_of_empty (place : String) : ({ place } : EventLog).Sound :=
  ⟨⟨by simp, by simp⟩, by simp⟩

/-- A log that kept an entry in a file where a directory is now. -/
def displaced : EventLog :=
  { (record "" (.plain "INFO" "a") { place := "data" }).log with
    storage := ⟨[(["data"], .directory)]⟩ }

theorem displaced_history : History { place := "data" } [{ place := "data" }] displaced :=
  (History.nil.use rfl (.record "" (.plain "INFO" "a"))).change ⟨by decide, by decide +kernel⟩

/-- The next entry goes into a file in the directory, which the log did not open before. -/
theorem kept_iff_table_there_displaced :
    History { place := "data" } [{ place := "data" }] displaced ∧
      displaced.file = ["data", "drd.db"] ∧
      displaced.Keeps "" (.plain "INFO" "b") ⟨1, "", "INFO", none, none, "b"⟩ := by
  have hrow : displaced.nextRow "" (.plain "INFO" "b") none = ⟨1, "", "INFO", none, none, "b"⟩ := by
    decide +kernel
  have hready : displaced.Ready :=
    ready_of_absent ⟨by decide +kernel, by decide +kernel, by decide +kernel⟩ (by decide +kernel)
      (by decide +kernel) (by decide +kernel) (by decide +kernel) (by decide +kernel)
  have hother : displaced.file ≠ file { place := "data" } := by decide +kernel
  refine ⟨displaced_history, by decide +kernel, ?_⟩
  rw [← hrow]
  refine (kept_iff_table_there displaced_history (sound_of_empty _) rfl (by decide +kernel)
    (by decide +kernel) rfl).2 ⟨⟨hready, by decide +kernel⟩, .inr ?_⟩
  intro l hl hsame
  rw [List.mem_singleton.1 hl] at hsame
  exact absurd hsame hother

/-! ### A file that is lost -/

/-- A log that kept an entry in a file which is not there any more. -/
def bereft : EventLog :=
  let log := (record "" (.plain "INFO" "a") {}).log
  { log with storage := log.storage.erase log.file }

theorem bereft_history : History {} [{}] bereft := by
  have used : History {} [{}] (record "" (.plain "INFO" "a") {}).log :=
    History.nil.use rfl (.record "" (.plain "INFO" "a"))
  exact used.change ((used.sound (sound_of_empty _)).tree.erase (by decide +kernel))

/-- The file could be made again, and yet the next entry is not kept: the table is taken to be
there. -/
theorem bereft_keeps_nothing :
    History {} [{}] bereft ∧ bereft.Ready ∧ bereft.storage.node? bereft.file = none ∧
      (Log.Entry.plain "INFO" "b").isKept = true ∧
      ∀ row, ¬ bereft.Keeps "" (.plain "INFO" "b") row := by
  refine ⟨bereft_history, ?_, by decide +kernel, by decide +kernel, fun row hkeeps => ?_⟩
  · exact ready_of_absent ⟨by decide +kernel, by decide +kernel, by decide +kernel⟩
      (by decide +kernel) (by decide +kernel) (by decide +kernel) (by decide +kernel)
      (by decide +kernel)
  · have hlines : (record "" (.plain "INFO" "b") bereft).lines =
        (Log.Entry.plain "INFO" "b").line?.toList ++ [notKept] := by
      decide +kernel
    have := hkeeps.2.1
    rw [hlines] at this
    simp at this

end HostRouting.EventLog
