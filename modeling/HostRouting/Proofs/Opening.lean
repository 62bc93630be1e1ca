import HostRouting.Proofs.Tree

/-!
# Opening the event log

When the table of events can be made, told by what the storage holds: whether there is room for the
directories, whether the file is a database or can become one, and whether directories stand where
the files beside it belong.
-/

namespace HostRouting.EventLog

open Act (Spec never)

/-! ## Files beside a database -/

namespace Path

variable {p : Path} {a b : String}

/-- A path that is longer by nothing. -/
theorem extended_empty (hp : p ≠ []) : p.extended "" = p := by
  rw [extended, List.getLast?_eq_some_getLast hp, Option.getD_some, String.append_empty,
    List.dropLast_concat_getLast hp]

/-- Different endings give different paths. -/
theorem extended_injective (h : p.extended a = p.extended b) : a = b := by
  have := List.singleton_inj.1 (List.append_cancel_left h)
  exact (String.append_right_inj _).1 this

/-- A path with an ending is another one. -/
theorem extended_ne (hp : p ≠ []) (ha : a ≠ "") : p.extended a ≠ p := by
  intro h
  rw [← extended_empty hp] at h
  conv at h => lhs; rw [extended_empty hp]
  exact ha (extended_injective h)

/-- A path with an ending has as many names. -/
theorem length_extended (hp : p ≠ []) (a : String) : (p.extended a).length = p.length := by
  have := List.length_pos_iff.2 hp
  simp only [extended, List.length_append, List.length_dropLast, List.length_singleton]
  omega

end Path

namespace Storage

variable {s t u : Storage} {p q : Path}

theorem journalOf_ne (hp : p ≠ []) : journalOf p ≠ p := Path.extended_ne hp (by decide)

theorem aheadOf_ne (hp : p ≠ []) : aheadOf p ≠ p := Path.extended_ne hp (by decide)

theorem indexOf_ne (hp : p ≠ []) : indexOf p ≠ p := Path.extended_ne hp (by decide)

theorem node?_erase_self (hp : p ≠ []) : (s.erase p).node? p = none := by
  rw [node?, if_neg hp, erase, List.lookup_eq_none_iff]
  intro e he
  have hne : e.1 ≠ p := by simpa using (List.mem_filter.1 he).2
  simpa using Ne.symm hne

/-- Taking away a file leaves the other nodes. -/
theorem node?_eraseFile_of_ne (hq : q ≠ p) : (s.eraseFile p).node? q = s.node? q := by
  unfold eraseFile
  split
  · exact node?_erase_of_ne hq
  · rfl

/-- Taking away a file leaves the directories. -/
theorem isDirectory_eraseFile (s : Storage) (p q : Path) :
    (s.eraseFile p).isDirectory q = s.isDirectory q := by
  by_cases hq : q = p
  · subst hq
    unfold eraseFile
    split
    · rename_i hfile
      have hne : q ≠ [] := by
        rintro rfl
        simp [isFile] at hfile
      have hnot : s.isDirectory q = false := by
        cases hdir : s.isDirectory q with
        | false => rfl
        | true => simp [isFile, isDirectory_iff.1 hdir] at hfile
      rw [hnot, isDirectory, node?_erase_self hne]
      rfl
    · rfl
  · rw [isDirectory, node?_eraseFile_of_ne hq, isDirectory]

/-- Putting a node leaves the directories at other paths. -/
theorem isDirectory_put_of_ne {n : Node} (hq : q ≠ p) : (s.put p n).isDirectory q = s.isDirectory q := by
  rw [isDirectory, node?_put_of_ne hq, isDirectory]

/-! ## Making the table -/

/-- The file at a path is a database or can become one, and no directory is in the way beside it. -/
def Serves (s : Storage) (p : Path) : Prop :=
  s.isDirectory (journalOf p) = false ∧ s.isDirectory (aheadOf p) = false ∧
    match s.node? p with
    | none | some (.file .blank) => (journalOf p).fits = true
    | some (.file (.database _)) => True
    | some (.file .foreign) | some .directory | some .device => False

/-- The files beside a database were minded. -/
structure Settled (s t : Storage) (p : Path) : Prop where
  /-- A journal that cannot be cleared away is no matter for an empty database. -/
  journal : s.isDirectory (journalOf p) = true → s.node? p = some (.file .blank)
  ahead : s.isDirectory (aheadOf p) = false
  same : t.node? p = s.node? p
  sameJournal : t.isDirectory (journalOf p) = s.isDirectory (journalOf p)
  sameAhead : t.isDirectory (aheadOf p) = s.isDirectory (aheadOf p)

/-- Where a directory is in the place of a file beside it, no database serves. -/
theorem not_serves_of_directory (h : s.isDirectory (journalOf p) = true ∨
    s.isDirectory (aheadOf p) = true) : ¬ s.Serves p := by
  rintro ⟨hjournal, hahead, -⟩
  rcases h with h | h
  · rw [hjournal] at h
    cases h
  · rw [hahead] at h
    cases h

/-- Once the files were minded, what becomes of the one that tells where the changes are is no
matter. -/
theorem Settled.change (h : Settled s t p) (hsame : u.node? p = t.node? p)
    (hdir : ∀ q, q ≠ indexOf p → u.isDirectory q = t.isDirectory q) : Settled s u p := by
  have hij : journalOf p ≠ indexOf p := fun h => absurd (Path.extended_injective h) (by decide)
  have hia : aheadOf p ≠ indexOf p := fun h => absurd (Path.extended_injective h) (by decide)
  exact ⟨h.journal, h.ahead, hsame.trans h.same, (hdir _ hij).trans h.sameJournal,
    (hdir _ hia).trans h.sameAhead⟩

/-- The files beside a database are minded, unless a directory is in the way. -/
theorem settle_spec (hp : p ≠ []) :
    Spec (· = s) (settle p) (fun _ t => Settled s t p) (fun _ _ => ¬ s.Serves p) := by
  refine Spec.read_bind ?_
  dsimp only
  split
  · rename_i hbad
    refine Spec.fail_bind fun t _ => ?_
    rw [Bool.and_eq_true] at hbad
    exact not_serves_of_directory (.inl hbad.1)
  · rename_i hgood
    have hjournal : s.isDirectory (journalOf p) = true → s.node? p = some (.file .blank) := by
      intro hdir
      simpa [hdir] using hgood
    refine Spec.bind (R := fun _ t => t = s.eraseFile (journalOf p))
      (Spec.update fun t ht => by rw [ht]) fun _ => ?_
    split
    · rename_i hahead
      refine Spec.fail_bind fun t _ => ?_
      exact not_serves_of_directory (.inr hahead)
    · rename_i hahead
      have cleared : Settled s (s.eraseFile (journalOf p)) p :=
        ⟨hjournal, Bool.eq_false_iff.2 hahead, node?_eraseFile_of_ne (journalOf_ne hp).symm,
          isDirectory_eraseFile .., isDirectory_eraseFile ..⟩
      split
      · split
        · refine Spec.update fun t ht => ht ▸ ?_
          exact cleared.change (node?_eraseFile_of_ne (aheadOf_ne hp).symm) fun q _ =>
            isDirectory_eraseFile ..
        · refine Spec.update fun t ht => ht ▸ ?_
          exact cleared.change (node?_put_of_ne (indexOf_ne hp).symm) fun q hq =>
            isDirectory_put_of_ne hq
      · exact Spec.pure fun t ht => ht ▸ cleared

/-- There is a table, and no directory is in the way beside it. -/
structure Kept (s : Storage) (p : Path) : Prop where
  table : ∃ db, s.node? p = some (.file (.database db))
  journal : s.isDirectory (journalOf p) = false
  ahead : s.isDirectory (aheadOf p) = false

/-- A database with a table serves. -/
theorem Kept.serves (h : s.Kept p) : s.Serves p := by
  obtain ⟨⟨db, hdb⟩, hjournal, hahead⟩ := h
  refine ⟨hjournal, hahead, ?_⟩
  rw [hdb]
  trivial

/-- Whether a file serves depends on the nodes at three paths only. -/
theorem serves_congr (hsame : t.node? p = s.node? p)
    (hjournal : t.isDirectory (journalOf p) = s.isDirectory (journalOf p))
    (hahead : t.isDirectory (aheadOf p) = s.isDirectory (aheadOf p)) : t.Serves p ↔ s.Serves p := by
  unfold Serves
  rw [hsame, hjournal, hahead]

/-- Minding the files beside a database does not change whether it serves. -/
theorem Settled.serves_iff (h : Settled s t p) : t.Serves p ↔ s.Serves p :=
  serves_congr h.same h.sameJournal h.sameAhead

/-- The table can be read just when the file serves. -/
theorem table_spec (hp : p ≠ []) (hthere : s.node? p ≠ none)
    (hblank : s.node? p ≠ some (.file .blank)) :
    Spec (· = s) (table p) (fun _ t => s.Serves p ∧ t.Kept p) (fun _ _ => ¬ s.Serves p) := by
  refine Spec.bind (settle_spec hp) fun _ => Spec.each fun t ht => Spec.read_bind ?_
  rw [ht.same]
  have useless (hnode : ∀ db, s.node? p ≠ some (.file (.database db))) : ¬ s.Serves p := by
    rintro ⟨-, -, hserves⟩
    split at hserves
    · exact hthere ‹_›
    · exact hblank ‹_›
    · exact hnode _ ‹_›
    all_goals exact hserves
  match hnode : s.node? p with
  | none => exact absurd hnode hthere
  | some (.file .blank) => exact absurd hnode hblank
  | some (.file (.database db)) =>
    have hjournal : s.isDirectory (journalOf p) = false := by
      refine Bool.eq_false_iff.2 fun hdir => ?_
      rw [ht.journal hdir] at hnode
      cases hnode
    refine Spec.pure fun u hu => ?_
    subst hu
    refine ⟨⟨hjournal, ht.ahead, by rw [hnode]; trivial⟩, ⟨db, by rw [ht.same, hnode]⟩, ?_, ?_⟩
    · rw [ht.sameJournal, hjournal]
    · rw [ht.sameAhead, ht.ahead]
  | some (.file .foreign) | some .directory | some .device =>
    exact Spec.fail fun _ _ => useless fun db hdb => by rw [hnode] at hdb; cases hdb

/-- A table is stored where the file that is needed meanwhile can be made. -/
theorem store_spec (db : Database) :
    Spec (· = s) (store p db)
      (fun _ t => ((journalOf p).fits = true ∧ s.isDirectory (journalOf p) = false) ∧
        t = s.put p (.file (.database db)))
      (fun _ _ => ¬ ((journalOf p).fits = true ∧ s.isDirectory (journalOf p) = false)) := by
  refine Spec.read_bind ?_
  split
  · rename_i hbad
    refine Spec.fail_bind fun t _ hgood => ?_
    rw [hgood.1, hgood.2] at hbad
    cases hbad
  · rename_i hgood
    simp only [Bool.or_eq_true, Bool.not_eq_true', not_or, Bool.not_eq_false, Bool.not_eq_true]
      at hgood
    exact Spec.update fun t ht => ⟨hgood, by rw [ht]⟩

/-- **The table is made just when the file serves.** -/
theorem makeTable_spec (hp : p ≠ []) (hthere : s.node? p ≠ none) :
    Spec (· = s) (makeTable p) (fun _ t => s.Serves p ∧ t.Kept p) (fun _ _ => ¬ s.Serves p) := by
  refine Spec.bind (settle_spec hp) fun _ => Spec.each fun t ht => Spec.read_bind ?_
  by_cases hblank : s.node? p = some (.file .blank)
  · rw [ht.same, hblank]
    refine (store_spec {}).post ?_ ?_
    · rintro _ u ⟨⟨hfits, hjournal⟩, rfl⟩
      refine ⟨⟨ht.sameJournal ▸ hjournal, ht.ahead, by rw [hblank]; exact hfits⟩,
        ⟨{}, node?_put_self hp⟩, ?_, ?_⟩
      · rw [isDirectory_put_of_ne (journalOf_ne hp), hjournal]
      · rw [isDirectory_put_of_ne (aheadOf_ne hp), ht.sameAhead, ht.ahead]
    · rintro f u hbad ⟨hjournal, -, hfits⟩
      rw [hblank] at hfits
      exact hbad ⟨hfits, ht.sameJournal.trans hjournal⟩
  · have read := table_spec hp (s := t) (ht.same ▸ hthere) (ht.same ▸ hblank)
    rw [ht.serves_iff] at read
    split
    · rename_i heq
      exact absurd (ht.same.symm.trans heq) hblank
    · exact Spec.bind read fun _ => Spec.pure fun _ hu => hu

/-! ## Opening the file -/

/-- The path is one that a database file can have. -/
structure Fitting (p : Path) : Prop where
  named : p.hasNull = false
  short : p.text.utf8ByteSize + 8 ≤ longestPath
  fits : p.fits = true

/-- A file is opened if it can be had, and is made if it is not there. -/
theorem openFile_spec (tree : s.Tree) (hp : p ≠ []) :
    Spec (· = s) (openFile p)
      (fun _ t => (Fitting p ∧ s.isDirectory p.dropLast = true) ∧ t.node? p ≠ none ∧
        (t.Serves p ↔ s.Serves p))
      (fun _ _ => ¬ (Fitting p ∧ s.isDirectory p.dropLast = true ∧ s.Serves p)) := by
  unfold openFile
  by_cases hnull : p.hasNull = true
  · rw [if_pos hnull]
    refine Spec.fail_bind fun t _ hgood => ?_
    rw [hgood.1.named] at hnull
    cases hnull
  · rw [if_neg hnull]
    by_cases hlong : (decide (longestPath < p.text.utf8ByteSize + 8) || !p.fits) = true
    · rw [if_pos hlong]
      refine Spec.fail_bind fun t _ hgood => ?_
      have hshort := hgood.1.short
      rw [hgood.1.fits] at hlong
      simp only [Bool.not_true, Bool.or_false, decide_eq_true_eq] at hlong
      omega
    · rw [if_neg hlong]
      have hfitting : Fitting p := by
        simp only [Bool.or_eq_true, not_or, decide_eq_true_eq, Bool.not_eq_true', Bool.not_eq_false]
          at hlong
        exact ⟨Bool.eq_false_iff.2 hnull, by omega, hlong.2⟩
      refine Spec.read_bind ?_
      -- what is there lies in a directory
      have hparent (hthere : s.node? p ≠ none) : s.isDirectory p.dropLast = true := by
        rw [← List.dropLast_concat_getLast hp] at hthere
        exact tree.directory hthere
      match hnode : s.node? p with
      | some (.file _) | some .device =>
        have hthere : s.node? p ≠ none := by simp [hnode]
        refine Spec.pure fun t ht => ?_
        rw [ht]
        exact ⟨⟨hfitting, hparent hthere⟩, hthere, Iff.rfl⟩
      | some .directory =>
        refine Spec.fail fun t _ hgood => ?_
        have hserves := hgood.2.2.2.2
        rw [hnode] at hserves
        exact hserves
      | none =>
        refine Spec.read_bind ?_
        split
        · rename_i hdir
          refine Spec.update fun t ht => ?_
          rw [ht]
          refine ⟨⟨hfitting, hdir⟩, by simp [node?_put_self hp], ?_⟩
          unfold Serves
          rw [node?_put_self hp, isDirectory_put_of_ne (journalOf_ne hp),
            isDirectory_put_of_ne (aheadOf_ne hp), hnode]
        · rename_i hdir
          exact Spec.fail fun t _ hgood => hdir hgood.2.1

/-! ## Paving the way -/

/-- The directories at a path and on the way to it were made, as far as there was room. -/
structure Paved (s t : Storage) (d : Path) : Prop where
  tree : t.Tree
  room : t.isDirectory d = true ↔ Room s d
  beyond : ∀ x : Path, d.length < x.length → t.node? x = s.node? x

/-- Files below a directory serve as they did before the way to it was paved. -/
theorem Paved.serves_iff (h : Paved s t p.dropLast) (hp : p ≠ []) : t.Serves p ↔ s.Serves p := by
  have hlength : p.dropLast.length < p.length := by
    have := List.length_pos_iff.2 hp
    rw [List.length_dropLast]
    omega
  have beside (a : String) : t.isDirectory (p.extended a) = s.isDirectory (p.extended a) := by
    rw [isDirectory, h.beyond _ (by rw [Path.length_extended hp]; exact hlength), isDirectory]
  exact serves_congr (h.beyond p hlength) (beside _) (beside _)

/-- The way to a path is paved just when there is room for it. -/
theorem makeDirectories_spec {d : Path} (tree : s.Tree) (hd : ∀ name ∈ d, IsPlain name)
    (hnew : s.node? d = none) :
    Spec (· = s) (makeDirectories (.ofPath d)) (fun _ t => Paved s t d) (fun _ _ => ¬ Room s d) := by
  have hne : d ≠ [] := by
    rintro rfl
    simp at hnew
  have hnames : (Reference.ofPath d).names.isEmpty = false := by
    cases d with
    | nil => exact absurd rfl hne
    | cons name rest => rfl
  unfold makeDirectories
  rw [hnames, if_neg (by decide)]
  refine (makeAll_spec tree hd hne hnew).post ?_ fun f t ht => ht.1
  intro _ t ht
  exact ⟨ht.tree, ⟨fun _ => ht.room, fun _ => ht.there⟩, ht.beyond⟩

end Storage

/-! ## The configured place -/

open Storage (IsPlain Room Paved Fitting)

/-- The path of the database file: the configured place, or a file in it if it is a directory. -/
def file (log : EventLog) : Path :=
  let p := Path.ofText log.home log.place
  if log.storage.isDirectory p then p ++ ["drd.db"] else p

/-- The storage is a tree, and the directory from which places are seen has a plain path. -/
structure Sound (log : EventLog) : Prop where
  tree : log.storage.Tree
  home : ∀ name ∈ log.home, IsPlain name

/-- The event log can be made ready: its path is one that a database file can have, there is room for
the directory around, and the file serves. -/
structure Ready (log : EventLog) : Prop where
  fitting : Fitting log.file
  room : Room log.storage log.file.dropLast
  serves : log.storage.Serves log.file

variable {log : EventLog}

/-- The names that lead to a place are plain. -/
theorem ofText_plain {base : Path} (hbase : ∀ name ∈ base, IsPlain name) (s : String) :
    ∀ name ∈ Path.ofText base s, IsPlain name := by
  have step (names : List String) (p : Path) (hp : ∀ name ∈ p, IsPlain name) :
      ∀ name ∈ names.foldl (fun p name =>
        if name = "" || name = "." then p
        else if name = ".." then p.dropLast
        else p ++ [name]) p, IsPlain name := by
    induction names generalizing p with
    | nil => exact hp
    | cons next rest ih =>
      refine ih _ fun name hname => ?_
      dsimp only at hname
      split_ifs at hname with hhere hup
      · exact hp name hname
      · exact hp name (List.dropLast_subset p hname)
      · rcases List.mem_append.1 hname with hname | hname
        · exact hp name hname
        · rw [List.mem_singleton.1 hname]
          simp only [Bool.or_eq_true, decide_eq_true_eq, not_or] at hhere
          exact ⟨hhere.2, hup⟩
  unfold Path.ofText
  refine step _ _ ?_
  split
  · simp
  · exact hbase

/-- The database file is not the root. -/
theorem file_ne_nil (log : EventLog) : log.file ≠ [] := by
  unfold file
  dsimp only
  split
  · simp
  · rename_i hdir
    intro hnil
    rw [hnil] at hdir
    simp at hdir

/-- The names that lead to the database file are plain. -/
theorem Sound.plain (sound : log.Sound) : ∀ name ∈ log.file, IsPlain name := by
  have hplace := ofText_plain sound.home log.place
  intro name hname
  unfold file at hname
  dsimp only at hname
  split at hname
  · rcases List.mem_append.1 hname with hname | hname
    · exact hplace name hname
    · rw [List.mem_singleton.1 hname]
      exact ⟨by decide, by decide⟩
  · exact hplace name hname

/-- With a file that holds something else, the log cannot be made ready. -/
theorem not_ready_of_foreign (h : log.storage.node? log.file = some (.file .foreign)) :
    ¬ log.Ready := by
  intro hready
  have hserves := hready.serves.2.2
  rw [h] at hserves
  exact hserves

/-- Nor can it with anything but a directory on the way to the file. -/
theorem not_ready_of_obstacle (sound : log.Sound) {q : Path} (hq : q <+: log.file.dropLast)
    (hthere : log.storage.node? q ≠ none) (hdir : log.storage.isDirectory q = false) :
    ¬ log.Ready := by
  intro hready
  rw [hready.room.isDirectory_of_prefix sound.tree hq hthere] at hdir
  cases hdir

/-! ## Making the log ready -/

/-- An act on the storage, in an event log. -/
theorem onStorage_spec {α : Type} {P : Storage → Prop} {act : Act Storage α}
    {Q : α → Storage → Prop} {E : Fault → Storage → Prop} (h : Spec P act Q E) :
    Spec (fun l : EventLog => P l.storage) (onStorage act) (fun a l => Q a l.storage)
      (fun f l => E f l.storage) :=
  h.within (fun _ hl => hl) (fun _ _ _ _ hq => hq) fun _ _ _ _ he => he

/-- The directory of the database file is made unless something is there. -/
theorem resolve_eq : resolve = (do
    let log ← Act.read
    unless log.storage.has log.file.dropLast do
      onStorage (Storage.makeDirectories (.ofPath log.file.dropLast))
    return log.file) := rfl

/-- The path is the one of the database file, and the way to it is paved. -/
theorem resolve_paved (sound : log.Sound) :
    Spec (· = log) resolve
      (fun p l => p = log.file ∧ Paved log.storage l.storage log.file.dropLast)
      (fun _ _ => ¬ log.Ready) := by
  rw [resolve_eq]
  refine Spec.read_bind ?_
  cases hhas : log.storage.has log.file.dropLast with
  | true =>
    refine Spec.pure fun l hl => ⟨rfl, ?_⟩
    rw [hl]
    exact ⟨sound.tree, (Storage.room_of_has hhas).symm, fun _ _ => rfl⟩
  | false =>
    have hnew : log.storage.node? log.file.dropLast = none := by simpa [Storage.has] using hhas
    have hplain : ∀ name ∈ log.file.dropLast, IsPlain name := fun name hname =>
      sound.plain name (List.dropLast_subset _ hname)
    have paved := onStorage_spec (Storage.makeDirectories_spec sound.tree hplain hnew)
    refine Spec.bind (paved.mono (fun l hl => by rw [hl]) (fun _ _ hl => hl) ?_) fun _ => ?_
    · exact fun _ _ hl hready => hl hready.room
    · exact Spec.pure fun l hl => ⟨rfl, hl⟩

/-- The database file was opened, and serves as it did before. -/
structure Opened (log l : EventLog) : Prop where
  fitting : Fitting log.file
  room : Room log.storage log.file.dropLast
  there : l.storage.node? log.file ≠ none
  serves : l.storage.Serves log.file ↔ log.storage.Serves log.file

/-- After the file was opened, its table is made just when the log can be made ready. -/
theorem Opened.makeTable_spec :
    Spec (Opened log) (onStorage (Storage.makeTable log.file)) (fun _ l => log.Ready ∧ Opened log l)
      (fun _ _ => ¬ log.Ready) := by
  refine Spec.each fun l hl => ?_
  have made := onStorage_spec (Storage.makeTable_spec (file_ne_nil log) hl.there)
  refine made.mono (fun u hu => by rw [hu]) ?_ ?_
  · rintro _ u ⟨hserves, hkept⟩
    have hready : log.Ready := ⟨hl.fitting, hl.room, hl.serves.1 hserves⟩
    obtain ⟨db, hdb⟩ := hkept.table
    refine ⟨hready, hl.fitting, hl.room, by simp [hdb], ?_⟩
    exact ⟨fun _ => hready.serves, fun _ => hkept.serves⟩
  · exact fun _ _ hbad hready => hbad (hl.serves.2 hready.serves)

/-- Where the way is paved, the file is opened. -/
theorem openFile_opened : Spec (fun l => Paved log.storage l.storage log.file.dropLast)
    (onStorage (Storage.openFile log.file)) (fun _ => Opened log) (fun _ _ => ¬ log.Ready) := by
  refine Spec.each fun l hl => ?_
  have hfile := onStorage_spec (Storage.openFile_spec hl.tree (file_ne_nil log))
  have hserves := hl.serves_iff (file_ne_nil log)
  refine hfile.mono (fun u hu => by rw [hu]) ?_ ?_
  · rintro _ u ⟨⟨hfitting, hdir⟩, hthere, hsame⟩
    exact ⟨hfitting, hl.room.1 hdir, hthere, hsame.trans hserves⟩
  · rintro _ u hbad hready
    exact hbad ⟨hready.fitting, hl.room.2 hready.room, hserves.2 hready.serves⟩

/-- The file is opened. -/
theorem connect_opened (sound : log.Sound) :
    Spec (· = log) connect (fun p l => p = log.file ∧ Opened log l) (fun _ _ => ¬ log.Ready) := by
  refine Spec.bind (resolve_paved sound) fun p => Spec.of_fact fun hp => ?_
  subst hp
  refine Spec.bind openFile_opened fun _ => Spec.each fun l hl => Spec.read_bind ?_
  split
  · exact Spec.pure fun u hu => ⟨rfl, hu ▸ hl⟩
  · refine Spec.bind (Opened.makeTable_spec.pre fun u hu => hu ▸ hl) fun _ => ?_
    refine Spec.bind (R := fun _ => Opened log) (Spec.update ?_) fun _ => ?_
    · rintro u ⟨-, hu⟩
      exact ⟨hu.fitting, hu.room, hu.there, hu.serves⟩
    · exact Spec.pure fun u hu => ⟨rfl, hu⟩

/-- **The event log is opened just when it can be made ready.** -/
theorem init_spec (sound : log.Sound) :
    Spec (· = log) init (fun _ _ => log.Ready) (fun _ _ => ¬ log.Ready) := by
  refine Spec.bind (connect_opened sound) fun p => Spec.of_fact fun hp => ?_
  subst hp
  exact Opened.makeTable_spec.post (fun _ _ hl => hl.1) fun _ _ hl => hl

end HostRouting.EventLog
