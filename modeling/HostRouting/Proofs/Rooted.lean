import HostRouting.Proofs.Opening

/-!
# The storage stays a tree

Whatever an event log does to its storage, every node goes on lying in a directory and having names
that the storage takes, also if the log stops in the middle. The one thing that must not be there is
a directory in the place of the file that tells where changes written ahead are.
-/

namespace HostRouting.EventLog.Storage

open Act (Spec Leaves)

variable {s t : Storage} {p q : Path} {name : String} {r : Reference} {place : Place}

/-! ## Fewer nodes -/

/-- What is no directory can be taken away. -/
theorem Tree.erase (tree : s.Tree) (hp : s.isDirectory p = false) : (s.erase p).Tree := by
  constructor
  · intro e he
    have hrooted := tree.rooted e (List.mem_filter.1 he).1
    have hne : e.1.dropLast ≠ p := by
      intro heq
      rw [heq, hp] at hrooted
      cases hrooted
    rwa [isDirectory_iff, node?_erase_of_ne hne, ← isDirectory_iff]
  · intro e he
    exact tree.named e (List.mem_filter.1 he).1

theorem isDirectory_of_isFile (h : s.isFile p = true) : s.isDirectory p = false := by
  cases hdir : s.isDirectory p with
  | false => rfl
  | true => simp [isFile, isDirectory_iff.1 hdir] at h

/-- A file can be taken away. -/
theorem Tree.eraseFile (tree : s.Tree) (p : Path) : (s.eraseFile p).Tree := by
  unfold Storage.eraseFile
  split
  · rename_i hfile
    exact tree.erase (isDirectory_of_isFile hfile)
  · exact tree

/-! ## Places in a tree -/

/-- The place lies in a directory, and the storage takes the name of its entry. -/
structure Place.Sound (s : Storage) (place : Place) : Prop where
  directory : s.isDirectory place.directory = true
  named : ∀ name ∈ place.entry?, takes name = true

theorem placeOf_sound (tree : s.Tree) (hp : s.isDirectory p = true)
    (hname : Path.hasNull [name] = false) (h : placeOf r p name = .ok place) : place.Sound s := by
  unfold placeOf at h
  split at h
  · cases h
    exact ⟨hp, by simp⟩
  · split at h
    · cases h
      refine ⟨?_, by simp⟩
      by_cases hnil : p = []
      · simp [hnil]
      · rw [← List.dropLast_concat_getLast hnil] at hp
        exact tree.isDirectory_of_append hp
    · split at h
      · rename_i hfits
        cases h
        refine ⟨hp, ?_⟩
        rintro _ ⟨⟩
        simp [takes, hfits, hname]
      · cases h

theorem walk_sound (tree : s.Tree) {names : List String} (hp : s.isDirectory p = true)
    (hnames : Path.hasNull names = false) (h : s.walk r p names = .ok place) : place.Sound s := by
  induction names generalizing p with
  | nil =>
    cases h
    exact ⟨hp, by simp⟩
  | cons name rest ih =>
    obtain ⟨hname, hrest⟩ := Path.hasNull_cons.1 hnames
    cases rest with
    | nil => exact placeOf_sound tree hp hname h
    | cons next rest =>
      unfold walk at h
      cases hplace : placeOf r p name with
      | error f =>
        rw [hplace] at h
        cases h
      | ok between =>
        simp only [hplace, Bind.bind, Except.bind] at h
        split at h
        · rename_i hdir
          exact ih (isDirectory_iff.2 hdir) hrest h
        all_goals cases h

/-- A path from the root leads to such a place, if it leads anywhere. -/
theorem locate_sound (tree : s.Tree) (hr : r.start = []) (h : s.locate r = .ok place) :
    place.Sound s := by
  unfold locate at h
  split at h
  · cases h
  · rename_i hnull
    split at h
    · cases h
    · exact walk_sound tree (by simp [hr]) (by simpa using hnull) h

/-! ## Directories -/

theorem makeDirectory_tree (hr : r.start = []) : Leaves Tree (makeDirectory r) := by
  refine Spec.each fun s tree => ?_
  have found : Spec (· = s) (find r)
      (fun found t => found.1.Sound s ∧ found.2 = s.node? found.1.path ∧ t = s) (fun _ => Tree) := by
    refine Spec.read_bind ?_
    cases hl : s.locate r with
    | ok place =>
      exact Spec.ofExcept_bind rfl (Spec.pure fun t ht => ⟨locate_sound tree hr hl, rfl, ht⟩)
    | error f => exact Spec.ofExcept_fail rfl fun t ht => ht ▸ tree
  refine Spec.bind found fun found => ?_
  obtain ⟨⟨directory, entry?⟩, node?⟩ := found
  refine Spec.of_fact fun hplace => Spec.of_fact fun hnode => ?_
  dsimp only at hnode
  cases node? with
  | some n => exact Spec.fail fun t ht => ht ▸ tree
  | none =>
    refine Spec.update fun t ht => ?_
    rw [ht]
    cases entry? with
    | none =>
      have hdir := isDirectory_iff.1 hplace.directory
      rw [Place.path, Option.toList_none, List.append_nil, hdir] at hnode
      cases hnode
    | some name => exact tree.put hplace.directory (hplace.named name rfl) (.inl rfl)

theorem makeAll_tree (names : List String) : Leaves Tree (makeAll [] names) := by
  induction names with
  | nil => exact Spec.fail fun _ ht => ht
  | cons name rest ih =>
    cases rest with
    | nil => exact makeDirectory_tree rfl
    | cons next rest =>
      unfold makeAll
      refine Leaves.bind (Spec.read fun _ ht => ht) fun s => ?_
      dsimp only
      -- what is on the way is made first
      split
      · split
        · exact Leaves.pure _
        · exact makeDirectory_tree rfl
      · refine Leaves.bind (Leaves.attempt ih) fun result => ?_
        split
        · split
          · exact Leaves.pure _
          · exact makeDirectory_tree rfl
        · split
          · exact Leaves.pure _
          · exact makeDirectory_tree rfl
        · exact Spec.fail_bind fun _ ht => ht

theorem makeDirectories_tree (p : Path) : Leaves Tree (makeDirectories (.ofPath p)) := by
  unfold makeDirectories
  split
  · exact makeDirectory_tree rfl
  · exact makeAll_tree _

/-! ## Database files -/

/-- There is a node at the path, in a tree, and no directory is in the place of the file that tells
where changes written ahead are. -/
structure Minded (s : Storage) (p : Path) : Prop where
  tree : s.Tree
  there : s.node? p ≠ none
  index : s.isDirectory (indexOf p) = false

/-- What is put at the path of a node, in its place. -/
theorem Minded.put (h : s.Minded p) (hp : p ≠ []) (hfile : s.isDirectory p = false) (c : Content) :
    (s.put p (.file c)).Minded p := by
  obtain ⟨q, name, rfl⟩ : ∃ q name, p = q ++ [name] :=
    ⟨p.dropLast, p.getLast hp, (List.dropLast_concat_getLast hp).symm⟩
  refine ⟨h.tree.put (h.tree.directory h.there) ?_ (.inr hfile), ?_, ?_⟩
  · exact h.tree.takes_of_node? h.there name (by simp)
  · simp [node?_put_self hp]
  · rw [isDirectory_put_of_ne (indexOf_ne hp), h.index]

/-- Without the file at another path, everything stays in its place. -/
theorem Minded.eraseFile (h : s.Minded p) (hq : p ≠ q) : (s.eraseFile q).Minded p := by
  refine ⟨h.tree.eraseFile q, ?_, ?_⟩
  · rw [node?_eraseFile_of_ne hq]
    exact h.there
  · rw [isDirectory_eraseFile, h.index]

/-- Where there is a file to which changes are written ahead, the file that tells where they are can
be put beside it; its name is as long. -/
theorem Minded.put_index (h : s.Minded p) (hp : p ≠ []) (hahead : s.isFile (aheadOf p) = true) :
    (s.put (indexOf p) (.file .foreign)).Minded p := by
  have hthere : s.node? (aheadOf p) ≠ none := by
    intro hnone
    simp [isFile, hnone] at hahead
  have hname : takes (p.getLast?.getD "" ++ "-shm") = true := by
    have hahead := h.tree.takes_of_node? hthere (p.getLast?.getD "" ++ "-wal")
      (by simp [aheadOf, Path.extended])
    have hsize : "-shm".utf8ByteSize = "-wal".utf8ByteSize := rfl
    simpa [takes, Path.fits, Path.hasNull, String.utf8ByteSize_append, hsize] using hahead
  refine ⟨h.tree.put (h.tree.directory hthere) hname (.inr h.index), ?_, ?_⟩
  · rw [node?_put_of_ne (indexOf_ne hp).symm]
    exact h.there
  · have hne : indexOf p ≠ [] := by simp [indexOf, Path.extended]
    rw [isDirectory, node?_put_self hne]
    rfl

theorem settle_minded (hp : p ≠ []) : Leaves (Minded · p) (settle p) := by
  refine Spec.each fun s h => Spec.read_bind ?_
  dsimp only
  have hcleared := h.eraseFile (journalOf_ne hp).symm
  split
  · exact Spec.fail_bind fun t ht => ht ▸ h
  · refine Spec.bind (R := fun _ t => t = s.eraseFile (journalOf p))
      (Spec.update fun t ht => by rw [ht]) fun _ => ?_
    split
    · exact Spec.fail_bind fun t ht => ht ▸ hcleared
    · split
      · rename_i hahead
        have hne : aheadOf p ≠ journalOf p := fun heq =>
          absurd (Path.extended_injective heq) (by decide)
        have hahead' : (s.eraseFile (journalOf p)).isFile (aheadOf p) = true := by
          rwa [isFile, node?_eraseFile_of_ne hne]
        split
        · exact Spec.update fun t ht => ht ▸ hcleared.eraseFile (aheadOf_ne hp).symm
        · exact Spec.update fun t ht => ht ▸ hcleared.put_index hp hahead'
      · exact Spec.pure fun t ht => ht ▸ hcleared

theorem table_minded (hp : p ≠ []) : Leaves (Minded · p) (table p) := by
  refine Leaves.bind (settle_minded hp) fun _ => Spec.each fun s h => Spec.read_bind ?_
  split
  · exact Spec.pure fun t ht => ht ▸ h
  all_goals exact Spec.fail fun t ht => ht ▸ h

theorem store_minded (hp : p ≠ []) (db : Database) :
    Spec (fun s => s.Minded p ∧ s.isDirectory p = false) (store p db) (fun _ t => t.Minded p)
      (fun _ t => t.Minded p) := by
  refine Spec.each fun s h => Spec.read_bind ?_
  dsimp only
  split
  · exact Spec.fail_bind fun t ht => ht ▸ h.1
  · exact Spec.update fun t ht => ht ▸ h.1.put hp h.2 _

theorem makeTable_minded (hp : p ≠ []) : Leaves (Minded · p) (makeTable p) := by
  refine Leaves.bind (settle_minded hp) fun _ => Spec.each fun s h => Spec.read_bind ?_
  split
  · rename_i hnode
    exact (store_minded hp {}).pre fun t ht => ht ▸ ⟨h, by rw [isDirectory, hnode]; rfl⟩
  · refine Spec.bind ((table_minded hp).pre fun t ht => ht ▸ h) fun _ => ?_
    exact Spec.pure fun t ht => ht

/-- The last name of a path that a database file can have is one that the storage takes. -/
theorem takes_getLast (hp : p ≠ []) (hnull : p.hasNull = false) (hfits : p.fits = true) :
    takes (p.getLast hp) = true := by
  have hlast : Path.hasNull [p.getLast hp] = false := by
    rw [← List.dropLast_concat_getLast hp] at hnull
    exact (Path.hasNull_append.1 hnull).2
  rw [Path.fits, List.getLast?_eq_some_getLast hp] at hfits
  rw [takes, hlast, Bool.not_false, Bool.and_true]
  exact hfits

theorem openFile_minded (hp : p ≠ []) :
    Spec (fun s => s.Tree ∧ s.isDirectory (indexOf p) = false) (openFile p) (fun _ t => t.Minded p)
      (fun _ t => t.Tree) := by
  refine Spec.each fun s h => ?_
  unfold openFile
  by_cases hnull : p.hasNull = true
  · rw [if_pos hnull]
    exact Spec.fail_bind fun t ht => ht ▸ h.1
  · rw [if_neg hnull]
    split
    · exact Spec.fail_bind fun t ht => ht ▸ h.1
    · rename_i hshort
      refine Spec.read_bind ?_
      split
      · rename_i hnode
        exact Spec.pure fun t ht => ht ▸ ⟨h.1, by simp [hnode], h.2⟩
      · rename_i hnode
        exact Spec.pure fun t ht => ht ▸ ⟨h.1, by simp [hnode], h.2⟩
      · exact Spec.fail fun t ht => ht ▸ h.1
      · rename_i hnode
        refine Spec.read_bind ?_
        split
        · rename_i hdir
          have hfits : p.fits = true := by
            simp only [Bool.or_eq_true, not_or, Bool.not_eq_true', Bool.not_eq_false] at hshort
            exact hshort.2
          have hname := takes_getLast hp (Bool.eq_false_iff.2 hnull) hfits
          have hput := h.1.put (n := .file .blank) hdir hname
            (.inr (by rw [List.dropLast_concat_getLast hp, isDirectory, hnode]; rfl))
          rw [List.dropLast_concat_getLast hp] at hput
          refine Spec.update fun t ht => ht ▸ ⟨hput, by simp [node?_put_self hp], ?_⟩
          rw [isDirectory_put_of_ne (indexOf_ne hp), h.2]
        · exact Spec.fail fun t ht => ht ▸ h.1

end HostRouting.EventLog.Storage
