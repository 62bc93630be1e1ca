import HostRouting.Proofs.Recording
import Mathlib.Data.List.Induction

/-!
# Making directories

In a storage whose nodes are a tree, a path leads to what is there, and the directories that lead to
a path can be made just when nothing else stands in their way and the storage takes their names.
-/

namespace HostRouting.EventLog.Storage

open Act (Spec never)

variable {s t : Storage} {p q : Path} {n : Node} {name last : String}

/-! ## Nodes -/

@[simp] theorem node?_nil (s : Storage) : s.node? [] = some .directory := if_pos rfl

@[simp] theorem isDirectory_iff : s.isDirectory p = true ↔ s.node? p = some .directory := by
  simp [isDirectory]

theorem has_iff : s.has p = true ↔ s.node? p ≠ none := by
  simp [has, Option.isSome_iff_ne_none]

/-- What other paths lead to does not change when the nodes at one path are left out. -/
theorem lookup_filter_ne (l : List (Path × Node)) (hq : q ≠ p) :
    (l.filter fun e => e.1 ≠ p).lookup q = l.lookup q := by
  induction l with
  | nil => rfl
  | cons e l ih =>
    obtain ⟨x, m⟩ := e
    by_cases hx : x = p
    · have hqx : (q == x) = false := by simpa [hx] using hq
      rw [List.filter_cons_of_neg (by simpa using hx), List.lookup_cons, hqx, ih]
    · rw [List.filter_cons_of_pos (by simpa using hx), List.lookup_cons, List.lookup_cons, ih]

theorem node?_put_self (hp : p ≠ []) : (s.put p n).node? p = some n := by
  simp [node?, put, hp]

theorem node?_put_of_ne (hq : q ≠ p) : (s.put p n).node? q = s.node? q := by
  have hqp : (q == p) = false := by simpa using hq
  by_cases hnil : q = []
  · simp [hnil]
  · rw [node?, node?, if_neg hnil, if_neg hnil, put, List.lookup_cons, hqp]
    exact lookup_filter_ne s.nodes hq

theorem node?_erase_of_ne (hq : q ≠ p) : (s.erase p).node? q = s.node? q := by
  by_cases hnil : q = []
  · simp [hnil]
  · rw [node?, node?, if_neg hnil, if_neg hnil]
    exact lookup_filter_ne s.nodes hq

/-- A node that a path leads to is one of the storage's. -/
theorem mem_of_node? (hp : p ≠ []) (h : s.node? p = some n) : (p, n) ∈ s.nodes := by
  rw [node?, if_neg hp] at h
  obtain ⟨l, l', hl, -⟩ := List.lookup_eq_some_iff.1 h
  rw [hl]
  simp

/-! ## Trees -/

/-- The storage takes an entry of this name. -/
def takes (name : String) : Bool := Path.fits [name] && !Path.hasNull [name]

/-- Every node lies in a directory and has names that the storage takes. -/
structure Tree (s : Storage) : Prop where
  rooted : ∀ e ∈ s.nodes, s.isDirectory e.1.dropLast = true
  named : ∀ e ∈ s.nodes, ∀ name ∈ e.1, takes name = true

namespace Tree

/-- What lies in a directory. -/
theorem directory (tree : s.Tree) (h : s.node? (p ++ [name]) ≠ none) : s.isDirectory p = true := by
  obtain ⟨n, hn⟩ := Option.ne_none_iff_exists'.1 h
  have := tree.rooted _ (mem_of_node? (by simp) hn)
  rwa [List.dropLast_concat] at this

/-- The names on the way to a node. -/
theorem takes_of_node? (tree : s.Tree) (h : s.node? p ≠ none) : ∀ name ∈ p, takes name = true := by
  obtain ⟨n, hn⟩ := Option.ne_none_iff_exists'.1 h
  by_cases hp : p = []
  · simp [hp]
  · exact tree.named _ (mem_of_node? hp hn)

/-- The way to a directory leads through directories. -/
theorem isDirectory_of_append (tree : s.Tree) (h : s.isDirectory (p ++ q) = true) :
    s.isDirectory p = true := by
  induction q using List.reverseRecOn with
  | nil => rwa [List.append_nil] at h
  | append_singleton q name ih =>
    have hthere : s.node? (p ++ q ++ [name]) ≠ none := by
      rw [List.append_assoc, isDirectory_iff.1 h]
      simp
    exact ih (tree.directory hthere)

/-- A node can be put into a directory, unless the directory at its place would be lost. -/
theorem put (tree : s.Tree) (hp : s.isDirectory p = true) (hname : takes name = true)
    (hn : n = .directory ∨ s.isDirectory (p ++ [name]) = false) : (s.put (p ++ [name]) n).Tree := by
  have hne : p ++ [name] ≠ [] := by simp
  have hself : p ≠ p ++ [name] := by simp
  constructor
  · intro e he
    rw [isDirectory_iff]
    rcases List.mem_cons.1 he with rfl | he
    · rwa [List.dropLast_concat, node?_put_of_ne hself, ← isDirectory_iff]
    · have hrooted := tree.rooted e (List.mem_filter.1 he).1
      by_cases hq : e.1.dropLast = p ++ [name]
      · -- what lies in the node lay in a directory
        rw [hq] at hrooted ⊢
        rcases hn with rfl | hn
        · exact node?_put_self hne
        · rw [hrooted] at hn
          cases hn
      · rwa [node?_put_of_ne hq, ← isDirectory_iff]
  · intro e he
    rcases List.mem_cons.1 he with rfl | he
    · intro x hx
      rcases List.mem_append.1 hx with hx | hx
      · exact tree.takes_of_node? (by rw [isDirectory_iff.1 hp]; simp) x hx
      · rwa [List.mem_singleton.1 hx]
    · exact tree.named e (List.mem_filter.1 he).1

end Tree

/-! ## Where paths lead -/

/-- The name of an entry, and not one of the two names that stand for directories. -/
def IsPlain (name : String) : Prop := name ≠ "." ∧ name ≠ ".."

variable {r : Reference} {place : Place} {f : Fault}

/-- A plain name leads to the entry of this name. -/
theorem placeOf_eq_ok (hname : IsPlain name) :
    placeOf r p name = .ok place ↔ Path.fits [name] = true ∧ place = ⟨p, some name⟩ := by
  unfold placeOf
  rw [if_neg hname.1, if_neg hname.2]
  by_cases hfits : Path.fits [name] = true
  · rw [if_pos hfits]
    simp [hfits, eq_comm]
  · rw [if_neg hfits]
    simp [hfits]

/-- Plain names lead to the entry of the last one, in the directory of the others. -/
theorem walk_eq_ok (tree : s.Tree) {names : List String} (hnames : ∀ name ∈ names, IsPlain name)
    (hlast : IsPlain last) (hp : s.isDirectory p = true) :
    s.walk r p (names ++ [last]) = .ok place ↔
      s.isDirectory (p ++ names) = true ∧ Path.fits [last] = true ∧
        place = ⟨p ++ names, some last⟩ := by
  induction names generalizing p with
  | nil => simp [walk, placeOf_eq_ok hlast, isDirectory_iff.1 hp]
  | cons name rest ih =>
    have hrest : ∀ name ∈ rest, IsPlain name := fun x hx => hnames x (by simp [hx])
    have hname := hnames name (by simp)
    obtain ⟨next, more, hmore⟩ : ∃ next more, rest ++ [last] = next :: more := by
      cases rest with
      | nil => exact ⟨last, [], rfl⟩
      | cons next rest => exact ⟨next, rest ++ [last], rfl⟩
    have hpath : p ++ name :: rest = p ++ [name] ++ rest := by simp
    rw [List.cons_append, hmore]
    unfold walk
    rw [← hmore, hpath]
    by_cases hfits : Path.fits [name] = true
    · rw [(placeOf_eq_ok hname).2 ⟨hfits, rfl⟩]
      by_cases hdir : s.isDirectory (p ++ [name]) = true
      · have hnode : s.node? (Place.path ⟨p, some name⟩) = some .directory := isDirectory_iff.1 hdir
        simp only [Bind.bind, Except.bind, hnode]
        exact ih hrest hdir
      · -- the way is barred, so there is no directory farther on either
        have hfar : s.isDirectory (p ++ [name] ++ rest) ≠ true := fun h =>
          hdir (tree.isDirectory_of_append h)
        have hnode : s.node? (Place.path ⟨p, some name⟩) ≠ some .directory := fun h =>
          hdir (isDirectory_iff.2 h)
        simp only [Bind.bind, Except.bind]
        split
        · exact absurd ‹_› hnode
        all_goals exact ⟨nofun, fun h => absurd h.1 hfar⟩
    · have hfar : s.isDirectory (p ++ [name] ++ rest) ≠ true := by
        intro h
        have := tree.takes_of_node? (by rw [isDirectory_iff.1 h]; simp) name (by simp)
        simp only [takes, Bool.and_eq_true] at this
        exact hfits this.1
      cases hplace : placeOf r p name with
      | ok place' => exact absurd ((placeOf_eq_ok hname).1 hplace).1 hfits
      | error f => exact ⟨nofun, fun h => absurd h.1 hfar⟩

/-- A path of plain names leads to an entry just when there is a directory for it and the storage
takes its name. -/
theorem locate_eq_ok (tree : s.Tree) (hq : ∀ name ∈ q ++ [last], IsPlain name) :
    s.locate (.ofPath (q ++ [last])) = .ok place ↔
      s.isDirectory q = true ∧ takes last = true ∧ place = ⟨q, some last⟩ := by
  have hwalk : s.walk (.ofPath (q ++ [last])) [] (q ++ [last]) = .ok place ↔
      s.isDirectory q = true ∧ Path.fits [last] = true ∧ place = ⟨q, some last⟩ :=
    walk_eq_ok (p := []) tree (fun name hname => hq name (by simp [hname])) (hq last (by simp))
      (by simp)
  unfold locate
  by_cases hnull : Path.hasNull (q ++ [last]) = true
  · rw [if_pos (by exact hnull)]
    refine ⟨nofun, fun h => ?_⟩
    -- a directory that is there has no null character in its path
    obtain ⟨hdir, hlast, -⟩ := h
    have hpath : Path.hasNull (q ++ [last]) = false := by
      refine Path.hasNull_append.2 ⟨?_, by simpa [takes] using (Bool.and_eq_true_iff.1 hlast).2⟩
      refine List.any_eq_false.2 fun name hname => ?_
      have := tree.takes_of_node? (by rw [isDirectory_iff.1 hdir]; simp) name hname
      simpa [takes, Path.hasNull] using (Bool.and_eq_true_iff.1 this).2
    rw [hnull] at hpath
    cases hpath
  · rw [if_neg (by exact hnull), if_neg (by simp [Reference.ofPath])]
    have hlast : Path.hasNull [last] = false :=
      (Path.hasNull_append.1 (by simpa using hnull)).2
    have htakes : takes last = Path.fits [last] := by simp [takes, hlast]
    rw [htakes]
    exact hwalk

/-- What hinders the way to a place is never that something is there already. -/
theorem locate_ne_present {r : Reference} {f : Fault} (h : s.locate r = .error f) (x : String) :
    f ≠ .storage (.present x) := by
  cases hnull : Path.hasNull r.names with
  | true =>
    unfold locate at h
    rw [hnull, if_pos rfl] at h
    cases h
    simp
  | false => exact (locate_hinders hnull h).ne_present x

/-- A path of plain names leads to something just when it is there. -/
theorem leads_eq_has (tree : s.Tree) (hq : ∀ name ∈ q ++ [last], IsPlain name) :
    s.leads (.ofPath (q ++ [last])) = s.has (q ++ [last]) := by
  unfold leads
  cases hl : s.locate (.ofPath (q ++ [last])) with
  | ok place =>
    obtain ⟨-, -, rfl⟩ := (locate_eq_ok tree hq).1 hl
    rfl
  | error f =>
    cases hhas : s.has (q ++ [last]) with
    | false => rfl
    | true =>
      have hthere := has_iff.1 hhas
      have := (locate_eq_ok tree hq).2
        ⟨tree.directory hthere, tree.takes_of_node? hthere last (by simp), rfl⟩
      rw [hl] at this
      cases this

/-! ## Room for directories -/

/-- There is a directory at the path, or it can be made, with those on the way to it. -/
inductive Room (s : Storage) : Path → Prop where
  /-- The directory is there. -/
  | there {p : Path} (hp : s.isDirectory p = true) : Room s p
  /-- Nothing is there, and there is room for the directory around. -/
  | beneath {p : Path} {name : String} (hp : Room s p) (hnew : s.node? (p ++ [name]) = none)
      (hname : takes name = true) : Room s (p ++ [name])

/-- Where something is, there is room for a directory only if it is one. -/
theorem room_of_has (h : s.has p = true) : Room s p ↔ s.isDirectory p = true := by
  constructor
  · intro hroom
    cases hroom with
    | there hp => exact hp
    | beneath hp hnew hname => exact absurd hnew (has_iff.1 h)
  · exact .there

/-- Where nothing is, there has to be room around. -/
theorem room_concat (hnew : s.node? (p ++ [name]) = none) :
    Room s (p ++ [name]) ↔ Room s p ∧ takes name = true := by
  constructor
  · intro hroom
    generalize hq : p ++ [name] = q at hroom
    cases hroom with
    | there hp =>
      rw [← hq, isDirectory_iff, hnew] at hp
      cases hp
    | beneath hp _ hname =>
      obtain ⟨rfl, hnames⟩ := List.append_inj' hq rfl
      obtain rfl := List.singleton_inj.1 hnames
      exact ⟨hp, hname⟩
  · rintro ⟨hp, hname⟩
    exact .beneath hp hnew hname

/-- Whatever is on the way to a path where there is room is a directory. -/
theorem Room.isDirectory_of_prefix (tree : s.Tree) (h : Room s p) (hq : q <+: p)
    (hthere : s.node? q ≠ none) : s.isDirectory q = true := by
  induction h with
  | there hp =>
    obtain ⟨rest, rfl⟩ := hq
    exact tree.isDirectory_of_append hp
  | beneath hp hnew hname ih =>
    rcases List.prefix_concat_iff.1 hq with rfl | hq
    · exact absurd hnew hthere
    · exact ih hq

/-- Where nothing is, a directory is made if there is one around and the storage takes its name. -/
theorem makeDirectory_spec (tree : s.Tree) (hq : ∀ name ∈ q ++ [last], IsPlain name)
    (hnew : s.node? (q ++ [last]) = none) :
    Spec (· = s) (makeDirectory (.ofPath (q ++ [last])))
      (fun _ t => (s.isDirectory q = true ∧ takes last = true) ∧ t = s.put (q ++ [last]) .directory)
      (fun f _ => ¬ (s.isDirectory q = true ∧ takes last = true) ∧
        ∀ x, f ≠ .storage (.present x)) := by
  have found : Spec (· = s) (find (.ofPath (q ++ [last])))
      (fun found t => (s.isDirectory q = true ∧ takes last = true) ∧
        found = (⟨q, some last⟩, none) ∧ t = s)
      (fun f _ => ¬ (s.isDirectory q = true ∧ takes last = true) ∧
        ∀ x, f ≠ .storage (.present x)) := by
    refine Spec.read_bind ?_
    cases hl : s.locate (.ofPath (q ++ [last])) with
    | ok place =>
      obtain ⟨hdir, hlast, rfl⟩ := (locate_eq_ok tree hq).1 hl
      refine Spec.ofExcept_bind rfl (Spec.pure fun t ht => ⟨⟨hdir, hlast⟩, ?_, ht⟩)
      exact Prod.ext rfl hnew
    | error f =>
      refine Spec.ofExcept_fail rfl fun t _ => ⟨fun h => ?_, fun x => locate_ne_present hl x⟩
      have := (locate_eq_ok tree hq).2 ⟨h.1, h.2, rfl⟩
      rw [hl] at this
      cases this
  refine Spec.bind found fun found => ?_
  refine Spec.of_fact fun hok => Spec.of_fact fun hfound => ?_
  subst hfound
  exact Spec.update fun t ht => ⟨hok, by rw [ht]; rfl⟩

/-- A storage where the directory at a path was made. -/
structure Furnished (s t : Storage) (p : Path) : Prop where
  room : Room s p
  tree : t.Tree
  there : t.isDirectory p = true
  beyond : ∀ x : Path, p.length < x.length → t.node? x = s.node? x

/-- One more directory is made in one that was made, or was there. -/
theorem makeDirectory_furnished (tree : t.Tree) (hq : ∀ name ∈ q ++ [last], IsPlain name)
    (hroom : Room s q ↔ t.isDirectory q = true) (hnew : s.node? (q ++ [last]) = none)
    (hbeyond : ∀ x : Path, q.length < x.length → t.node? x = s.node? x) :
    Spec (· = t) (makeDirectory (.ofPath (q ++ [last])))
      (fun _ u => Furnished s u (q ++ [last]))
      (fun f _ => ¬ Room s (q ++ [last]) ∧ ∀ x, f ≠ .storage (.present x)) := by
  have hnew' : t.node? (q ++ [last]) = none := by rw [hbeyond _ (by simp), hnew]
  have hiff : Room s (q ++ [last]) ↔ t.isDirectory q = true ∧ takes last = true := by
    rw [room_concat hnew, hroom]
  refine (makeDirectory_spec tree hq hnew').post ?_ ?_
  · rintro _ u ⟨hok, rfl⟩
    refine ⟨hiff.2 hok, tree.put hok.1 hok.2 (.inl rfl), ?_, fun x hx => ?_⟩
    · exact isDirectory_iff.2 (node?_put_self (by simp))
    · rw [List.length_append, List.length_singleton] at hx
      rw [node?_put_of_ne, hbeyond x (by omega)]
      rintro rfl
      simp at hx
  · rintro f u ⟨hbad, hf⟩
    exact ⟨fun h => hbad (hiff.1 h), hf⟩

/-- The directories on the way are made before the last one, unless they are there. -/
theorem makeAll_concat (hq : q ≠ []) (hlast : IsPlain last) : makeAll [] (q ++ [last]).reverse = (do
    let found := (← Act.read).leads (.ofPath q)
    unless found do
      match ← (makeAll [] q.reverse).attempt with
      | .ok () | .error (.storage (.present _)) => pure ()
      | .error f => Act.fail f
    makeDirectory (.ofPath (q ++ [last]))) := by
  obtain ⟨next, rest, hrest⟩ := List.exists_cons_of_ne_nil (List.reverse_ne_nil_iff.2 hq)
  have hback : (next :: rest).reverse = q := by rw [← hrest, List.reverse_reverse]
  rw [List.reverse_concat, hrest]
  conv_lhs => unfold makeAll
  rw [hback, List.reverse_cons, hback]
  simp only [hlast.1, decide_false, Bool.and_false, Bool.false_eq_true, if_false]
  rfl

/-- **Directories are made just when there is room for them.** -/
theorem makeAll_spec (tree : s.Tree) (hq : ∀ name ∈ q, IsPlain name) (hne : q ≠ [])
    (hnew : s.node? q = none) :
    Spec (· = s) (makeAll [] q.reverse) (fun _ t => Furnished s t q)
      (fun f _ => ¬ Room s q ∧ ∀ x, f ≠ .storage (.present x)) := by
  induction q using List.reverseRecOn with
  | nil => exact absurd rfl hne
  | append_singleton q last ih =>
    rcases List.eq_nil_or_concat q with rfl | ⟨q', last', hq'⟩
    · -- the first name on the way
      rw [List.nil_append, List.reverse_singleton]
      exact makeDirectory_furnished (q := []) tree hq ⟨fun _ => by simp, fun h => .there h⟩ hnew
        fun x _ => rfl
    · have hqne : q ≠ [] := by simp [hq']
      have hplain : ∀ name ∈ q, IsPlain name := fun name hname => hq name (by simp [hname])
      have hleads : s.leads (.ofPath q) = s.has q := by
        rw [hq', List.concat_eq_append] at hplain ⊢
        exact leads_eq_has tree hplain
      rw [makeAll_concat hqne (hq last (by simp))]
      refine Spec.read_bind ?_
      rw [hleads]
      cases hhas : s.has q with
      | true =>
        -- what is there is a directory, or bars the way
        exact makeDirectory_furnished tree hq (room_of_has hhas) hnew fun x _ => rfl
      | false =>
        have hnone : s.node? q = none := by simpa [has] using hhas
        have hfar (hroom : ¬ Room s q) : ¬ Room s (q ++ [last]) := fun h =>
          hroom ((room_concat hnew).1 h).1
        have around := ih hplain hqne hnone
        refine Spec.bind (Spec.attempt_any (around.post (fun _ _ ht => ht)
          fun f _ ht => ⟨hfar ht.1, ht.2⟩)) fun result => ?_
        have finish : Spec (fun t => Furnished s t q) (makeDirectory (.ofPath (q ++ [last])))
            (fun _ u => Furnished s u (q ++ [last]))
            (fun f _ => ¬ Room s (q ++ [last]) ∧ ∀ x, f ≠ .storage (.present x)) := by
          refine Spec.each fun t ht => ?_
          have hiff : Room s q ↔ t.isDirectory q = true := ⟨fun _ => ht.there, fun _ => ht.room⟩
          exact makeDirectory_furnished ht.tree hq hiff hnew ht.beyond
        split
        · exact finish
        · exact fun t ht => absurd rfl (ht.2 _)
        · exact Spec.fail_bind fun t ht => ht

end HostRouting.EventLog.Storage
