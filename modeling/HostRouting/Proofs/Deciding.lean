import HostRouting.Proofs.Declared
import HostRouting.Proofs.Precedence
import HostRouting.Proofs.Stripping

/-!
# Which entries of an environment decide

An environment may declare a host or a port several times over, and it may hold entries that declare
nothing. For each of the two the last entry that gives a value decides, wherever it stands and
whatever comes after it. All other entries might as well not be there.
-/

namespace HostRouting.Declaration

open Text (Blank Trimmed)

/-! ## What an entry looks like that gives a value -/

/-- A sign of equality is no blank. -/
theorem not_mem_of_blank {s : String} (h : Blank s) : '=' ∉ s.toList := by
  intro hmem
  have hblank := h '=' hmem
  exact absurd hblank (by decide)

/-- **An entry gives a value when it is the name, a sign of equality and the value**, with nothing
but blanks around the two. -/
theorem gives_iff {s name v : String} :
    Gives s name v ↔ Trimmed name ∧ '=' ∉ name.toList ∧ Trimmed v ∧ v ≠ "" ∧
      ∃ a b c d, s = a ++ name ++ b ++ "=" ++ (c ++ v ++ d) ∧
        Blank a ∧ Blank b ∧ Blank c ∧ Blank d := by
  constructor
  · rintro ⟨key, text, rfl, hkey, hname, hvalue, hne⟩
    obtain ⟨hbare, a, b, rfl, ha, hb⟩ := Text.strip_eq_iff.1 hname
    obtain ⟨hbare', c, d, rfl, hc, hd⟩ := Text.strip_eq_iff.1 hvalue
    refine ⟨hbare, ?_, hbare', hne, a, b, c, d, rfl, ha, hb, hc, hd⟩
    intro hmem
    exact hkey (by simp [hmem])
  · rintro ⟨hname, hsign, hvalue, hne, a, b, c, d, rfl, ha, hb, hc, hd⟩
    refine ⟨a ++ name ++ b, c ++ v ++ d, rfl, ?_, ?_, ?_, hne⟩
    · simp [hsign, not_mem_of_blank ha, not_mem_of_blank hb]
    · exact Text.strip_eq_iff.2 ⟨hname, a, b, rfl, ha, hb⟩
    · exact Text.strip_eq_iff.2 ⟨hvalue, c, d, rfl, hc, hd⟩

/-! ## The entry that decides -/

/-- The entry gives some value for a name. -/
def Concerns (s name : String) : Prop := ∃ v, Gives s name v

/-- An entry with the name before its first sign of equality gives a value just when what follows is
not blank. -/
theorem concerns_iff_not_blank {s name : String} :
    Concerns s name ↔ ∃ key text, s = key ++ "=" ++ text ∧ '=' ∉ key.toList ∧
      Text.strip key = name ∧ ¬ Blank text := by
  constructor
  · rintro ⟨v, key, text, hs, hkey, hname, rfl, hne⟩
    exact ⟨key, text, hs, hkey, hname, mt Text.strip_eq_empty_iff.2 hne⟩
  · rintro ⟨key, text, hs, hkey, hname, hblank⟩
    exact ⟨Text.strip text, key, text, hs, hkey, hname, rfl, mt Text.strip_eq_empty_iff.1 hblank⟩

theorem concerns_iff {s name : String} :
    Concerns s name ↔ Prod.fst <$> entry? s = some name := by
  constructor
  · rintro ⟨v, hv⟩
    rw [entry?_eq_some_iff.2 hv]
    rfl
  · intro h
    obtain ⟨⟨_, v⟩, he, rfl⟩ := Option.map_eq_some_iff.1 h
    exact ⟨v, entry?_eq_some_iff.1 he⟩

instance (s name : String) : Decidable (Concerns s name) := decidable_of_iff' _ concerns_iff

/-- The entry at place `k` gives a value for a name, and no later one does. -/
def Decides (entries : List String) (name : String) (k : ℕ) : Prop :=
  (∃ s ∈ entries[k]?, Concerns s name) ∧ ∀ t ∈ entries.drop (k + 1), ¬ Concerns t name

instance (entries : List String) (name : String) (k : ℕ) : Decidable (Decides entries name k) :=
  inferInstanceAs (Decidable (_ ∧ _))

section

variable {entries : List String} {s name v : String} {k : ℕ}

theorem Decides.lt_length (h : Decides entries name k) : k < entries.length := by
  obtain ⟨⟨s, hs, -⟩, -⟩ := h
  exact (List.getElem?_eq_some_iff.1 hs).1

/-- What is declared is what the deciding entry gives. -/
theorem declares_iff_decides :
    Declares entries name v ↔ ∃ k s, Decides entries name k ∧ entries[k]? = some s ∧
      Gives s name v := by
  constructor
  · rintro ⟨before, s, after, rfl, hs, hlater⟩
    have hat : (before ++ s :: after)[before.length]? = some s := by simp
    refine ⟨before.length, s, ⟨⟨s, hat, v, hs⟩, ?_⟩, hat, hs⟩
    intro t ht
    rw [List.drop_append, List.drop_of_length_le (by omega), Nat.add_sub_cancel_left] at ht
    rintro ⟨w, hw⟩
    exact hlater t ht w hw
  · rintro ⟨k, s, ⟨-, hlater⟩, hat, hs⟩
    obtain ⟨hk, rfl⟩ := List.getElem?_eq_some_iff.1 hat
    refine ⟨entries.take k, entries[k], entries.drop (k + 1), ?_, hs, ?_⟩
    · rw [← List.drop_eq_getElem_cons hk, List.take_append_drop]
    · intro t ht w hw
      exact hlater t ht ⟨w, hw⟩

/-- An entry at the end decides if it gives a value. -/
theorem decides_concat_of_concerns (hs : Concerns s name) :
    Decides (entries ++ [s]) name entries.length := by
  refine ⟨⟨s, by simp, hs⟩, ?_⟩
  intro t ht
  rw [List.drop_of_length_le (by simp)] at ht
  cases ht

/-- The one that decided before does so otherwise. -/
theorem Decides.concat (h : Decides entries name k) (hs : ¬ Concerns s name) :
    Decides (entries ++ [s]) name k := by
  have hk : k < entries.length := h.lt_length
  obtain ⟨⟨t, ht, hgives⟩, hlater⟩ := h
  refine ⟨⟨t, ?_, hgives⟩, ?_⟩
  · rw [List.getElem?_append_left hk]
    exact ht
  · intro u hu
    rw [List.drop_append_of_le_length (by omega)] at hu
    rcases List.mem_append.1 hu with hu | hu
    · exact hlater u hu
    · rw [List.mem_singleton.1 hu]
      exact hs

/-! ## Entries that do not count -/

/-- The entries at the places that are kept. -/
def keptAt (keep : ℕ → Bool) (entries : List String) : List String :=
  chosen (fun before _ => keep before.length) entries

theorem keptAt_concat (keep : ℕ → Bool) (entries : List String) (s : String) :
    keptAt keep (entries ++ [s]) = keptAt keep entries ++ if keep entries.length then [s] else [] :=
  chosen_concat ..

theorem ofEntries_concat (entries : List String) (s : String) :
    ofEntries (entries ++ [s]) = (ofEntries entries).add s := by
  simp [ofEntries, addAll]

namespace Tracks

variable {field : Declaration → String}

/-- A field is empty as long as no entry gives a value for it. -/
theorem eq_empty_iff_concerns (t : Tracks field name) :
    field (ofEntries entries) = "" ↔ ∀ s ∈ entries, ¬ Concerns s name := by
  induction entries using List.reverseRecOn with
  | nil => exact iff_of_true t.empty (by simp)
  | append_singleton entries s ih =>
    rw [ofEntries_concat]
    by_cases hs : Concerns s name
    · obtain ⟨v, hv⟩ := hs
      rw [t.given hv]
      refine iff_of_false hv.ne_empty ?_
      intro hnone
      exact hnone s (by simp) ⟨v, hv⟩
    · rw [t.kept (not_exists.1 hs), ih]
      constructor
      · intro hnone u hu
        rcases List.mem_append.1 hu with hu | hu
        · exact hnone u hu
        · rw [List.mem_singleton.1 hu]
          exact hs
      · intro hnone u hu
        exact hnone u (List.mem_append_left _ hu)

/-- Only the entry that decides on a field has to be kept. -/
theorem ofEntries_keptAt (t : Tracks field name) {keep : ℕ → Bool}
    (hkeep : ∀ k, Decides entries name k → keep k = true) :
    field (ofEntries (keptAt keep entries)) = field (ofEntries entries) := by
  induction entries using List.reverseRecOn with
  | nil => rfl
  | append_singleton entries s ih =>
    rw [keptAt_concat, ofEntries_concat]
    by_cases hs : Concerns s name
    · -- the last entry decides, so it is kept
      rw [hkeep _ (decides_concat_of_concerns hs), if_pos rfl, ofEntries_concat]
      obtain ⟨v, hv⟩ := hs
      rw [t.given hv, t.given hv]
    · have hrest := ih fun k hk => hkeep k (hk.concat hs)
      rw [t.kept (not_exists.1 hs), ← hrest]
      by_cases hk : keep entries.length = true
      · rw [if_pos hk, ofEntries_concat, t.kept (not_exists.1 hs)]
      · rw [if_neg hk, List.append_nil]

/-- What comes later counts if it declares anything for a field. -/
theorem ofEntries_append (t : Tracks field name) (xs ys : List String) :
    field (ofEntries (xs ++ ys)) =
      if field (ofEntries ys) = "" then field (ofEntries xs) else field (ofEntries ys) := by
  induction ys using List.reverseRecOn with
  | nil =>
    have hnone : field (ofEntries []) = "" := t.empty
    rw [List.append_nil, if_pos hnone]
  | append_singleton ys s ih =>
    rw [← List.append_assoc, ofEntries_concat, ofEntries_concat]
    by_cases hs : Concerns s name
    · obtain ⟨v, hv⟩ := hs
      rw [t.given hv, t.given hv, if_neg hv.ne_empty]
    · rw [t.kept (not_exists.1 hs), t.kept (not_exists.1 hs), ih]

end Tracks

end

/-! ## The route that is built -/

/-- What an environment declares about a route. -/
inductive Field where
  | host
  | port
  deriving DecidableEq, Repr

namespace Field

/-- The name under which it is declared. -/
def name : Field → String
  | host => hostName
  | port => portName

/-- Its place in a declaration. -/
def inDeclaration : Field → Declaration → String
  | host, d => d.host
  | port, d => d.port

/-- Its place in a route. -/
def of : Field → Route → Json
  | host, r => .str r.host
  | port, r => r.endpoint.port

theorem of_route (f : Field) (d : Declaration) : f.of d.route = .str (f.inDeclaration d) := by
  cases f <;> rfl

theorem tracks (f : Field) : Tracks f.inDeclaration f.name := by
  cases f with
  | host => exact host_tracks
  | port => exact port_tracks

end Field

/-- There is nothing else in a declaration. -/
theorem eq_of_fields {d e : Declaration}
    (h : ∀ f : Field, f.inDeclaration d = f.inDeclaration e) : d = e := by
  cases d
  cases e
  obtain rfl := h .host
  obtain rfl := h .port
  rfl

/-- The route that an environment of texts declares. -/
def built (entries : List String) : Route := (ofEntries entries).route

/-- **The last entry that gives a host decides on the host, and so for the port.** Building never
fails on texts. A field has the value that its deciding entry gives, and is empty if no entry gives
one. The entries that do not decide on a field may be left out, any number of them at once. Of two
environments in a row the second counts if it declares the field, and the first otherwise. -/
theorem built_by_last (xs ys : List String) :
    (ofValues {} (xs.map .str)).map route = .ok (built xs) ∧
      (∀ f : Field,
        (∀ v, f.of (built xs) = .str v ∧ v ≠ "" ↔
          ∃ k s, Decides xs f.name k ∧ xs[k]? = some s ∧ Gives s f.name v) ∧
        (f.of (built xs) = .str "" ↔ ∀ s ∈ xs, ¬ Concerns s f.name) ∧
        (∀ keep : ℕ → Bool, (∀ k, Decides xs f.name k → keep k = true) →
          f.of (built (keptAt keep xs)) = f.of (built xs)) ∧
        f.of (built (xs ++ ys)) =
          if f.of (built ys) = .str "" then f.of (built xs) else f.of (built ys)) ∧
      ∀ keep : ℕ → Bool, (∀ f : Field, ∀ k, Decides xs f.name k → keep k = true) →
        built (keptAt keep xs) = built xs := by
  refine ⟨?_, fun f => ⟨fun v => ?_, ?_, fun keep hkeep => ?_, ?_⟩, fun keep hkeep => ?_⟩
  · rw [ofValues_texts]
    rfl
  · rw [← declares_iff_decides, f.tracks.declares_iff, built, f.of_route, Json.str.injEq]
  · rw [← f.tracks.eq_empty_iff_concerns, built, f.of_route, Json.str.injEq]
  · rw [built, built, f.of_route, f.of_route, f.tracks.ofEntries_keptAt hkeep]
  · simp only [built, f.of_route, Json.str.injEq]
    rw [f.tracks.ofEntries_append]
    exact apply_ite Json.str _ _ _
  · have hsame : ofEntries (keptAt keep xs) = ofEntries xs :=
      eq_of_fields fun f => f.tracks.ofEntries_keptAt (hkeep f)
    rw [built, built, hsame]

/-- The host is declared twice, the second time with blanks of several kinds and a sign of equality
in the value. Nothing after that declares anything. -/
def redeclared : List String :=
  ["VIRTUAL_HOST=one", "VIRTUAL_PORT= 80", "\u3000VIRTUAL_HOST\t=\u2003a = b\u00a0",
    "VIRTUAL_HOST=\u2028", "VIRTUAL_PORT", "virtual_port=81"]

/-- The third entry decides on the host and the second on the port, so those two are enough. -/
theorem redeclared_built_by_last :
    (∀ f : Field, ∀ k, Decides redeclared f.name k → (k == 1 || k == 2) = true) ∧
      built redeclared = { host := "a = b", endpoint := { port := .str "80" } } ∧
      keptAt (fun k => k == 1 || k == 2) redeclared =
        ["VIRTUAL_PORT= 80", "\u3000VIRTUAL_HOST\t=\u2003a = b\u00a0"] ∧
      built (keptAt (fun k => k == 1 || k == 2) redeclared) = built redeclared := by
  have hplaces : ∀ f : Field, ∀ k < redeclared.length,
      Decides redeclared f.name k → (k == 1 || k == 2) = true := by
    intro f
    cases f <;> decide +kernel
  have hkeep : ∀ f : Field, ∀ k, Decides redeclared f.name k → (k == 1 || k == 2) = true :=
    fun f k hk => hplaces f k hk.lt_length hk
  exact ⟨hkeep, by decide +kernel, by decide +kernel, (built_by_last redeclared []).2.2 _ hkeep⟩

end HostRouting.Declaration
