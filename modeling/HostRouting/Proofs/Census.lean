import HostRouting.Proofs.Heeding

/-!
# Containers and tables in a chronicle

What a chronicle tells of the containers and of the tables that were published. The table that was
published last is in step if a pass over the containers as they are would give it again.
-/

namespace HostRouting

/-! ## What the daemon says -/

/-- What the daemon says about the containers, whichever they are. It fails in ordinary ways only. -/
structure Census (ω : Type) where
  /-- The entries of the running containers. -/
  listing : ω → Except Fault (List Json)
  /-- The report on a container. -/
  report : ω → Json → Except Fault Json
  listing_ordinary : ∀ w, Ordinary (listing w)
  report_ordinary : ∀ w id, Ordinary (report w id)

namespace Census

variable {ω : Type} (census : Census ω)

/-- The ids of the running containers. -/
def ids (w : ω) : Except Fault (List Json) := do
  (← census.listing w).mapM fun e => e.required "Id"

/-- A container by its id. -/
def answer (w : ω) (id : Json) : Except Fault Container := do
  Container.ofInspection (← census.report w id)

/-- The table that a pass gives as long as these are the containers. -/
def table (ports : List String) (workers : Workers) (w : ω) : Except Fault Table :=
  Host.passOver ports workers (census.ids w) (census.answer w)

/-- It is the table of the listing and of the reports. -/
theorem table_eq_survey (ports : List String) (workers : Workers) (w : ω) :
    census.table ports workers w = Host.survey ports (census.ids w) (census.answer w) := by
  unfold table
  apply Host.passOver_eq_survey
  · apply (census.listing_ordinary w).bind
    intro l
    exact .mapM _ fun e _ => Json.required_ordinary e "Id"
  · intro id
    exact (census.report_ordinary w id).bind Container.ofInspection_ordinary

end Census

/-! ## Entries -/

namespace Entry

variable {ω : Type}

/-- The containers that are there from now on. -/
def changed? : Entry ω → Option ω
  | changed w => some w
  | _ => none

/-- The containers are others from now on. -/
def isChange (x : Entry ω) : Bool := x.changed?.isSome

/-- The table that is handed to the consumer. -/
def published? : Entry ω → Option Table
  | deed (.began (.publish t)) => some t
  | _ => none

/-- The watcher's mailbox was registered. -/
def isSubscription : Entry ω → Bool
  | deed (.done (.addListener _ _)) => true
  | _ => false

/-- An entry that changes nothing about containers, passes, tables and subscriptions. -/
def isAside (x : Entry ω) : Bool :=
  !x.isChange && !x.isListing && !x.published?.isSome && !x.isSubscription

/-- A subscription is no change of the containers. -/
theorem isChange_of_isSubscription {x : Entry ω} (h : x.isSubscription = true) :
    x.isChange = false := by
  match x with
  | deed (.done (.addListener _ _)) => rfl

end Entry

namespace Chronicle

variable {ω : Type} (w₀ : ω) {es : List (Entry ω)} {x : Entry ω}

/-! ## Containers and tables -/

/-- The containers as they are, where `w₀` were there at first. -/
def world (es : List (Entry ω)) : ω := (es.filterMap Entry.changed?).getLast?.getD w₀

/-- The table that was published last. -/
def published? (es : List (Entry ω)) : Option Table := (es.filterMap Entry.published?).getLast?

/-- The table that was published last is that of the containers as they are, if they have one. -/
def Synced (table : ω → Except Fault Table) (es : List (Entry ω)) : Prop :=
  ∀ t, table (world w₀ es) = .ok t → published? es = some t

/-- A pass has begun, and nothing has changed since the latest one began. -/
def Fresh (es : List (Entry ω)) : Prop :=
  (∃ y ∈ es, y.isListing = true) ∧ Followed Entry.isChange (fun _ => false) es

/-- Before a table was published, a pass had begun after every subscription. -/
def Attested (es : List (Entry ω)) : Prop :=
  ∀ before x after, es = before ++ x :: after → x.published?.isSome = true →
    Followed Entry.isSubscription (fun _ => false) before

/-- A pass has begun since the watcher subscribed, or `P` held when it did. -/
def Renewed (P : List (Entry ω) → Prop) (es : List (Entry ω)) : Prop :=
  ∃ before x after, es = before ++ x :: after ∧ x.isSubscription = true ∧
    (∀ y ∈ after, y.isSubscription = false) ∧ ((∃ y ∈ after, y.isListing = true) ∨ P before)

/-! ## More entries -/

/-- The containers after more entries, none of which is a change. -/
theorem world_append {after : List (Entry ω)} (h : ∀ y ∈ after, y.isChange = false) :
    world w₀ (es ++ after) = world w₀ es := by
  have hnone : after.filterMap Entry.changed? = [] := by
    rw [List.filterMap_eq_nil_iff]
    intro y hy
    simpa [Entry.isChange] using h y hy
  unfold world
  rw [List.filterMap_append, hnone, List.append_nil]

/-- The table after more entries, by none of which a table was published. -/
theorem published?_append {after : List (Entry ω)} (h : ∀ y ∈ after, y.published?.isSome = false) :
    published? (es ++ after) = published? es := by
  have hnone : after.filterMap Entry.published? = [] := by
    rw [List.filterMap_eq_nil_iff]
    intro y hy
    simpa using h y hy
  unfold published?
  rw [List.filterMap_append, hnone, List.append_nil]

/-- One more entry after the latest table. -/
theorem published?_concat {t : Table} (h : x.published? = some t) :
    published? (es ++ [x]) = some t := by
  unfold published?
  rw [List.filterMap_append, List.filterMap_cons_some h]
  simp

/-- One more entry after the latest pass. -/
theorem fresh_concat :
    Fresh (es ++ [x]) ↔ x.isChange = false ∧ (x.isListing = true ∨ Fresh es) := by
  unfold Fresh
  rw [followed_concat]
  constructor
  · rintro ⟨⟨y, hy, hyl⟩, hx, h⟩
    refine ⟨hx, ?_⟩
    by_cases hl : x.isListing = true
    · exact .inl hl
    · right
      constructor
      · rcases List.mem_append.1 hy with hy | hy
        · exact ⟨y, hy, hyl⟩
        · rw [List.mem_singleton.1 hy] at hyl
          exact absurd hyl hl
      · rcases h with h | h | h
        · cases h
        · exact absurd h hl
        · exact h
  · rintro ⟨hx, hl | ⟨⟨y, hy, hyl⟩, h⟩⟩
    · exact ⟨⟨x, by simp, hl⟩, hx, .inr (.inl hl)⟩
    · exact ⟨⟨y, by simp [hy], hyl⟩, hx, .inr (.inr h)⟩

/-- One more entry after the tables that were published. -/
theorem attested_concat : Attested (es ++ [x]) ↔
    (x.published?.isSome = true → Followed Entry.isSubscription (fun _ => false) es) ∧
      Attested es := by
  constructor
  · intro h
    constructor
    · exact h es x [] rfl
    · intro before y after hes hy
      exact h before y (after ++ [x]) (by simp [hes]) hy
  · rintro ⟨hx, h⟩ before y after hes hy
    rcases concat_eq_part.1 hes with ⟨-, rfl, rfl⟩ | ⟨rest, -, hold⟩
    · exact hx hy
    · exact h before y rest hold hy

/-- A table stays in step as long as nothing happens to the containers and to the table. -/
theorem synced_append {table : ω → Except Fault Table} {after : List (Entry ω)}
    (hchange : ∀ y ∈ after, y.isChange = false)
    (hpublish : ∀ y ∈ after, y.published?.isSome = false) :
    Synced w₀ table (es ++ after) ↔ Synced w₀ table es := by
  unfold Synced
  rw [world_append w₀ hchange, published?_append hpublish]

/-! ## After a subscription -/

section

variable {before after : List (Entry ω)}

/-- If every change since the subscription has been followed by a pass, and there was a pass, then
nothing has changed since the latest pass began. -/
theorem fresh_of_listing (h : Followed Entry.isChange Entry.isSubscription (before ++ x :: after))
    (hx : x.isSubscription = true) (hafter : ∀ y ∈ after, y.isSubscription = false)
    (hl : ∃ y ∈ after, y.isListing = true) : Fresh (before ++ x :: after) := by
  obtain ⟨l, hlm, hll⟩ := hl
  refine ⟨⟨l, by simp [hlm], hll⟩, ?_⟩
  intro b y a hes hy _
  -- the change came before the subscription, or after it
  rcases part_eq_part.1 hes with ⟨mid, rfl, rfl⟩ | ⟨rfl, rfl, rfl⟩ | ⟨mid, rfl, rfl⟩
  · apply h _ y a hes hy
    intro z hz
    exact hafter z (by simp [hz])
  · rw [Entry.isChange_of_isSubscription hx] at hy
    cases hy
  · exact ⟨l, by simp [hlm], hll⟩

/-- Without a pass since the subscription, nothing has changed since then. -/
theorem unchanged_of_not_listing
    (h : Followed Entry.isChange Entry.isSubscription (before ++ x :: after))
    (hafter : ∀ y ∈ after, y.isSubscription = false) (hl : ¬ ∃ y ∈ after, y.isListing = true) :
    ∀ y ∈ after, y.isChange = false := by
  intro y hy
  obtain ⟨s, t, rfl⟩ := List.append_of_mem hy
  by_contra hne
  obtain ⟨z, hz, hzl⟩ := h (before ++ x :: s) y t (by simp) (Bool.not_eq_false _ ▸ hne) fun z hz =>
    hafter z (by simp [hz])
  exact hl ⟨z, by simp [hz], hzl⟩

/-- Nor has a table been published since then. -/
theorem unpublished_of_not_listing (h : Attested (before ++ x :: after))
    (hx : x.isSubscription = true) (hl : ¬ ∃ y ∈ after, y.isListing = true) :
    ∀ y ∈ after, y.published?.isSome = false := by
  intro y hy
  obtain ⟨s, t, rfl⟩ := List.append_of_mem hy
  by_contra hne
  -- a table is attested by a pass between the subscription and the publishing
  have hsince := h (before ++ x :: s) y t (by simp) (Bool.not_eq_false _ ▸ hne)
  obtain ⟨z, hz, hzl⟩ := hsince before x s rfl hx fun _ _ => rfl
  exact hl ⟨z, by simp [hz], hzl⟩

end

section

variable {w₀} {table : ω → Except Fault Table}

/-- **If every change since the subscription has been followed by a pass, the table is in step if
and only if a pass has begun since the subscription or the table was in step then.** -/
theorem synced_iff_renewed (hbegun : ∃ y ∈ es, y.isSubscription = true)
    (hf : Followed Entry.isChange Entry.isSubscription es) (ha : Attested es)
    (hknown : Fresh es → Synced w₀ table es) :
    Synced w₀ table es ↔ Renewed (Synced w₀ table) es := by
  have parted {before after : List (Entry ω)} {x : Entry ω} (hes : es = before ++ x :: after)
      (hx : x.isSubscription = true) (hafter : ∀ y ∈ after, y.isSubscription = false) :
      Synced w₀ table es ↔ (∃ y ∈ after, y.isListing = true) ∨ Synced w₀ table before := by
    subst hes
    by_cases hl : ∃ y ∈ after, y.isListing = true
    · exact iff_of_true (hknown (fresh_of_listing hf hx hafter hl)) (.inl hl)
    · have hsame : Synced w₀ table (before ++ x :: after) ↔ Synced w₀ table before := by
        apply synced_append
        · intro y hy
          rcases List.mem_cons.1 hy with rfl | hy
          · exact Entry.isChange_of_isSubscription hx
          · exact unchanged_of_not_listing hf hafter hl y hy
        · intro y hy
          rcases List.mem_cons.1 hy with rfl | hy
          · match y with
            | .deed (.done (.addListener _ _)) => rfl
          · exact unpublished_of_not_listing ha hx hl y hy
      rw [hsame]
      exact (or_iff_right hl).symm
  constructor
  · intro h
    -- the list is parted at the latest subscription
    obtain ⟨before, x, after, hes, hx, hafter⟩ := exists_last_part hbegun
    exact ⟨before, x, after, hes, hx, hafter, (parted hes hx hafter).1 h⟩
  · rintro ⟨before, x, after, hes, hx, hafter, h⟩
    exact (parted hes hx hafter).2 h

/-- If nothing had changed between the latest pass and the subscription, the table is in step. -/
theorem synced_of_renewed (hf : Followed Entry.isChange Entry.isSubscription es)
    (hknown : Fresh es → Synced w₀ table es) (h : Renewed Fresh es) : Synced w₀ table es := by
  obtain ⟨before, x, after, rfl, hx, hafter, h⟩ := h
  apply hknown
  by_cases hl : ∃ y ∈ after, y.isListing = true
  · exact fresh_of_listing hf hx hafter hl
  · -- the latest pass is that before the subscription, and nothing has changed since
    obtain ⟨⟨l, hlm, hll⟩, hbefore⟩ := h.resolve_left hl
    have hsame := unchanged_of_not_listing hf hafter hl
    refine ⟨⟨l, by simp [hlm], hll⟩, ?_⟩
    intro b y a hes hy _
    rcases part_eq_part.1 hes with ⟨mid, rfl, rfl⟩ | ⟨rfl, rfl, rfl⟩ | ⟨mid, rfl, rfl⟩
    · rw [hsame y (by simp)] at hy
      cases hy
    · rw [Entry.isChange_of_isSubscription hx] at hy
      cases hy
    · obtain ⟨z, hz, hzl⟩ := hbefore b y mid rfl hy fun _ _ => rfl
      exact ⟨z, by simp [hz], hzl⟩

end

/-! ## What is known -/

/-- A pass has begun after every subscription, if `resumed` says so; and if nothing has changed
since the latest pass began, then `Q` holds of the containers and of the published table. -/
structure Knows (w₀ : ω) (resumed : Prop) (Q : ω → Option Table → Prop)
    (es : List (Entry ω)) : Prop where
  since : resumed → Followed Entry.isSubscription (fun _ => false) es
  seen : Fresh es → Q (world w₀ es) (published? es)

namespace Knows

variable {w₀ : ω} {resumed : Prop} {Q Q' : ω → Option Table → Prop}

/-- Less may be known. -/
theorem mono (h : Knows w₀ resumed Q es) (hQ : ∀ w p, Q w p → Q' w p) :
    Knows w₀ resumed Q' es where
  since := h.since
  seen hfresh := hQ _ _ (h.seen hfresh)

/-- A subscription changes nothing else. -/
theorem subscription (h : Knows w₀ False Q es) (hx : x.isSubscription = true) :
    Knows w₀ False Q (es ++ [x]) where
  since := False.elim
  seen hfresh := by
    match x with
    | .deed (.done (.addListener c q)) =>
      rw [fresh_concat] at hfresh
      rw [world_append w₀ (by simp [Entry.isChange, Entry.changed?]),
        published?_append (by simp [Entry.published?])]
      rcases hfresh.2 with hl | hfresh
      · cases hl
      · exact h.seen hfresh

/-- An entry that changes nothing. -/
theorem aside (h : Knows w₀ resumed Q es) (hx : x.isAside = true) :
    Knows w₀ resumed Q (es ++ [x]) := by
  simp only [Entry.isAside, Bool.and_eq_true, Bool.not_eq_true'] at hx
  obtain ⟨⟨⟨hchange, hlist⟩, hpublish⟩, hsub⟩ := hx
  constructor
  · intro hresumed
    rw [followed_concat]
    exact ⟨hsub, .inr (.inr (h.since hresumed))⟩
  · intro hfresh
    rw [fresh_concat, hlist] at hfresh
    rw [world_append w₀ (by simpa using hchange), published?_append (by simpa using hpublish)]
    rcases hfresh.2 with hl | hfresh
    · cases hl
    · exact h.seen hfresh

/-- A pass begins. -/
theorem listed (client : ClientId) (hQ : Q (world w₀ es) (published? es)) :
    Knows w₀ True Q (es ++ [.deed (.began (.list client))]) where
  since _ := by
    rw [followed_concat]
    exact ⟨rfl, .inr (.inl rfl)⟩
  seen _ := by
    rw [world_append w₀ (by simp [Entry.isChange, Entry.changed?]),
      published?_append (by simp [Entry.published?])]
    exact hQ

/-- The table of a pass is published. -/
theorem published {table : ω → Except Fault Table} {t : Table}
    (h : Knows w₀ True (fun w _ => table w = .ok t) es) :
    Knows w₀ False (fun w p => ∀ t, table w = .ok t → p = some t)
      (es ++ [.deed (.began (.publish t))]) where
  since := False.elim
  seen hfresh := by
    rw [fresh_concat] at hfresh
    rw [world_append w₀ (by simp [Entry.isChange, Entry.changed?]), published?_concat rfl]
    intro t' ht'
    rcases hfresh.2 with hl | hfresh
    · cases hl
    · rw [h.seen hfresh] at ht'
      cases ht'
      rfl

end Knows

end Chronicle

end HostRouting
