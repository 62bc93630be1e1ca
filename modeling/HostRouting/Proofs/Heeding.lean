import HostRouting.Proofs.Chronicle

/-!
# Events and passes in a chronicle

What a chronicle tells of the events that were read and of the passes that were made: whether each
entry of a kind has been followed by a pass, and whether something was there that would cause one.
-/

namespace HostRouting

/-! ## What the chronicle tells of a connection -/

/-- A pass has to be made after the event. -/
def Event.isLifecycle (e : Event) : Bool :=
  match e.status.isOneOf Event.lifecycle with
  | .ok b => b
  | .error _ => false

/-- The status and the id are texts. -/
def Event.Textual (e : Event) : Prop :=
  (∃ status, e.status = .str status) ∧ ∃ id, e.containerId = .str id

/-- An event with texts can be refused. -/
theorem Event.Textual.refusal {e : Event} (he : e.Textual) :
    ∃ entry, Mailbox.refusal e = .ok entry := by
  obtain ⟨-, id, hid⟩ := he
  rw [Mailbox.refusal, hid]
  exact ⟨_, rfl⟩

namespace Entry

variable {ω : Type}

/-- A connection was made. -/
def isConnection : Entry ω → Bool
  | deed (.connected _) => true
  | _ => false

/-- An event of the lifecycle was read. -/
def isReading : Entry ω → Bool
  | offered _ e _ => e.isLifecycle
  | _ => false

/-- An event of the lifecycle was taken out of the mailbox. -/
def isTaking : Entry ω → Bool
  | deed (.took (some (some e))) => e.isLifecycle
  | _ => false

/-- A pass begins. -/
def isListing : Entry ω → Bool
  | deed (.began (.list _)) => true
  | _ => false

/-- Nothing was in the mailbox. -/
def isIdle : Entry ω → Bool
  | deed (.took none) => true
  | _ => false

/-- An entry that says that nothing was in the mailbox. -/
theorem eq_of_isIdle {x : Entry ω} (h : x.isIdle = true) : x = .deed (.took none) := by
  match x with
  | deed (.took none) => rfl

/-- None of those that matter. -/
def isPlain (x : Entry ω) : Bool := !x.isConnection && !x.isReading && !x.isTaking && !x.isListing

end Entry

namespace Chronicle

variable {ω : Type} {es : List (Entry ω)} {x : Entry ω}

/-- A pass has begun after every entry for which one is due, but for those before the latest
reset. -/
def Followed (due reset : Entry ω → Bool) (es : List (Entry ω)) : Prop :=
  ∀ before x after, es = before ++ x :: after → due x = true →
    (∀ y ∈ after, reset y = false) → ∃ y ∈ after, y.isListing = true

/-- Every event of the lifecycle that was read on the present connection has been followed by a
pass. -/
def Heeded (es : List (Entry ω)) : Prop := Followed Entry.isReading Entry.isConnection es

/-- An event of the lifecycle was taken out of the mailbox, and its pass has not begun. -/
def PassDue (es : List (Entry ω)) : Prop :=
  ∃ before x after, es = before ++ x :: after ∧ x.isTaking = true ∧
    ∀ y ∈ after, y.isListing = false

/-- Something will cause a pass after an event was offered to a mailbox: the event itself because
there is room for it, an event in the mailbox, or one that was taken out before. -/
def Covered (es : List (Entry ω)) (box : Mailbox) : Prop :=
  box.isFull = false ∨ (∃ e, some e ∈ box.items ∧ e.isLifecycle = true) ∨ PassDue es

/-- The latest event of the lifecycle that was read on the present connection, if there is one, was
covered. -/
def LatestCovered (es : List (Entry ω)) : Prop :=
  ∀ before q e box after, es = before ++ .offered q e box :: after → e.isLifecycle = true →
    (∀ y ∈ after, y.isConnection = false ∧ y.isReading = false) → Covered before box

/-! ## One more entry -/

/-- One more entry after those for which a pass is due. -/
theorem followed_concat {due reset : Entry ω → Bool} : Followed due reset (es ++ [x]) ↔
    due x = false ∧ (reset x = true ∨ x.isListing = true ∨ Followed due reset es) := by
  constructor
  · intro h
    constructor
    · cases hx : due x with
      | false => rfl
      | true =>
        obtain ⟨y, hy, -⟩ := h es x [] rfl hx (by simp)
        cases hy
    · by_cases hc : reset x = true
      · exact .inl hc
      · by_cases hl : x.isListing = true
        · exact .inr (.inl hl)
        · refine .inr (.inr fun before r after hes hr hafter => ?_)
          obtain ⟨y, hy, hyl⟩ := h before r (after ++ [x]) (by simp [hes]) hr fun y hy => by
            rcases List.mem_append.1 hy with hy | hy
            · exact hafter y hy
            · rw [List.mem_singleton.1 hy]
              simpa using hc
          rcases List.mem_append.1 hy with hy | hy
          · exact ⟨y, hy, hyl⟩
          · rw [List.mem_singleton.1 hy] at hyl
            exact absurd hyl hl
  · rintro ⟨hx, h⟩ before r after hes hr hafter
    -- the entry in question is the new one, or it was there before
    rcases concat_eq_part.1 hes with ⟨-, -, rfl⟩ | ⟨rest, rfl, hold⟩
    · rw [hx] at hr
      cases hr
    · rcases h with hc | hl | h
      · rw [hafter x (by simp)] at hc
        cases hc
      · exact ⟨x, by simp, hl⟩
      · obtain ⟨y, hy, hyl⟩ := h before r rest hold hr fun y hy => hafter y (by simp [hy])
        exact ⟨y, by simp [hy], hyl⟩

/-- One more entry after the events that were read. -/
theorem heeded_concat : Heeded (es ++ [x]) ↔
    x.isReading = false ∧ (x.isConnection = true ∨ x.isListing = true ∨ Heeded es) :=
  followed_concat

/-- One more entry after the last event that was taken. -/
theorem passDue_concat : PassDue (es ++ [x]) ↔
    x.isTaking = true ∨ x.isListing = false ∧ PassDue es := by
  constructor
  · rintro ⟨before, r, after, hes, hr, hafter⟩
    rcases concat_eq_part.1 hes with ⟨-, -, rfl⟩ | ⟨rest, rfl, hold⟩
    · exact .inl hr
    · exact .inr ⟨hafter x (by simp), before, r, rest, hold, hr, fun y hy => hafter y (by simp [hy])⟩
  · rintro (hx | ⟨hx, before, r, after, hes, hr, hafter⟩)
    · exact ⟨es, x, [], rfl, hx, by simp⟩
    · refine ⟨before, r, after ++ [x], by simp [hes], hr, fun y hy => ?_⟩
      rcases List.mem_append.1 hy with hy | hy
      · exact hafter y hy
      · rw [List.mem_singleton.1 hy]
        exact hx

/-- One more entry after the latest event that was read. -/
theorem latestCovered_concat : LatestCovered (es ++ [x]) ↔
    (∀ q e box, x = .offered q e box → e.isLifecycle = true → Covered es box) ∧
      (x.isConnection = true ∨ x.isReading = true ∨ LatestCovered es) := by
  constructor
  · intro h
    constructor
    · rintro q e box rfl he
      exact h es q e box [] rfl he (by simp)
    · by_cases hc : x.isConnection = true
      · exact .inl hc
      · by_cases hl : x.isReading = true
        · exact .inr (.inl hl)
        · refine .inr (.inr fun before q e box after hes he hafter => ?_)
          refine h before q e box (after ++ [x]) (by simp [hes]) he fun y hy => ?_
          rcases List.mem_append.1 hy with hy | hy
          · exact hafter y hy
          · rw [List.mem_singleton.1 hy]
            exact ⟨by simpa using hc, by simpa using hl⟩
  · rintro ⟨hx, h⟩ before q e box after hes he hafter
    rcases concat_eq_part.1 hes with ⟨-, rfl, rfl⟩ | ⟨rest, rfl, hold⟩
    · exact hx q e box rfl he
    · rcases h with hc | hl | h
      · simp [(hafter x (by simp)).1] at hc
      · simp [(hafter x (by simp)).2] at hl
      · exact h before q e box rest hold he fun y hy => hafter y (by simp [hy])

end Chronicle

end HostRouting
