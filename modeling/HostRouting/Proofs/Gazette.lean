import HostRouting.Board
import HostRouting.Proofs.Heeding
import HostRouting.Proofs.Likeness
import HostRouting.Proofs.Outline

/-!
# The history of the published tables

The watcher publishes on a board, and a gazette is kept of all that it does: each deed has a page, which
also shows the board and the surroundings as they were then. The surroundings know nothing of either.
-/

namespace HostRouting

open Act (Spec Keeps failing never)
open Watcher (Call Deed)

/-! ## Boards -/

/-- The board tells of the issues so far, each with its time: how many there were, and which was the
last one. -/
structure Board.Tells (b : Board) (issues : List (String × Table)) : Prop where
  generation : b.generation = issues.length
  table : b.table = (issues.getLast?.map Prod.snd).getD .empty
  updatedAt : b.updatedAt = issues.getLast?.map Prod.fst

namespace Board.Tells

variable {b b' : Board} {issues : List (String × Table)}

/-- An empty board. -/
theorem nil : Board.Tells {} [] := ⟨rfl, rfl, rfl⟩

/-- One more issue. -/
theorem publish (h : b.Tells issues) (now : String) (t : Table) :
    (b.publish now t).Tells (issues ++ [(now, t)]) where
  generation := by simp [Board.publish, h.generation]
  table := by simp [Board.publish]
  updatedAt := by simp [Board.publish]

/-- There is no more to a board than what it tells. -/
theorem unique (h : b.Tells issues) (h' : b'.Tells issues) : b = b' := by
  obtain ⟨table, generation, updatedAt⟩ := b
  obtain ⟨table', generation', updatedAt'⟩ := b'
  obtain ⟨hg, ht, hu⟩ := h
  obtain ⟨hg', ht', hu'⟩ := h'
  dsimp only at *
  rw [hg, ht, hu, hg', ht', hu']

end Board.Tells

/-! ## Keeping a gazette -/

/-- A deed of the watcher, with the board and the surroundings as they were then. -/
structure Page (σ : Type) where
  deed : Deed
  board : Board
  outside : Surroundings σ

/-- A state with a board and a gazette beside it. -/
structure Gazette (σ : Type) where
  board : Board := {}
  pages : List (Page σ) := []
  rest : σ

namespace Surroundings

variable {σ : Type}

/-- The surroundings without the board and the gazette. -/
def bare (s : Surroundings (Gazette σ)) : Surroundings σ := { s with rest := s.rest.rest }

/-- Other surroundings beside the same board and gazette. -/
def bareBeside (t : Surroundings σ) (s : Surroundings (Gazette σ)) : Surroundings (Gazette σ) :=
  { t with rest := { s.rest with rest := t.rest } }

/-- One more page. -/
def enter (d : Deed) (s : Surroundings (Gazette σ)) : Surroundings (Gazette σ) :=
  s.mapRest fun g => { g with pages := g.pages ++ [⟨d, g.board, s.bare⟩] }

/-- Puts a table on the board. -/
def post (clock : Surroundings σ → String) (t : Table) (s : Surroundings (Gazette σ)) :
    Surroundings (Gazette σ) :=
  s.mapRest fun g => { g with board := g.board.publish (clock s.bare) t }

end Surroundings

/-- The act with its begin and its end in the gazette, of which it knows nothing. -/
def Act.gazetted {σ α : Type} (call : Call) (answer : α → Deed) (act : Act (Surroundings σ) α) :
    Act (Surroundings (Gazette σ)) α :=
  (act.within Surroundings.bare Surroundings.bareBeside).noted Surroundings.enter call answer

/-- The host with a gazette, which publishes on the board. -/
def Host.gazetted {σ : Type} (h : Host σ) (clock : Surroundings σ → String) : Host (Gazette σ) :=
  { h.told Act.gazetted with
    publish := fun t => (Act.update (Surroundings.post clock t)).noted Surroundings.enter (.publish t)
      fun _ => .done (.publish t) }

section

variable {σ α : Type}

/-- What an act adds to the gazette. -/
theorem Act.Spec.gazetted {call : Call} {answer : α → Deed} {act : Act (Surroundings σ) α}
    {F : Fault → Prop} (hact : Spec (fun _ => True) act (fun _ _ => True) fun f _ => F f)
    {P : Surroundings (Gazette σ) → Prop} {Q : α → Surroundings (Gazette σ) → Prop}
    {E : Fault → Surroundings (Gazette σ) → Prop}
    (hQ : ∀ a s t u, P s → t.rest.board = s.rest.board →
      t.rest.pages = s.rest.pages ++ [⟨.began call, s.rest.board, s.bare⟩] ++
        [⟨answer a, s.rest.board, u⟩] → Q a t)
    (hE : ∀ f s t u, F f → P s → t.rest.board = s.rest.board →
      t.rest.pages = s.rest.pages ++ [⟨.began call, s.rest.board, s.bare⟩] ++
        [⟨.failed call f, s.rest.board, u⟩] → E f t) :
    Spec P (act.gazetted call answer) Q E := by
  -- the act cannot touch the board or the gazette
  have inner : Spec (fun t => ∃ s, P s ∧ t.rest.board = s.rest.board ∧
        t.rest.pages = s.rest.pages ++ [⟨.began call, s.rest.board, s.bare⟩])
      (act.within Surroundings.bare Surroundings.bareBeside)
      (fun _ t => ∃ s, P s ∧ t.rest.board = s.rest.board ∧
        t.rest.pages = s.rest.pages ++ [⟨.began call, s.rest.board, s.bare⟩])
      fun f t => F f ∧ ∃ s, P s ∧ t.rest.board = s.rest.board ∧
        t.rest.pages = s.rest.pages ++ [⟨.began call, s.rest.board, s.bare⟩] :=
    hact.within (fun _ _ => trivial) (fun _ _ _ ht _ => ht) fun _ _ _ ht hs => ⟨hs, ht⟩
  refine inner.noted (fun s hs => ⟨s, hs, rfl, rfl⟩) ?_ ?_
  · rintro a t ⟨s, hs, hboard, hpages⟩
    refine hQ a s (t.enter (answer a)) t.bare hs hboard ?_
    rw [← hpages, ← hboard]
    rfl
  · rintro f t ⟨hf, s, hs, hboard, hpages⟩
    refine hE f s (t.enter (.failed call f)) t.bare hf hs hboard ?_
    rw [← hpages, ← hboard]
    rfl

/-- An act goes as it would without the gazette. -/
theorem Act.gazetted_likewise (call : Call) (answer : α → Deed) (act : Act (Surroundings σ) α) :
    Act.Likewise (fun s t => s.bare = t) (act.gazetted call answer) act := by
  rintro s _ rfl
  unfold Act.gazetted Act.noted
  rw [Act.outcome_bind, Act.outcome_update]
  dsimp only
  rw [Act.outcome_bind, Act.outcome_result, Act.outcome_within]
  have hbare : (Surroundings.enter (.began call) s).bare = s.bare := rfl
  dsimp only
  rw [hbare]
  match ho : act.outcome s.bare with
  | (.ok a, t) => exact ⟨rfl, rfl⟩
  | (.error f, t) => exact ⟨rfl, rfl⟩

/-- A pass goes as it would without the gazette. -/
theorem Host.gazetted_surveying (h : Host σ) (clock : Surroundings σ → String) :
    Host.Surveying (fun s t => s.bare = t) (h.gazetted clock) h where
  list c := Act.gazetted_likewise (.list c) (fun _ => .done (.list c)) (h.list c)
  inspect c id := Act.gazetted_likewise (.inspect c id) (fun _ => .done (.inspect c id)) (h.inspect c id)
  report e := Act.gazetted_likewise (.report e) (fun _ => .done (.report e)) (h.report e)

end

/-! ## Reading a gazette -/

namespace Watcher.Deed

/-- There is a reason to make a pass: a connection, or a container that was started or stopped. -/
def isCause : Deed → Bool
  | connected _ => true
  | took (some (some e)) => e.isLifecycle
  | _ => false

/-- A pass begins. -/
def isPass : Deed → Bool
  | began (.list _) => true
  | _ => false

/-- The table that was published. -/
def issued? : Deed → Option Table
  | done (.publish t) => some t
  | _ => none

/-- The event that was taken out of the mailbox. -/
def event? : Deed → Option Event
  | took (some item) => item
  | _ => none

/-- No cause, no pass and no table that was published. -/
structure IsQuiet (d : Deed) : Prop where
  cause : d.isCause = false
  pass : d.isPass = false
  issued : d.issued? = none

end Watcher.Deed

namespace Gazette

section

variable {σ : Type} (h : Host σ) (c : WatchConfig) (clock : Surroundings σ → String)

/-- What the pass that begins on the page comes to, made from the surroundings as they were then. -/
def pass? (p : Page σ) : Option (Except Fault Table) :=
  match p.deed with
  | .began (.list client) => some ((h.enumerate c.ports c.workers client).outcome p.outside).1
  | _ => none

/-- What the passes come to, in their order. -/
def passes (ps : List (Page σ)) : List (Except Fault Table) := ps.filterMap (pass? h c)

/-- The published tables with their times, in their order. -/
def issues (ps : List (Page σ)) : List (String × Table) :=
  ps.filterMap fun p => p.deed.issued?.map (clock p.outside, ·)

/-- The causes, written `false`, and the passes, written `true`, in their order. -/
def beats (ps : List (Page σ)) : List Bool :=
  (ps.filter fun p => p.deed.isCause || p.deed.isPass).map fun p => p.deed.isPass

/-- The events that were taken, in their order. -/
def events (ps : List (Page σ)) : List Event := ps.filterMap fun p => p.deed.event?

/-- All events that were taken have texts. -/
def Textual (ps : List (Page σ)) : Prop := ∀ e ∈ events ps, e.Textual

/-- At every moment the board told of the issues so far. -/
def Attested (ps : List (Page σ)) : Prop :=
  ∀ before p after, ps = before ++ p :: after → p.board.Tells (issues clock (before ++ [p]))

variable {h c clock} {ps : List (Page σ)} {p : Page σ}

theorem passes_append (qs : List (Page σ)) : passes h c (ps ++ qs) = passes h c ps ++ passes h c qs :=
  List.filterMap_append

theorem issues_append (qs : List (Page σ)) :
    issues clock (ps ++ qs) = issues clock ps ++ issues clock qs :=
  List.filterMap_append

theorem beats_append (qs : List (Page σ)) : beats (ps ++ qs) = beats ps ++ beats qs := by
  unfold beats
  rw [List.filter_append, List.map_append]

theorem Textual.of_append {qs : List (Page σ)} (ht : Textual (ps ++ qs)) : Textual ps :=
  fun e he => ht e (by rw [events, List.filterMap_append]; exact List.mem_append_left _ he)

/-- A page that is no pass. -/
theorem passes_of_not_pass (hp : p.deed.isPass = false) : passes h c [p] = [] := by
  obtain ⟨d, b, s⟩ := p
  unfold passes pass?
  cases d with
  | began call => cases call <;> first | rfl | cases hp
  | _ => rfl

theorem issues_of_not_issued (hp : p.deed.issued? = none) : issues clock [p] = [] := by
  simp [issues, hp]

theorem beats_of_quiet (hcause : p.deed.isCause = false) (hpass : p.deed.isPass = false) :
    beats [p] = [] := by
  simp [beats, hcause, hpass]

/-- One more page. -/
theorem Attested.concat (ha : Attested clock ps) (hp : p.board.Tells (issues clock (ps ++ [p]))) :
    Attested clock (ps ++ [p]) := by
  intro before q after heq
  rcases concat_eq_part.1 heq with ⟨rfl, rfl, rfl⟩ | ⟨rest, rfl, rfl⟩
  · exact hp
  · exact ha before q rest rfl

end

end Gazette

/-! ## The books -/

namespace Activity

/-- The cause whose pass has not begun. -/
def upbeat : Activity → List Bool
  | arrived _ | due => [false]
  | _ => []

/-- The table that was not yet published. -/
def brought : Activity → List Table
  | bringing t => [t]
  | _ => []

/-- What is going on after a pass. -/
def found : Except Fault Table → Activity
  | .ok t => bringing t
  | .error _ => calm

end Activity

namespace Gazette

section

variable {σ : Type} (h : Host σ) (c : WatchConfig) (clock : Surroundings σ → String)

/-- The gazette and the board agree: causes and passes take turns, what is published are the tables of
the passes that gave one, and the board tells of them at every moment. -/
structure Reckoned (a : Activity) (b : Board) (ps : List (Page σ)) : Prop where
  turns : Textual ps →
    beats ps = (List.replicate (passes h c ps).length [false, true]).flatten ++ a.upbeat
  issued : (issues clock ps).map Prod.snd ++ a.brought = (passes h c ps).filterMap Except.toOption
  attested : Attested clock ps
  board : b.Tells (issues clock ps)

end

namespace Reckoned

variable {σ : Type} {h : Host σ} {c : WatchConfig} {clock : Surroundings σ → String}
  {a a' : Activity} {b : Board} {ps : List (Page σ)} {p : Page σ}

/-- Nothing has happened yet. -/
theorem nil : Reckoned h c clock .calm {} [] where
  turns _ := rfl
  issued := rfl
  attested before p after heq := by simp at heq
  board := .nil

/-- Of what is going on only the pending cause and the unpublished table matter. -/
theorem during (hr : Reckoned h c clock a b ps) (hupbeat : a'.upbeat = a.upbeat)
    (hbrought : a'.brought = a.brought) : Reckoned h c clock a' b ps where
  turns := by
    rw [hupbeat]
    exact hr.turns
  issued := by
    rw [hbrought]
    exact hr.issued
  attested := hr.attested
  board := hr.board

/-- A page that shows the same board. -/
theorem attested_concat (hr : Reckoned h c clock a b ps) (hissued : p.deed.issued? = none)
    (hb : p.board = b) :
    Attested clock (ps ++ [p]) ∧ issues clock (ps ++ [p]) = issues clock ps := by
  have hsame : issues clock (ps ++ [p]) = issues clock ps := by
    rw [issues_append, issues_of_not_issued hissued, List.append_nil]
  refine ⟨hr.attested.concat ?_, hsame⟩
  rw [hsame, hb]
  exact hr.board

/-- A quiet deed. -/
theorem quiet (hr : Reckoned h c clock a b ps) (hq : p.deed.IsQuiet) (hb : p.board = b) :
    Reckoned h c clock a b (ps ++ [p]) := by
  obtain ⟨hattested, hissues⟩ := hr.attested_concat hq.issued hb
  have hpasses : passes h c (ps ++ [p]) = passes h c ps := by
    rw [passes_append, passes_of_not_pass hq.pass, List.append_nil]
  refine ⟨fun ht => ?_, ?_, hattested, ?_⟩
  · rw [beats_append, beats_of_quiet hq.cause hq.pass, List.append_nil, hpasses]
    exact hr.turns ht.of_append
  · rw [hissues, hpasses]
    exact hr.issued
  · rw [hissues]
    exact hr.board

/-- A cause, after which a pass is pending. -/
theorem cause (hr : Reckoned h c clock .calm b ps) (hcause : p.deed.isCause = true)
    (hpass : p.deed.isPass = false) (hissued : p.deed.issued? = none) (hb : p.board = b) :
    Reckoned h c clock .due b (ps ++ [p]) := by
  obtain ⟨hattested, hissues⟩ := hr.attested_concat hissued hb
  have hpasses : passes h c (ps ++ [p]) = passes h c ps := by
    rw [passes_append, passes_of_not_pass hpass, List.append_nil]
  refine ⟨fun ht => ?_, ?_, hattested, ?_⟩
  · have hbeat : beats [p] = [false] := by simp [beats, hcause, hpass]
    rw [beats_append, hr.turns ht.of_append, hbeat, hpasses]
    simp [Activity.upbeat]
  · rw [hissues, hpasses]
    exact hr.issued
  · rw [hissues]
    exact hr.board

/-- The pass that was pending begins. -/
theorem pass (hr : Reckoned h c clock .due b ps) {client : ClientId}
    (hp : p.deed = .began (.list client)) (hb : p.board = b) :
    Reckoned h c clock (.found ((h.enumerate c.ports c.workers client).outcome p.outside).1) b
      (ps ++ [p]) := by
  obtain ⟨hattested, hissues⟩ := hr.attested_concat (p := p) (by rw [hp]; rfl) hb
  have hpasses : passes h c (ps ++ [p]) =
      passes h c ps ++ [((h.enumerate c.ports c.workers client).outcome p.outside).1] := by
    rw [passes_append]
    simp [passes, pass?, hp]
  refine ⟨fun ht => ?_, ?_, hattested, ?_⟩
  · have hbeat : beats [p] = [true] := by
      simp [beats, hp, Deed.isCause, Deed.isPass]
    rw [beats_append, hr.turns ht.of_append, hbeat, hpasses, List.length_append,
      List.length_singleton, List.replicate_succ', List.flatten_append]
    cases ((h.enumerate c.ports c.workers client).outcome p.outside).1 <;>
      simp [Activity.upbeat, Activity.found]
  · rw [hissues, hpasses, List.filterMap_append, ← hr.issued]
    cases ((h.enumerate c.ports c.workers client).outcome p.outside).1 <;>
      simp [Activity.brought, Activity.found, Except.toOption]
  · rw [hissues]
    exact hr.board

/-- The table that a pass gave is published. -/
theorem issue {t : Table} (hr : Reckoned h c clock (.bringing t) b ps)
    (hp : p.deed = .done (.publish t)) (hb : p.board = b.publish (clock p.outside) t) :
    Reckoned h c clock .calm p.board (ps ++ [p]) := by
  have hissues : issues clock (ps ++ [p]) =
      issues clock ps ++ [(clock p.outside, t)] := by
    rw [issues_append]
    simp [issues, hp, Deed.issued?]
  have hpasses : passes h c (ps ++ [p]) = passes h c ps := by
    rw [passes_append, passes_of_not_pass (by rw [hp]; rfl), List.append_nil]
  have hboard : p.board.Tells (issues clock (ps ++ [p])) := by
    rw [hissues, hb]
    exact hr.board.publish _ _
  refine ⟨fun ht => ?_, ?_, hr.attested.concat hboard, hboard⟩
  · rw [beats_append, beats_of_quiet (by rw [hp]; rfl) (by rw [hp]; rfl), List.append_nil, hpasses]
    exact hr.turns ht.of_append
  · rw [hissues, hpasses, ← hr.issued]
    simp [Activity.brought]

/-- Something was taken out of the mailbox, or nothing. -/
theorem took (hr : Reckoned h c clock .calm b ps) (item : Option (Option Event))
    (hp : p.deed = .took item) (hb : p.board = b) :
    Reckoned h c clock (.after item) b (ps ++ [p]) := by
  -- an event without texts tells nothing about causes and passes
  have lost (e : Event) (hitem : item = some (some e)) (he : ¬ e.Textual) :
      Reckoned h c clock .raised b (ps ++ [p]) := by
    obtain ⟨hattested, hissues⟩ := hr.attested_concat (p := p) (by rw [hp]; rfl) hb
    have hevent : e ∈ events (ps ++ [p]) := by simp [events, hp, hitem, Deed.event?]
    refine ⟨fun ht => absurd (ht e hevent) he, ?_, hattested, ?_⟩
    · rw [hissues, passes_append, passes_of_not_pass (by rw [hp]; rfl), List.append_nil]
      exact hr.issued
    · rw [hissues]
      exact hr.board
  match item with
  | none => exact hr.quiet ⟨by rw [hp]; rfl, by rw [hp]; rfl, by rw [hp]; rfl⟩ hb
  | some none =>
    exact (hr.quiet ⟨by rw [hp]; rfl, by rw [hp]; rfl, by rw [hp]; rfl⟩ hb).during rfl rfl
  | some (some e) =>
    have hcause : p.deed.isCause = e.isLifecycle := by rw [hp]; rfl
    cases hs : e.status.isOneOf Event.lifecycle with
    | error f =>
      rw [Activity.after_of_error hs]
      refine lost e rfl ?_
      rintro ⟨⟨status, hstatus⟩, -⟩
      rw [hstatus] at hs
      cases hs
    | ok isLifecycle =>
      have hlife : e.isLifecycle = isLifecycle := by simp only [Event.isLifecycle, hs]
      cases isLifecycle with
      | false =>
        rw [Activity.after_of_other hs]
        exact hr.quiet ⟨hcause.trans hlife, by rw [hp]; rfl, by rw [hp]; rfl⟩ hb
      | true =>
        cases hid : e.containerId.short with
        | error f =>
          rw [Activity.after_of_nameless hs hid]
          refine lost e rfl ?_
          rintro ⟨-, id, hid'⟩
          rw [hid'] at hid
          cases hid
        | ok short =>
          rw [Activity.after_of_lifecycle hs hid]
          exact hr.cause (hcause.trans hlife) (by rw [hp]; rfl) (by rw [hp]; rfl) hb

end Reckoned

end Gazette

end HostRouting
