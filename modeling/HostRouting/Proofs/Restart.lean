import HostRouting.Proofs.Startup

/-!
# Starting a watcher again

Starting a watcher makes a new thread only if none is at work. A thread that was asked to stop is at
work until it has seen the request and has given everything up, and to start the watcher in the
meantime does nothing: the thread goes on to its end all the same. A start at any other time is good
until the next request to stop.
-/

namespace HostRouting

namespace Control

/-! ## Requests -/

/-- What is asked of the watcher from outside. -/
inductive Request where
  | start
  | stop
  /-- To wait for the end of the thread. -/
  | join
  deriving DecidableEq

/-- The control after a request; waiting for the thread changes nothing. -/
def heed (c : Control) : Request → Control
  | .start => c.start
  | .stop => c.stop
  | .join => c

/-- What happens: something is asked, or the thread makes a step, which may be its last one. -/
inductive Happening where
  | asked (r : Request)
  | worked
  | ended
  deriving DecidableEq

/-- The control after something happened. -/
def meet (c : Control) : Happening → Control
  | .asked r => c.heed r
  | .worked => c
  | .ended => c.finish

/-- The control after all that happened. -/
def after (c : Control) (l : List Happening) : Control := l.foldl meet c

section

variable {c : Control} {l : List Happening} {x : Happening}

@[simp] theorem after_append (c : Control) (l l' : List Happening) :
    c.after (l ++ l') = (c.after l).after l' :=
  List.foldl_append

@[simp] theorem after_singleton (c : Control) (x : Happening) : c.after [x] = c.meet x := rfl

/-- Requests one after the other. -/
theorem after_asked (c : Control) (rs : List Request) :
    c.after (rs.map .asked) = rs.foldl heed c :=
  List.foldl_map

/-- A thread at work can only be asked to stop. -/
theorem heed_of_running (hc : c.thread = .running) (r : Request) :
    c.heed r = { c with stopRequested := c.stopRequested || r = .stop } := by
  obtain ⟨stopRequested, thread⟩ := c
  obtain rfl : thread = .running := hc
  cases r <;> simp [heed, start, stop]

/-! ## Threads that were asked to stop -/

/-- Since some start the thread has not ended. -/
def Begun (l : List Happening) : Prop :=
  ∃ before since, l = before ++ .asked .start :: since ∧ .ended ∉ since

/-- The thread was asked to stop while it was at work, and has not ended since. -/
def Overdue (l : List Happening) : Prop :=
  ∃ before since, l = before ++ .asked .stop :: since ∧ Begun before ∧ .ended ∉ since

/-- One more happening after the last one of a kind. -/
theorem exists_since_concat {P : List Happening → Prop} {y : Happening} :
    (∃ before since, l ++ [x] = before ++ y :: since ∧ P before ∧ .ended ∉ since) ↔
      x = y ∧ P l ∨ x ≠ .ended ∧ ∃ before since, l = before ++ y :: since ∧ P before ∧ .ended ∉ since := by
  constructor
  · rintro ⟨before, since, hpart, hbefore, hsince⟩
    rcases concat_eq_part.1 hpart with ⟨rfl, rfl, rfl⟩ | ⟨rest, rfl, rfl⟩
    · exact .inl ⟨rfl, hbefore⟩
    · simp only [List.mem_append, List.mem_singleton, not_or] at hsince
      exact .inr ⟨Ne.symm hsince.2, before, rest, rfl, hbefore, hsince.1⟩
  · rintro (⟨rfl, hl⟩ | ⟨hx, before, since, rfl, hbefore, hsince⟩)
    · exact ⟨l, [], rfl, hl, by simp⟩
    · exact ⟨before, since ++ [x], by simp, hbefore, by simp [hsince, Ne.symm hx]⟩

theorem begun_concat : Begun (l ++ [x]) ↔ x = .asked .start ∨ x ≠ .ended ∧ Begun l := by
  have := exists_since_concat (l := l) (x := x) (y := .asked .start) (P := fun _ => True)
  simpa [Begun] using this

theorem overdue_concat :
    Overdue (l ++ [x]) ↔ x = .asked .stop ∧ Begun l ∨ x ≠ .ended ∧ Overdue l :=
  exists_since_concat

/-- A thread is at work just if it was started and has not ended since. -/
theorem thread_after : (after {} l).thread = .running ↔ Begun l := by
  induction l using List.reverseRecOn with
  | nil => simp [after, Begun]
  | append_singleton l x ih =>
    rw [after_append, after_singleton, begun_concat, ← ih]
    cases x with
    | asked r => cases r <;> simp [meet, heed, Service.thread_start, stop]
    | worked => simp [meet]
    | ended => by_cases h : (after {} l).thread = .running <;> simp [meet, finish, h]

/-- Whatever is overdue was begun. -/
theorem Overdue.begun (h : Overdue l) : Begun l := by
  obtain ⟨_, since, rfl, ⟨before, between, rfl, hbetween⟩, hsince⟩ := h
  exact ⟨before, between ++ .asked .stop :: since, by simp, by simp [hbetween, hsince]⟩

/-- The request to stop stands while a thread is at work, just if it came during its work. -/
theorem stopRequested_after (hl : (after {} l).thread = .running) :
    (after {} l).stopRequested = true ↔ Overdue l := by
  induction l using List.reverseRecOn with
  | nil => simp [after] at hl
  | append_singleton l x ih =>
    rw [after_append, after_singleton] at hl ⊢
    rw [overdue_concat, ← thread_after]
    cases x with
    | asked r =>
      by_cases h : (after {} l).thread = .running
      · rw [meet, heed_of_running h]
        cases r <;> simp [h, ih]
      · -- without a thread at work a request to stop is forgotten at the next start
        have hnone : ¬ Overdue l := fun hl => h (thread_after.2 hl.begun)
        cases r <;> simp [meet, heed, start, stop, h, hnone] at hl ⊢
    | worked => simpa [meet] using ih hl
    | ended => by_cases h : (after {} l).thread = .running <;> simp [meet, finish, h] at hl

/-- A thread that is at work has to stop just if it is overdue. -/
theorem after_eq_iff_overdue : after {} l = ⟨true, .running⟩ ↔ Overdue l := by
  constructor
  · intro h
    exact (stopRequested_after (by rw [h])).1 (by rw [h])
  · intro h
    have hthread := thread_after.2 h.begun
    have hstop := (stopRequested_after hthread).2 h
    cases hc : after {} l with
    | mk stopRequested thread =>
      rw [hc] at hthread hstop
      rw [show thread = .running from hthread, show stopRequested = true from hstop]

/-- Where nothing that happens makes a difference, all is as before. -/
theorem after_eq_self (h : ∀ x ∈ l, c.meet x = c) : c.after l = c := by
  induction l with
  | nil => rfl
  | cons x l ih =>
    rw [after, List.foldl_cons, h x (by simp)]
    exact ih fun y hy => h y (by simp [hy])

/-- A thread at work that is not asked to stop. -/
theorem after_of_unasked (hstop : .asked .stop ∉ l) (hend : .ended ∉ l) :
    after ⟨false, .running⟩ l = ⟨false, .running⟩ := by
  refine after_eq_self fun x hx => ?_
  match x with
  | .asked .start | .asked .join | .worked => rfl
  | .asked .stop => exact absurd hx hstop
  | .ended => exact absurd hx hend

/-- A thread at work that has to stop. -/
theorem after_of_overdue (hend : .ended ∉ l) : after ⟨true, .running⟩ l = ⟨true, .running⟩ := by
  refine after_eq_self fun x hx => ?_
  match x with
  | .asked .start | .asked .stop | .asked .join | .worked => rfl
  | .ended => exact absurd hx hend

/-- A thread that came to its end, and no other one. -/
theorem after_of_ended (hstart : .asked .start ∉ l) : after ⟨true, .ended⟩ l = ⟨true, .ended⟩ := by
  refine after_eq_self fun x hx => ?_
  match x with
  | .asked .stop | .asked .join | .worked | .ended => rfl
  | .asked .start => exact absurd hx hstart

end

end Control

open Control (Request Happening Begun Overdue)

/-! ## The thread -/

namespace Watcher

/-- What the thread does next. -/
inductive Post where
  /-- It reports that it begins. -/
  | opening
  /-- It looks whether it is asked to stop. -/
  | looking
  /-- It makes a transition. -/
  | turning
  /-- It gives everything up. -/
  | concluding
  deriving DecidableEq

/-- How many steps the thread makes before its last one, once it is asked to stop. -/
def Post.left : Post → Nat
  | opening | turning => 2
  | looking => 1
  | concluding => 0

theorem Post.left_le (post : Post) : post.left ≤ 2 := by
  cases post <;> decide

section

variable {σ : Type} (h : Host σ) (c : WatchConfig)

/-- A step of the thread; gives what is to do next, or nothing at the end. -/
def toil : Post → Act (Machine σ) (Option Post)
  | .opening => do
    report h opening
    return some .looking
  | .looking => do
    return some (if askedToStop (← Act.read) then .concluding else .turning)
  | .turning => do
    round h c
    return some .looking
  | .concluding => do
    conclude h
    return none

/-- So many steps of the thread, unless it comes to its end before. -/
def toils : Nat → Post → Act (Machine σ) (Option Post)
  | 0, post => pure (some post)
  | n + 1, post => do
    match ← toil h c post with
    | none => return none
    | some next => toils n next

variable {h c} {m m' : Machine σ}

/-- A step and the steps after it. -/
theorem toils_succ {post next : Post} (hfirst : (toil h c post).outcome m = (.ok (some next), m'))
    (n : Nat) : (toils h c (n + 1) post).outcome m = (toils h c n next).outcome m' := by
  rw [toils, Act.outcome_bind, hfirst]

/-- The thread looks before every transition. -/
theorem toil_looking (m : Machine σ) : (toil h c .looking).outcome m =
    (.ok (some (if askedToStop m then .concluding else .turning)), m) := rfl

/-- The transitions of a run are steps of the thread. -/
theorem loop_toils {rounds : Nat} {stopped : Bool}
    (hloop : (loop h c rounds).outcome m = (.ok stopped, m')) : askedToStop m' = stopped ∧
      ∀ k, ∃ n, (toils h c n .looking).outcome m = (toils h c k .looking).outcome m' := by
  induction rounds generalizing m with
  | zero =>
    obtain ⟨hs, rfl⟩ := Prod.ext_iff.1 hloop
    exact ⟨Except.ok.inj hs, fun k => ⟨k, rfl⟩⟩
  | succ rounds ih =>
    have hnext : (if askedToStop m then pure true else do round h c; loop h c rounds).outcome m =
        (.ok stopped, m') := hloop
    cases hstop : askedToStop m with
    | true =>
      rw [hstop] at hnext
      obtain ⟨hs, rfl⟩ := Prod.ext_iff.1 hnext
      exact ⟨hstop.trans (Except.ok.inj hs), fun k => ⟨k, rfl⟩⟩
    | false =>
      simp only [hstop, Bool.false_eq_true, if_false] at hnext
      obtain ⟨_, t, hround, hnext⟩ := Act.of_outcome_bind_ok hnext
      obtain ⟨hend, hrest⟩ := ih hnext
      have hlook : (toil h c .looking).outcome m = (.ok (some .turning), m) := by
        simp [toil_looking, hstop]
      have hturn : (toil h c .turning).outcome m = (.ok (some .looking), t) := by
        rw [toil, Act.outcome_bind, hround]
        rfl
      refine ⟨hend, fun k => ?_⟩
      obtain ⟨n, hn⟩ := hrest k
      exact ⟨n + 2, by rw [toils_succ hlook, toils_succ hturn, hn]⟩

/-- **A run that comes to its end is the work of the thread, step by step.** -/
theorem run_toils {rounds : Nat} (hrun : (run h c rounds).outcome m = (.ok true, m')) :
    ∃ n, (toils h c n .opening).outcome m = (.ok none, m') := by
  rw [run_parts] at hrun
  obtain ⟨_, t, hopen, hrun⟩ := Act.of_outcome_bind_ok hrun
  obtain ⟨stopped, u, hloop, hrun⟩ := Act.of_outcome_bind_ok hrun
  obtain ⟨hstop, hrest⟩ := loop_toils hloop
  cases stopped with
  | false => cases hrun
  | true =>
    obtain ⟨_, v, hconclude, hrun⟩ := Act.of_outcome_bind_ok hrun
    obtain ⟨-, rfl⟩ := Prod.ext_iff.1 hrun
    have hbegin : (toil h c .opening).outcome m = (.ok (some .looking), t) := by
      rw [toil, Act.outcome_bind, hopen]
      rfl
    have hlook : (toil h c .looking).outcome u = (.ok (some .concluding), u) := by
      simp [toil_looking, hstop]
    have hend : (toil h c .concluding).outcome u = (.ok none, v) := by
      rw [toil, Act.outcome_bind, hconclude]
      rfl
    obtain ⟨n, hn⟩ := hrest 2
    refine ⟨n + 1, ?_⟩
    rw [toils_succ hbegin, hn, toils_succ hlook, toils, Act.outcome_bind, hend]
    rfl

/-- Only a look can make the thread give everything up. -/
theorem toil_cases {post : Post} {r : Option Post} (htoil : (toil h c post).outcome m = (.ok r, m')) :
    (post = .opening ∨ post = .turning) ∧ r = some .looking ∨
      post = .looking ∧ m' = m ∧ r = some (if askedToStop m then .concluding else .turning) ∨
        post = .concluding ∧ r = none := by
  have last {act : Act (Machine σ) Unit} {next : Option Post}
      (hact : (do act; return next).outcome m = (.ok r, m')) : r = next := by
    obtain ⟨_, u, -, hnext⟩ := Act.of_outcome_bind_ok hact
    exact (Except.ok.inj (Prod.ext_iff.1 hnext).1).symm
  cases post with
  | opening => exact .inl ⟨.inl rfl, last htoil⟩
  | turning => exact .inl ⟨.inr rfl, last htoil⟩
  | concluding => exact .inr (.inr ⟨rfl, last htoil⟩)
  | looking =>
    rw [toil_looking] at htoil
    obtain ⟨hr, hm⟩ := Prod.ext_iff.1 htoil
    exact .inr (.inl ⟨rfl, hm.symm, (Except.ok.inj hr).symm⟩)

end

/-! ## Moves -/

/-- The watcher in its surroundings, and what its thread does next. -/
structure Crew (σ : Type) where
  machine : Machine σ
  post : Post := .opening

namespace Crew

variable {σ : Type}

/-- The request to stop, and the thread. -/
def control (k : Crew σ) : Control := k.machine.outside.control

/-- Nothing was asked of the watcher so far. -/
def idle (s : Surroundings σ) : Crew σ := ⟨{ outside := { s with control := {} } }, .opening⟩

/-- Changes the control. -/
def steer (f : Control → Control) (k : Crew σ) : Crew σ :=
  { k with machine.outside.control := f k.control }

/-- A request; a new thread begins at its beginning. -/
def ask (k : Crew σ) (r : Request) : Crew σ :=
  { k.steer (·.heed r) with
    post := if r = .start ∧ k.control.startsThread = true then .opening else k.post }

/-- What the watcher comes to while one thing happens after the other. Requests may also come during
the calls that the thread makes in a step. -/
inductive Moves (h : Host σ) (c : WatchConfig) (k : Crew σ) : List Happening → Crew σ → Prop where
  | nothing : Moves h c k [] k
  /-- Something is asked. -/
  | asked {l : List Happening} {k' : Crew σ} (hk : Moves h c k l k') (r : Request) :
      Moves h c k (l ++ [.asked r]) (k'.ask r)
  /-- The thread makes a step. -/
  | worked {l : List Happening} {k' : Crew σ} (hk : Moves h c k l k')
      (hthread : k'.control.thread = .running) {next : Post} {m : Machine σ}
      (htoil : (toil h c k'.post).outcome k'.machine = (.ok (some next), m)) (rs : List Request)
      (hrs : m.outside.control = rs.foldl Control.heed k'.control) :
      Moves h c k (l ++ (rs.map .asked ++ [.worked])) ⟨m, next⟩
  /-- The thread makes its last step. -/
  | ended {l : List Happening} {k' : Crew σ} (hk : Moves h c k l k')
      (hthread : k'.control.thread = .running) {m : Machine σ}
      (htoil : (toil h c k'.post).outcome k'.machine = (.ok none, m)) (rs : List Request)
      (hrs : m.outside.control = rs.foldl Control.heed k'.control) :
      Moves h c k (l ++ (rs.map .asked ++ [.ended])) (steer Control.finish ⟨m, k'.post⟩)

variable {h : Host σ} {c : WatchConfig} {k k' : Crew σ} {l : List Happening}

/-- **The control tells what happened.** -/
theorem Moves.control_eq (hk : Moves h c k l k') : k'.control = k.control.after l := by
  induction hk with
  | nothing => rfl
  | asked hk r ih =>
    rw [Control.after_append, ← ih]
    rfl
  | worked hk hthread htoil rs hrs ih =>
    rw [Control.after_append, Control.after_append, Control.after_asked, ← ih, ← hrs]
    rfl
  | ended hk hthread htoil rs hrs ih =>
    rw [Control.after_append, Control.after_append, Control.after_asked, ← ih, ← hrs]
    rfl

/-- While a thread is at work, no request gives it something else to do. -/
theorem ask_of_running (hthread : k.control.thread = .running) (r : Request) :
    (k.ask r).post = k.post := by
  simp [ask, Control.startsThread, hthread]

/-- To start a watcher whose thread is at work does nothing. -/
theorem ask_start_of_running (hthread : k.control.thread = .running) : k.ask .start = k := by
  have hsame : k.control.start = k.control := if_pos hthread
  have hpost := ask_of_running hthread .start
  have hsteer : k.steer Control.start = k := by
    show { k with machine.outside.control := k.control.start } = k
    rw [hsame]
    rfl
  calc k.ask .start = { k.steer Control.start with post := (k.ask .start).post } := rfl
    _ = k := by rw [hsteer, hpost]

/-! ## Threads that are not asked to stop -/

/-- The thread gives nothing up unless it is asked to stop. -/
def Alert (k : Crew σ) : Prop :=
  k.control.thread = .running → k.post = .concluding → k.control.stopRequested = true

theorem Moves.alert (hk : Moves h c k l k') (halert : k.Alert) : k'.Alert := by
  induction hk with
  | nothing => exact halert
  | @asked l k' hk r ih =>
    intro hthread hpost
    change (k'.control.heed r).stopRequested = true
    change (k'.control.heed r).thread = .running at hthread
    by_cases hrunning : k'.control.thread = .running
    · rw [ask_of_running hrunning] at hpost
      rw [Control.heed_of_running hrunning, ih hrunning hpost]
      rfl
    · -- only a start makes a thread, and a new one has everything before it
      cases r with
      | start => simp [ask, Control.startsThread, hrunning] at hpost
      | stop | join => exact absurd hthread hrunning
  | @worked l k' hk hthread next m htoil rs hrs ih =>
    rintro - rfl
    rcases toil_cases htoil with ⟨-, hnext⟩ | ⟨-, rfl, hnext⟩ | ⟨-, hnext⟩
    · cases hnext
    · by_cases hstop : askedToStop k'.machine = true
      · exact hstop
      · simp [hstop] at hnext
    · cases hnext
  | @ended l k' hk hthread m htoil rs hrs ih =>
    intro hrunning
    change m.outside.control.finish.thread = .running at hrunning
    by_cases h : m.outside.control.thread = .running <;> simp [Control.finish, h] at hrunning

/-- A thread that is not asked to stop does not come to its end. -/
theorem Moves.not_ended (hk : Moves h c k l k') (hcontrol : k.control = ⟨false, .running⟩)
    (halert : k.Alert) (hstop : .asked .stop ∉ l) : .ended ∉ l := by
  induction hk with
  | nothing => simp
  | asked hk r ih =>
    have := ih fun h => hstop (by simp [h])
    simp [this]
  | worked hk hthread htoil rs hrs ih =>
    have := ih fun h => hstop (by simp [h])
    simp [this]
  | @ended l k' hk hthread m htoil rs hrs ih =>
    -- the last step is made by a thread that has seen a request
    have hpost : k'.post = .concluding := by
      rcases toil_cases htoil with ⟨-, hnext⟩ | ⟨-, -, hnext⟩ | ⟨hpost, -⟩
      · cases hnext
      · cases hnext
      · exact hpost
    have hseen := hk.alert halert hthread hpost
    have hstop' : .asked .stop ∉ l := fun h => hstop (by simp [h])
    rw [hk.control_eq, hcontrol, Control.after_of_unasked hstop' (ih hstop')] at hseen
    cases hseen

/-- **A thread that has to stop makes two steps at most before its last one.** -/
theorem Moves.count_worked_le (hk : Moves h c k l k') (hcontrol : k.control = ⟨true, .running⟩)
    (hend : .ended ∉ l) : l.count .worked + k'.post.left ≤ k.post.left := by
  induction hk with
  | nothing => simp
  | @asked l k' hk r ih =>
    have hend' : .ended ∉ l := fun h => hend (by simp [h])
    have hk' : k'.control = ⟨true, .running⟩ := by
      rw [hk.control_eq, hcontrol, Control.after_of_overdue hend']
    rw [ask_of_running (by rw [hk'])]
    simpa using ih hend'
  | @worked l k' hk hthread next m htoil rs hrs ih =>
    have hend' : .ended ∉ l := fun h => hend (by simp [h])
    have hk' : k'.control = ⟨true, .running⟩ := by
      rw [hk.control_eq, hcontrol, Control.after_of_overdue hend']
    have hleft : 1 + next.left ≤ k'.post.left := by
      rcases toil_cases htoil with ⟨hpost, hnext⟩ | ⟨hpost, -, hnext⟩ | ⟨-, hnext⟩
      · obtain rfl := Option.some.inj hnext
        rcases hpost with hpost | hpost <;> rw [hpost] <;> decide
      · have hstop : askedToStop k'.machine = true := congrArg Control.stopRequested hk'
        rw [hstop, if_pos rfl] at hnext
        obtain rfl := Option.some.inj hnext
        rw [hpost]
        decide
      · cases hnext
    have hasked : (rs.map Happening.asked).count .worked = 0 := by simp [List.count_eq_zero]
    have := ih hend'
    simp only [List.count_append, hasked, List.count_singleton_self]
    omega
  | ended hk hthread htoil rs hrs ih => simp at hend

end Crew

/-! ## Starting -/

/-- **After a start a thread is at work. It has to stop just if the start came while a thread was at
work that was asked to stop before: then the start changes nothing, the thread makes two more steps
at most before its last one, and nothing is at work after that. Otherwise the thread is at work, and
not asked to stop, until the next request to stop.** -/
theorem start_holds_iff {σ : Type} {h : Host σ} {c : WatchConfig} {s : Surroundings σ} {k : Crew σ}
    {l : List Happening} (hk : Crew.Moves h c (.idle s) l k) :
    let started := k.ask .start
    started.control.thread = .running ∧ (started.control.stopRequested = true ↔ Overdue l) ∧
      (¬ Overdue l → ∀ more k', Crew.Moves h c started more k' → .asked .stop ∉ more →
        k'.control = ⟨false, .running⟩) ∧
      (Overdue l → started = k ∧ ∀ more k', Crew.Moves h c started more k' →
        (.ended ∉ more → k'.control = ⟨true, .running⟩ ∧ more.count .worked ≤ 2) ∧
          ∀ before since, more = before ++ .ended :: since → .ended ∉ before →
            .asked .start ∉ since → k'.control = ⟨true, .ended⟩) := by
  intro started
  have hstart : Crew.Moves h c (.idle s) (l ++ [.asked .start]) started := hk.asked .start
  have hthread : started.control.thread = .running := Service.thread_start k.control
  have hdue : started.control.stopRequested = true ↔ Overdue l := by
    have hcontrol : started.control = Control.after {} (l ++ [.asked .start]) := hstart.control_eq
    rw [hcontrol] at hthread ⊢
    rw [Control.stopRequested_after hthread, Control.overdue_concat]
    simp
  have hcontrol : started.control = ⟨started.control.stopRequested, .running⟩ := by
    rw [← hthread]
  refine ⟨hthread, hdue, fun hnot more k' hmore hstop => ?_, fun hover => ?_⟩
  · rw [← hdue, Bool.not_eq_true] at hnot
    rw [hnot] at hcontrol
    have halert : started.Alert := hstart.alert fun hrunning => by cases hrunning
    have hend := hmore.not_ended hcontrol halert hstop
    rw [hmore.control_eq, hcontrol, Control.after_of_unasked hstop hend]
  · have hrunning : k.control.thread = .running := by
      rw [hk.control_eq]
      exact Control.thread_after.2 hover.begun
    rw [hdue.2 hover] at hcontrol
    refine ⟨Crew.ask_start_of_running hrunning, fun more k' hmore => ⟨fun hend => ?_, ?_⟩⟩
    · have hcount := hmore.count_worked_le hcontrol hend
      have hleft := started.post.left_le
      refine ⟨?_, by omega⟩
      rw [hmore.control_eq, hcontrol, Control.after_of_overdue hend]
    · rintro before since rfl hbefore hsince
      rw [hmore.control_eq, hcontrol, Control.after_append, Control.after_of_overdue hbefore]
      exact Control.after_of_ended hsince

/-- No containers, and nothing happens by itself. -/
def deserted : Host Unit := .still (.ok []) fun _ => .error .pingRefused

/-- A watcher on such a host that was not asked anything. -/
def unasked : Crew Unit := .idle { rest := () }

/-- A thread that was asked to stop before it reported its begin. -/
def hurried : Crew Unit := ⟨{ outside := { control := ⟨true, .running⟩, rest := () } }, .opening⟩

/-- Left alone, such a thread reports its begin, looks, and gives everything up. -/
theorem hurried_ends {l : List Happening} (hk : Crew.Moves deserted byDefault unasked l hurried) :
    ∃ k, Crew.Moves deserted byDefault unasked (l ++ [.worked, .worked, .ended]) k ∧
      k.control = ⟨true, .ended⟩ := by
  have began : Crew.Moves deserted byDefault unasked (l ++ ([].map .asked ++ [.worked]))
      { hurried with post := .looking } := hk.worked rfl rfl [] rfl
  have seen : Crew.Moves deserted byDefault unasked
      (l ++ ([].map .asked ++ [.worked]) ++ ([].map .asked ++ [.worked]))
      { hurried with post := .concluding } := began.worked rfl rfl [] rfl
  have finished := seen.ended rfl rfl [] rfl
  have hl : l ++ [.worked, .worked, .ended] = l ++ ([].map .asked ++ [.worked]) ++
      ([].map .asked ++ [.worked]) ++ ([].map .asked ++ [.ended]) := by simp
  rw [← hl] at finished
  exact ⟨_, finished, rfl⟩

/-- After the end of a thread that was asked to stop, a start holds. -/
theorem start_holds_iff_after_end :
    ∃ k, Crew.Moves deserted byDefault unasked
        [.asked .start, .asked .stop, .worked, .worked, .ended] k ∧
      ¬ Overdue [.asked .start, .asked .stop, .worked, .worked, .ended] ∧
      (k.ask .start).control.thread = .running ∧ ∀ more k',
        Crew.Moves deserted byDefault (k.ask .start) more k' → .asked .stop ∉ more →
          k'.control = ⟨false, .running⟩ := by
  have asked : Crew.Moves deserted byDefault unasked [.asked .start, .asked .stop] hurried :=
    (Crew.Moves.nothing.asked .start).asked .stop
  obtain ⟨k, hk, -⟩ := hurried_ends asked
  have hnot : ¬ Overdue [.asked .start, .asked .stop, .worked, .worked, .ended] :=
    Control.after_eq_iff_overdue.not.1 (by decide)
  have hstart := start_holds_iff hk
  exact ⟨k, hk, hnot, hstart.1, hstart.2.2.1 hnot⟩

/-- A start that comes while the thread has not seen the request to stop yet is lost: the request
stands, the thread comes to its end, and none is at work afterwards. -/
theorem start_lost : ∃ k k', Crew.Moves deserted byDefault unasked
      [.asked .start, .asked .stop, .asked .start] k ∧ k.control.stopRequested = true ∧
    Crew.Moves deserted byDefault unasked
      [.asked .start, .asked .stop, .asked .start, .worked, .worked, .ended] k' ∧
    k'.control = ⟨true, .ended⟩ := by
  have asked : Crew.Moves deserted byDefault unasked
      [.asked .start, .asked .stop, .asked .start] hurried :=
    ((Crew.Moves.nothing.asked .start).asked .stop).asked .start
  obtain ⟨k', hk', hcontrol⟩ := hurried_ends asked
  exact ⟨hurried, k', asked, rfl, hk', hcontrol⟩

end Watcher

end HostRouting
