import HostRouting.Proofs.Precedence
import HostRouting.Proofs.Recording

/-!
# What is said about a resolution

A container that gets a route is reported with it, and one for which there is no port or no address is
reported with the reason. Nothing is said about a container whose endpoint was found and that lacks the
host, or whose endpoint lacks its port.
-/

namespace HostRouting

open Act (Spec never)
open Declaration (Declares hostName)

namespace Container

variable {c : Container} {fallback : List String}

/-- The reason that is given for skipping a container. -/
inductive Excuse (c : Container) (fallback : List String) : String → Prop
  | noPort (h : ∀ p, c.Picks fallback p → p = "") :
      Excuse c fallback "Couldn't find a port to expose"
  | noAddress {p : String} (hp : c.Picks fallback p) (hne : p ≠ "")
      (h : ¬ ∃ ip port, c.Leads p ip port) :
      Excuse c fallback "Couldn't find an IP to access container"

/-- An endpoint leads to the container on its port, but the endpoint has no port, or no host is
declared. -/
inductive FallsSilent (c : Container) (fallback : List String) : Prop
  | intro {p ip port : String} (hp : c.Picks fallback p) (hne : p ≠ "") (h : c.Leads p ip port)
      (hlack : port = "" ∨ ∀ host, ¬ Declares c.entries hostName host)

/-- Where a reason is given, nothing is passed over in silence. -/
theorem Excuse.not_fallsSilent {reason : String} (h : c.Excuse fallback reason) :
    ¬ c.FallsSilent fallback := by
  rintro ⟨hp, hne, hl, -⟩
  cases h with
  | noPort h => exact hne (h _ hp)
  | noAddress hq _ h => exact h ⟨_, _, hp.unique hq ▸ hl⟩

/-- Nor is a route. -/
theorem Warrants.not_fallsSilent (hc : c.IsPlain) {r : Route} (h : c.Warrants fallback r) :
    ¬ c.FallsSilent fallback := by
  rintro ⟨hp, -, hl, hlack⟩
  obtain ⟨hq, -, hl', hport, hhost⟩ := h
  obtain rfl := hp.unique hq
  rcases hlack with hempty | hnone
  · exact hport ((hl'.unique hc hl).2.trans hempty)
  · exact hnone _ hhost

/-- A line of the lowest level about the container, whose short id is given. -/
def debugLine (c : Container) (short : Json) (message : String) : Log.Line :=
  ⟨"DEBUG", (Log.Entry.about "DEBUG" message c.name short).text⟩

end Container

namespace Host

variable {σ : Type} {h : Host σ} {c : Container} {fallback : List String}
  {K : List Log.Entry → Surroundings σ → Prop}

/-- The lines that entries are shown as. -/
def shown (es : List Log.Entry) : List Log.Line := es.filterMap Log.Entry.line?

/-- What is reported about a resolution. -/
def news (c : Container) (short : Json) (resolution : Resolution) : List Log.Entry :=
  (resolution.message?.map fun message => .about "DEBUG" message c.name short).toList

/-- It is shown as a line with the same message, if there is one. -/
theorem shown_news (short : Json) (resolution : Resolution) :
    shown (news c short resolution) = (resolution.message?.map (c.debugLine short)).toList := by
  unfold news
  cases resolution.message? with
  | none => rfl
  | some message =>
    exact List.filterMap_cons_some (Log.Entry.line?_debug message (some c.name) short)

/-- None of it is kept. -/
theorem isKept_of_mem_news {short : Json} {resolution : Resolution} {e : Log.Entry}
    (he : e ∈ news c short resolution) : e.isKept = false := by
  obtain ⟨message, -, rfl⟩ := Option.map_eq_some_iff.1 (Option.mem_toList.1 he)
  exact Log.Entry.isKept_debug message (some c.name) short

/-- The resolution of a container is reported, and its route is given. -/
theorem resolveOne_reports {resolution : Resolution} {short : Json}
    (hreport : ∀ es e, e.isKept = false → Spec (K es) (h.report e) (fun _ => K (es ++ [e])) never)
    (hres : c.resolve fallback = .ok resolution) (hshort : c.shortId = .ok short)
    (es : List Log.Entry) :
    Spec (K es) (h.resolveOne fallback c)
      (fun o s => o = resolution.route? ∧ K (es ++ news c short resolution) s) never := by
  have hentry : resolution.entry? c =
      .ok (resolution.message?.map fun message => .about "DEBUG" message c.name short) := by
    unfold Resolution.entry?
    cases resolution.message? with
    | none => rfl
    | some message =>
      rw [hshort]
      rfl
  unfold resolveOne
  refine Spec.ofExcept_bind hres (Spec.ofExcept_bind hentry ?_)
  unfold news
  cases resolution.message? with
  | none => exact Spec.pure fun s hs => ⟨rfl, by simpa using hs⟩
  | some message =>
    refine Spec.bind (hreport es _ (Log.Entry.isKept_debug message (some c.name) short)) fun _ => ?_
    exact Spec.pure fun s hs => ⟨rfl, hs⟩

/-- **What is said about a resolution.** Of every plain container that is resolved one line of the
lowest level is shown and nothing is kept: the line tells the route that is given, or the reason for
which there is none. No line is shown just if the container falls silent, and then it gets no route. -/
theorem told_unless_falls_silent
    (hreport : ∀ es e, e.isKept = false → Spec (K es) (h.report e) (fun _ => K (es ++ [e])) never)
    (hc : c.IsPlain) (fallback : List String) (es : List Log.Entry) :
    ∃ short, c.shortId = .ok short ∧
      Spec (K es) (h.resolveOne fallback c)
        (fun o s => ∃ new, K (es ++ new) s ∧ (∀ e ∈ new, e.isKept = false) ∧
          (shown new = [] ↔ c.FallsSilent fallback) ∧
          match o with
          | some r => c.Warrants fallback r ∧ ∃ ip port, r.endpoint = ⟨.str ip, .str port, c.name⟩ ∧
              shown new = [c.debugLine short ("Adding route " ++ r.host ++ " -> " ++ ip ++ ":" ++ port)]
          | none => c.FallsSilent fallback ∨
              ∃ reason, c.Excuse fallback reason ∧ shown new = [c.debugLine short reason]) never := by
  obtain ⟨resolution, hres, hverdict⟩ := hc.resolve_verdict fallback
  obtain ⟨short, hshort⟩ := Json.short_of_isText hc.id
  refine ⟨short, hshort, (resolveOne_reports hreport hres hshort es).post ?_ fun _ _ he => he⟩
  rintro _ s ⟨rfl, hs⟩
  refine ⟨_, hs, fun _ => isKept_of_mem_news, ?_⟩
  rw [shown_news]
  cases hverdict with
  | noPort hno =>
    have hexcuse := Container.Excuse.noPort hno
    exact ⟨iff_of_false (List.cons_ne_nil _ _) hexcuse.not_fallsSilent, .inr ⟨_, hexcuse, rfl⟩⟩
  | noAddress hp hne hno =>
    have hexcuse := Container.Excuse.noAddress hp hne hno
    exact ⟨iff_of_false (List.cons_ne_nil _ _) hexcuse.not_fallsSilent, .inr ⟨_, hexcuse, rfl⟩⟩
  | incomplete hp hne hl hlack =>
    have hsilent : c.FallsSilent fallback := .intro hp hne hl hlack
    exact ⟨iff_of_true rfl hsilent, .inl hsilent⟩
  | routed hw =>
    refine ⟨iff_of_false (List.cons_ne_nil _ _) (hw.not_fallsSilent hc), hw, ?_⟩
    cases hw
    exact ⟨_, _, rfl, rfl⟩

/-! ### A host that records what is reported -/

/-- Entries go to an event log, and the lines that it shows are gathered. -/
def recording (now : String) : Host (EventLog × List Log.Line) where
  connect := pure 0
  list _ := pure []
  inspect _ id := Act.fail (.noMember id.typeName "inspect")
  ping _ := pure ()
  addListener _ _ := pure ()
  removeListener _ _ := pure ()
  close _ := pure ()
  sleep _ := pure ()
  publish _ := pure ()
  report e := .ofOutcome fun s =>
    let r := EventLog.record now e s.rest.1
    (r.outcome, s.mapRest fun rest => (r.log, rest.2 ++ r.lines))

/-- A light entry is shown and changes nothing else. -/
theorem recording_report {now : String} {e : Log.Entry} (he : e.isKept = false)
    (log : EventLog) (es : List Log.Entry) :
    Spec (fun s => s.rest = (log, shown es)) ((recording now).report e)
      (fun _ s => s.rest = (log, shown (es ++ [e]))) never := by
  rintro ⟨mailboxes, control, rest⟩ rfl
  have hshown : shown (es ++ [e]) = shown es ++ e.line?.toList := by
    rw [shown, List.filterMap_append, shown]
    cases he' : e.line? <;> simp [he']
  rw [hshown]
  simp only [recording, Act.outcome_ofOutcome, EventLog.record_of_not_kept he, Surroundings.mapRest]

/-- A container that exposes no port. -/
def unexposed : Container where
  id := .str "c0ffee000001aaaa"
  name := "web"
  env := [.str "VIRTUAL_HOST=foo.example.com"]
  ip := .str "172.17.0.2"

/-- One line tells why it is skipped. -/
theorem told_unless_falls_silent_unexposed :
    unexposed.IsPlain ∧ ∃ s reason, unexposed.Excuse ["8080"] reason ∧
      ((recording "t").resolveOne ["8080"] unexposed).outcome { rest := ({}, []) } = (.ok none, s) ∧
        s.rest.2 = [unexposed.debugLine (.str "c0ffee000001") reason] := by
  have hc : unexposed.IsPlain :=
    { id := ⟨_, rfl⟩
      env := by simp [unexposed, Container.IsText]
      ip := ⟨_, rfl⟩
      bindings := by simp [unexposed]
      networks := by simp [unexposed] }
  have hno : ∀ p, ¬ unexposed.Picks ["8080"] p := by
    rintro p (hp | ⟨-, hp⟩)
    · exact Declaration.port_tracks.eq_empty_iff.1 (by decide +kernel) p hp
    · simpa [Container.exposes, unexposed] using hp.holds
  obtain ⟨short, hshort, hspec⟩ := told_unless_falls_silent (h := recording "t")
    (fun es _ he => recording_report he {} es) hc ["8080"] []
  cases hshort
  obtain ⟨o, s, hout, new, hs, -, -, htold⟩ := hspec.total (s := { rest := ({}, []) }) rfl
  cases o with
  | some r =>
    obtain ⟨⟨hp, -⟩, -⟩ := htold
    exact absurd hp (hno _)
  | none =>
    obtain ⟨hp, -⟩ | ⟨reason, hreason, hnew⟩ := htold
    · exact absurd hp (hno _)
    · exact ⟨hc, s, reason, hreason, hout, by rw [hs]; exact hnew⟩

/-- A container that declares no host. -/
def hostless : Container where
  id := .str "c0ffee000001aaaa"
  name := "web"
  env := [.str "PATH=/bin"]
  ports := [("8080/tcp", [])]
  ip := .str "172.17.0.2"

/-- Nothing is said about it. -/
theorem hostless_falls_silent :
    hostless.IsPlain ∧
      ((recording "t").resolveOne ["8080"] hostless).outcome { rest := ({}, []) } =
        (.ok none, { rest := ({}, []) }) := by
  refine ⟨⟨⟨_, rfl⟩, by simp [hostless, Container.IsText], ⟨_, rfl⟩, by simp [hostless],
    by simp [hostless]⟩, ?_⟩
  have hres : hostless.resolve ["8080"] = .ok .incomplete := by decide +kernel
  unfold resolveOne
  rw [hres]
  rfl

end Host

end HostRouting
