import HostRouting.Proofs.Roll
import HostRouting.Proofs.Shore

/-!
# Containers that cannot be read

A report on a container may be of any shape. If it cannot be read as one of a container, the
container is left out of the pass. But some of what is read is looked at only when the container is
resolved, such as the entries of its environment; if it is of a wrong type there, the whole pass
stops.
-/

namespace HostRouting

open Act (Spec failing never)
open Host (Obstructed resolved)
open Container (offered roll)

/-! ## Reports -/

/-- The id of a container in a listing, and the report that the daemon gives on it. -/
structure Report where
  id : String
  result : Except Fault Json

namespace Report

/-- What inspecting the container comes to. -/
def inspection (r : Report) : Inspection := ⟨.str r.id, r.result >>= Container.ofInspection⟩

/-- The containers that are found, in the order of the listing. -/
def found (reports : List Report) : List Container := Inspection.found (reports.map inspection)

/-- The report is read and its container is resolved. -/
def isLegible (ports : List String) (r : Report) : Bool :=
  match r.inspection.result >>= resolved ports with
  | .ok _ => true
  | .error _ => false

variable {ports : List String} {reports : List Report}

/-- The container of a legible report is resolved. -/
theorem resolved_of_isLegible {r : Report} {c : Container} (h : r.isLegible ports = true)
    (hc : r.inspection.result = .ok c) : ∃ o, resolved ports c = .ok o := by
  have hbind : (Except.ok c >>= resolved ports : Except Fault (Option Route)) = resolved ports c := rfl
  unfold isLegible at h
  rw [hc, hbind] at h
  split at h
  · rename_i o ho
    exact ⟨o, ho⟩
  · cases h

/-- A report is legible if its container is resolved. -/
theorem isLegible_of_resolved {r : Report} {c : Container} {o : Option Route}
    (hc : r.inspection.result = .ok c) (ho : resolved ports c = .ok o) : r.isLegible ports = true := by
  have hbind : (Except.ok c >>= resolved ports : Except Fault (Option Route)) = .ok o := ho
  unfold isLegible
  rw [hc, hbind]

theorem mem_found {c : Container} :
    c ∈ found reports ↔ ∃ r ∈ reports, r.inspection.result = .ok c := by
  have htoOption (e : Except Fault Container) : e.toOption = some c ↔ e = .ok c := by
    cases e <;> simp [Except.toOption]
  simp [found, Inspection.found, List.mem_filterMap, htoOption]

/-- Among legible reports nothing is in the way. -/
theorem resolved_of_mem_found_filter {c : Container}
    (h : c ∈ found (reports.filter (isLegible ports))) : ∃ o, resolved ports c = .ok o := by
  obtain ⟨r, hr, hc⟩ := mem_found.1 h
  exact resolved_of_isLegible (List.mem_filter.1 hr).2 hc

/-- If nothing is in the way, the containers of the legible reports are those that are found. -/
theorem found_filter_isLegible (h : ∀ c ∈ found reports, ∃ o, resolved ports c = .ok o) :
    found (reports.filter (isLegible ports)) = found reports := by
  induction reports with
  | nil => rfl
  | cons r reports ih =>
    have hcons (c : Container) (hc : r.inspection.result = .ok c) :
        found (r :: reports) = c :: found reports := by
      simp [found, Inspection.found, hc, Except.toOption]
    have hskip (f : Fault) (hf : r.inspection.result = .error f) :
        found (r :: reports) = found reports := by
      simp [found, Inspection.found, hf, Except.toOption]
    cases hr : r.inspection.result with
    | ok c =>
      rw [hcons c hr] at h
      obtain ⟨o, ho⟩ := h c (by simp)
      rw [List.filter_cons_of_pos (isLegible_of_resolved hr ho), hcons c hr,
        ← ih fun d hd => h d (by simp [hd])]
      simp [found, Inspection.found, hr, Except.toOption]
    | error f =>
      rw [hskip f hr] at h ⊢
      have hillegible : r.isLegible ports = false := by
        unfold isLegible
        rw [hr]
        rfl
      rw [List.filter_cons_of_neg (by simp [hillegible]), ih h]

end Report

/-! ## A daemon that gives reports -/

/-- What is known while a client makes a pass over the containers on which a daemon reports: `P`
before it, and then `K left`, where the reports `left` are still to be given. -/
structure Daemon.Tells {σ : Type} (d : Daemon (Harbour σ))
    (report : Log.Entry → Act (Harbour σ) Unit) (client : ClientId) (reports : List Report)
    (P : Harbour σ → Prop) (K : List Report → Harbour σ → Prop) : Prop where
  list : Spec P (d.containers client)
    (fun entries s => entries.mapM (fun e => e.required "Id") = .ok (reports.map fun r => .str r.id) ∧
      K reports s) never
  inspect : ∀ r left, Spec (K (r :: left)) (d.inspect client (.str r.id))
    (fun v s => r.result = .ok v ∧ K left s) (failing fun f s => r.result = .error f ∧ K left s)
  report : ∀ left e, Spec (K left) (report e) (fun _ => K left) never

namespace Daemon.Tells

variable {σ : Type} {d : Daemon (Harbour σ)} {report : Log.Entry → Act (Harbour σ) Unit}
  {client : ClientId} {reports : List Report} {P : Harbour σ → Prop}
  {K : List Report → Harbour σ → Prop} (dial : Act (Harbour σ) Unit)
  (sleep : Interval → Act (Harbour σ) Unit) (publish : Table → Act (Harbour σ) Unit)

/-- A host over such a daemon tells what the reports come to. -/
theorem host (w : d.Tells report client reports P K) :
    Host.Tells (Harbour.host d dial sleep publish report) client (reports.map Report.inspection) P
      fun left _ s => ∃ todo, todo.map Report.inspection = left ∧ K todo s where
  list := by
    refine Spec.bind w.list fun entries => Spec.of_fact fun hids => ?_
    rw [Act.mapM_ofExcept (fun e : Json => e.required "Id") entries, hids]
    refine Spec.pure fun s hs => ⟨?_, reports, rfl, hs⟩
    rw [List.map_map]
    rfl
  inspect i left warnings := by
    rintro s ⟨todo, htodo, hs⟩
    cases todo with
    | nil => cases htodo
    | cons r todo =>
      obtain ⟨rfl, rfl⟩ := List.cons.inj htodo
      refine Spec.bind (R := fun v s => r.result = .ok v ∧ K todo s) ?_ (fun v => ?_) s hs
      · refine (w.inspect r todo).post (fun _ _ hs => hs) fun f s hs => ?_
        exact ⟨hs.1, by rw [Report.inspection, hs.2.1]; rfl, todo, rfl, hs.2.2⟩
      · refine Spec.of_fact fun hv => ?_
        have hresult : r.inspection.result = Container.ofInspection v := by
          rw [Report.inspection, hv]
          rfl
        rw [hresult]
        refine Spec.ofExcept (fun c hc s hs => ⟨hc, todo, rfl, hs⟩) fun f hf s hs => ?_
        exact ⟨Container.ofInspection_ordinary v f hf, hf, todo, rfl, hs⟩
  report left warnings e := by
    rintro s ⟨todo, htodo, hs⟩
    exact ((w.report todo e).post (fun _ s hs => ⟨todo, htodo, hs⟩) fun _ _ hf => hf) s hs

/-- A pass over the reports gives the table of the legible ones, unless the container of one that is
read cannot be resolved. -/
theorem enumerate (w : d.Tells report client reports P K) (ports : List String) (workers : Workers) :
    Spec P ((Harbour.host d dial sleep publish report).enumerate ports workers client)
      (fun t _ => (∀ c ∈ Report.found reports, ∃ o, resolved ports c = .ok o) ∧
        t.entries = roll ports (Report.found (reports.filter (Report.isLegible ports))))
      (failing fun f _ => Obstructed ports (Report.found reports) f) := by
  have hids : ∀ i ∈ reports.map Report.inspection, Container.IsText i.id := by
    intro i hi
    obtain ⟨r, -, rfl⟩ := List.mem_map.1 hi
    exact ⟨r.id, rfl⟩
  refine ((w.host dial sleep publish).enumerate hids ports workers).post (fun t s hs => ?_) fun _ _ hs => hs
  obtain ⟨hresolved, ht, -⟩ := hs
  refine ⟨hresolved, ?_⟩
  rw [Report.found_filter_isLegible hresolved, ht, Container.ofRoutes_firsts_offered,
    Container.entries_ofRoutes_offered]
  rfl

end Daemon.Tells

/-! ## A daemon that describes containers -/

/-- A daemon whose containers have the given ids, and which gives the same answer about a container
whenever it is asked. -/
def Daemon.describing {τ : Type} (ids : List String) (answer : String → Except Fault Json) :
    Daemon τ where
  containers _ := pure (ids.map fun id => .obj [("Id", .str id)])
  inspect
    | _, .str id => Act.ofExcept (answer id)
    | _, _ => Act.fail .pingRefused
  ping _ := pure (.bool true)
  openStream _ := pure ()
  closeStream _ _ := pure ()
  close _ := pure ()

/-- What such a daemon reports. -/
def Report.describing (ids : List String) (answer : String → Except Fault Json) : List Report :=
  ids.map fun id => ⟨id, answer id⟩

/-- Leaving out reports is leaving out ids. -/
theorem Report.describing_filter (p : Report → Bool) (ids : List String)
    (answer : String → Except Fault Json) :
    (describing ids answer).filter p =
      describing (ids.filter fun id => p ⟨id, answer id⟩) answer := by
  unfold describing
  rw [List.filter_map]
  rfl

/-- It tells its reports, if the answers fail in ordinary ways only. -/
theorem Daemon.describing_tells {σ : Type} (ids : List String) {answer : String → Except Fault Json}
    (hanswer : ∀ id ∈ ids, Ordinary (answer id)) (client : ClientId) :
    (describing (τ := Harbour σ) ids answer).Tells (fun _ => pure ()) client
      (Report.describing ids answer) (fun _ => True)
      fun left _ => ∀ r ∈ left, r.result = answer r.id ∧ Ordinary r.result where
  list := by
    refine Spec.pure fun s _ => ⟨?_, fun r hr => ?_⟩
    · rw [List.mapM_map, Report.describing, List.map_map]
      exact List.mapM_pure
    · obtain ⟨id, hid, rfl⟩ := List.mem_map.1 hr
      exact ⟨rfl, hanswer id hid⟩
  inspect r left := by
    have hleft (s : Harbour σ) (hs : ∀ q ∈ r :: left, q.result = answer q.id ∧ Ordinary q.result) :
        ∀ q ∈ left, q.result = answer q.id ∧ Ordinary q.result := fun q hq => hs q (by simp [hq])
    refine Spec.ofExcept (fun v hv s hs => ⟨?_, hleft s hs⟩) fun f hf s hs => ?_
    · rw [(hs r (by simp)).1, hv]
    · obtain ⟨hr, hord⟩ := hs r (by simp)
      exact ⟨hord f (hr.trans hf), hr.trans hf, hleft s hs⟩
  report left e := Spec.pure fun _ hs => hs

namespace Host

/-- **A pass over reports of any shape gives a table if and only if the container of every report
that is read can be resolved**, and then it is the table that comes when only the legible reports are
listed. Otherwise the pass stops for the fault of the first container that cannot be resolved. When
only the legible reports are listed, the pass never stops. -/
theorem enumerate_ok_iff_legible {σ : Type} {d d' : Daemon (Harbour σ)}
    {dial : Act (Harbour σ) Unit} {sleep : Interval → Act (Harbour σ) Unit}
    {publish : Table → Act (Harbour σ) Unit} {report : Log.Entry → Act (Harbour σ) Unit}
    {client : ClientId} {ports : List String} {reports : List Report} {P P' : Harbour σ → Prop}
    {K K' : List Report → Harbour σ → Prop} (w : d.Tells report client reports P K)
    (w' : d'.Tells report client (reports.filter (Report.isLegible ports)) P' K')
    (workers : Workers) :
    Spec P ((Harbour.host d dial sleep publish report).enumerate ports workers client)
      (fun t _ => (∀ c ∈ Report.found reports, ∃ o, resolved ports c = .ok o) ∧
        t.entries = roll ports (Report.found (reports.filter (Report.isLegible ports))))
      (failing fun f _ => Obstructed ports (Report.found reports) f) ∧
    Spec P' ((Harbour.host d' dial sleep publish report).enumerate ports workers client)
      (fun t _ => t.entries = roll ports (Report.found (reports.filter (Report.isLegible ports))))
      never := by
  refine ⟨w.enumerate dial sleep publish ports workers, ?_⟩
  refine (w'.enumerate dial sleep publish ports workers).post (fun t s ht => ?_) fun f s hf => ?_
  · rw [ht.2, List.filter_filter]
    simp only [Bool.and_self]
  · -- nothing is in the way among legible reports
    obtain ⟨-, before, c, after, hcs, hc, -⟩ := hf
    have hmem : c ∈ Report.found (reports.filter (Report.isLegible ports)) := by simp [hcs]
    obtain ⟨o, ho⟩ := Report.resolved_of_mem_found_filter hmem
    rw [ho] at hc
    cases hc

/-! ## Odd reports -/

/-- The report on a container with an environment. -/
def lodging (id : String) (env : List Json) : Json :=
  .obj [("Id", .str id), ("Name", .str ("/" ++ id)), ("Config", .obj [("Env", .arr env)]),
    ("NetworkSettings", .obj [("IPAddress", .str "10.0.0.2")])]

/-- The report on `mute` has a number in place of an entry of the environment, that on `nameless` has
one in place of the name, and `gone` cannot be inspected. -/
def motley : String → Except Fault Json
  | "mute" => .ok (lodging "mute" [.int 1])
  | "nameless" => .ok (.obj [("Id", .str "nameless"), ("Name", .int 5)])
  | "gone" => .error .pingRefused
  | id => .ok (lodging id [.str ("VIRTUAL_HOST=" ++ id), .str "VIRTUAL_PORT=80"])

theorem motley_ordinary (id : String) : Ordinary (motley id) := by
  unfold motley
  split
  · exact .ok _
  · exact .ok _
  · exact .error rfl
  · exact .ok _

/-- A pass over containers with such reports. -/
def motleyPass (ids : List String) : Act (Harbour Unit) Table :=
  (Harbour.host (Daemon.describing ids motley) (pure ()) (fun _ => pure ()) (fun _ => pure ())
    fun _ => pure ()).enumerate ["80"] {} 0

/-- The container that cannot be inspected and the one without a name are left out; only `mute` is in
the way of the others. -/
theorem enumerate_ok_iff_legible_motley :
    (∀ id ∈ ["nameless", "mute", "one", "gone"], Ordinary (motley id)) ∧
    (roll ["80"] (Report.found (Report.describing ["one"] motley))).map Prod.fst = ["one"] ∧
    (Report.found (Report.describing ["nameless", "mute", "one", "gone"] motley)).map
      (fun c => (c.name, (resolved ["80"] c).toBool)) = [("mute", false), ("one", true)] ∧
    Spec (fun _ => True) (motleyPass ["nameless", "mute", "one", "gone"])
      (fun t _ => (∀ c ∈ Report.found (Report.describing ["nameless", "mute", "one", "gone"] motley),
          ∃ o, resolved ["80"] c = .ok o) ∧
        t.entries = roll ["80"] (Report.found
          ((Report.describing ["nameless", "mute", "one", "gone"] motley).filter
            (Report.isLegible ["80"]))))
      (failing fun f _ => Obstructed ["80"]
        (Report.found (Report.describing ["nameless", "mute", "one", "gone"] motley)) f) ∧
    Spec (fun _ => True) (motleyPass ["one"])
      (fun t _ => t.entries = roll ["80"] (Report.found
          ((Report.describing ["nameless", "mute", "one", "gone"] motley).filter
            (Report.isLegible ["80"]))))
      never := by
  have hlegible : (Report.describing ["nameless", "mute", "one", "gone"] motley).filter
      (Report.isLegible ["80"]) = Report.describing ["one"] motley := by
    rw [Report.describing_filter]
    exact congrArg (Report.describing · motley) (by decide +kernel)
  have hlegibly : (Daemon.describing ["one"] motley).Tells (fun _ : Log.Entry => (pure () :
      Act (Harbour Unit) Unit)) 0 _ _ _ :=
    Daemon.describing_tells ["one"] (fun id _ => motley_ordinary id) 0
  rw [← hlegible] at hlegibly
  exact ⟨fun id _ => motley_ordinary id, by decide +kernel, by decide +kernel,
    enumerate_ok_iff_legible (Daemon.describing_tells _ (fun id _ => motley_ordinary id) 0) hlegibly {}⟩

/-- **One entry of an environment that is no text stops the whole pass**, though the other container
has a route. -/
theorem mute_stops_pass :
    ((motleyPass ["mute", "one"]).outcome { rest := { rest := () } }).1.map Table.entries =
      .error (.noMember "int" "partition") ∧
    ((motleyPass ["one"]).outcome { rest := { rest := () } }).1.map Table.entries =
      .ok [("one", ⟨"one", ⟨.str "10.0.0.2", .str "80", "one"⟩⟩)] := by
  decide +kernel

end Host

end HostRouting
