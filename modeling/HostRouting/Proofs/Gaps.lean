import HostRouting.Proofs.Ordinary
import HostRouting.Proofs.Shape
import HostRouting.Proofs.Stripping

/-!
# Inspection reports with gaps

The daemon leaves out of an inspection report what there is nothing to say about, or says `null`, at
every level of the report. Such a gap is read like the empty value in its place. So a report of the
right shape is always read, as the one with all gaps filled is, and that one says plainly what the
container is.
-/

namespace HostRouting.Container

open Json
open Json.Shape (Passes FitsLoosely FitsWholly fill)

/-! ## The shape of a report -/

/-- The places on the host to which a port is published. -/
def bindingShape : Shape := .field "HostIp" .text (.field "HostPort" .text .object)

/-- The attachment to a network. -/
def attachmentShape : Shape := .field "IPAddress" .text .object

/-- The network settings: ports and networks may have any names. -/
def networkShape : Shape :=
  .field "IPAddress" .text (.field "Ports" (.mapping (.list bindingShape))
    (.field "Networks" (.mapping attachmentShape) .object))

/-- The configuration. -/
def configShape : Shape := .field "Env" (.list .text) .object

/-- The report on a container. -/
def reportShape : Shape :=
  .field "Id" .text (.field "Name" .text (.field "Node" .object
    (.field "Config" configShape (.field "NetworkSettings" networkShape .object))))

theorem networkShape_isProper : networkShape.IsProper := by
  simp [networkShape, attachmentShape, bindingShape, Shape.IsProper, Shape.IsRecord, Shape.at?]

theorem configShape_isProper : configShape.IsProper := by
  simp [configShape, Shape.IsProper, Shape.IsRecord, Shape.at?]

theorem reportShape_isProper : reportShape.IsProper := by
  simp [reportShape, configShape_isProper, networkShape_isProper, Shape.IsProper, Shape.IsRecord,
    Shape.at?]

theorem networkShape_ports : networkShape.at? "Ports" = some (.mapping (.list bindingShape)) := by
  simp [networkShape, Shape.at?]

theorem networkShape_networks : networkShape.at? "Networks" = some (.mapping attachmentShape) := by
  simp [networkShape, Shape.at?]

/-! ## What a report says in which nothing is missing -/

/-- The binding of an entry. -/
def plainBinding (entry : Json) : Binding := ⟨entry.valueAt "HostIp", entry.valueAt "HostPort"⟩

/-- The container of a report. -/
def plainContainer (report : Json) : Container :=
  let net := report.valueAt "NetworkSettings"
  let name := (report.valueAt "Name").text?.getD ""
  { id := report.valueAt "Id"
    name := String.ofList (name.toList.dropWhile (· == '/'))
    env := ((report.valueAt "Config").valueAt "Env").elements
    ports := (net.valueAt "Ports").members.map fun p => (p.1, p.2.elements.map plainBinding)
    ip := net.valueAt "IPAddress"
    networks := (net.valueAt "Networks").members.map fun n => (n.1, n.2.valueAt "IPAddress")
    isRemote := !(report.valueAt "Node").members.isEmpty }

/-! ## Reading gaps -/

section

variable {v report : Json} {key : String} {s t : Shape}

theorem field_of_isObject (h : IsObject v) (key : String) : v.field key = .ok (v.valueAt key) := by
  obtain ⟨fields, rfl⟩ := h
  rfl

/-- A gap is read as the empty text. -/
theorem textField_of_fits (h : FitsLoosely s v) (hs : s.IsProper) (hkeys : s.HasKeys)
    (hkey : s.at? key = some .text) : textField v key = .ok ((fill s v).valueAt key) := by
  have hpasses : Passes s v := .inr h
  rw [textField, field_of_isObject (h.isObject hs hkeys), hpasses.valueAt_fill hs hkey]
  rcases hpasses.valueAt hkey with hnull | htext
  · rw [hnull]
    rfl
  · obtain ⟨t, ht⟩ := Shape.fits_text_iff.1 htext
    rw [ht]
    by_cases hempty : t = ""
    · subst hempty
      rfl
    · simp [orElse, isTruthy, hempty, fill, bind, Except.bind, pure, Except.pure]

/-- A gap is read as the empty object. -/
theorem orElse_obj_nil (h : v = null ∨ IsObject v) : v.orElse (.obj []) = .obj v.members := by
  rcases h with rfl | ⟨fields, rfl⟩
  · rfl
  · cases fields <;> rfl

theorem objectField_of_fits (h : FitsLoosely s v) (hs : s.IsProper) (hkeys : s.HasKeys)
    (hkey : s.at? key = some t) (ht : t.HasKeys) : ∃ part, objectField v key = .ok part ∧
      FitsLoosely t part ∧ fill t part = (fill s v).valueAt key := by
  have hpasses : Passes s v := .inr h
  have hpart : Passes t (v.valueAt key) := hpasses.valueAt hkey
  obtain ⟨hfits, hfill⟩ := hpart.obj_members (hs.at? hkey) ht
  refine ⟨.obj (v.valueAt key).members, ?_, hfits, hfill.trans (hpasses.valueAt_fill hs hkey).symm⟩
  rw [objectField, field_of_isObject (h.isObject hs hkeys)]
  exact congrArg Except.ok (orElse_obj_nil (hpart.null_or_isObject (hs.at? hkey) ht))

/-- A gap is read as the empty list. -/
theorem items_of_passes (h : Passes (.list s) v) : (v.orElse (.arr [])).items = .ok v.elements := by
  rcases h with rfl | h
  · rfl
  · obtain ⟨items, rfl, -⟩ := Shape.fits_list_iff.1 h
    cases items <;> rfl

theorem isTruthy_of_passes (h : Passes .object v) :
    v.isTruthy = !(fill .object v).members.isEmpty := by
  rcases h with rfl | h
  · rfl
  · obtain ⟨fields, rfl⟩ := Shape.fits_object_iff.1 h
    rfl

/-! ## Reading a report -/

theorem bindingOf_of_fits (h : FitsLoosely bindingShape v) :
    bindingOf v = .ok (plainBinding (fill bindingShape v)) := by
  have hs : bindingShape.IsProper := by simp [bindingShape, Shape.IsProper, Shape.IsRecord, Shape.at?]
  rw [bindingOf, textField_of_fits h hs trivial (by simp [bindingShape, Shape.at?]),
    textField_of_fits h hs trivial (by simp [bindingShape, Shape.at?])]
  rfl

theorem bindingsOf_of_passes (h : Passes (.list bindingShape) v) :
    bindingsOf v = .ok ((fill (.list bindingShape) v).elements.map plainBinding) := by
  rw [bindingsOf, items_of_passes h, Shape.elements_fill, List.map_map]
  refine mapM_eq_map fun e he => bindingOf_of_fits ?_
  rcases h with rfl | h
  · cases he
  · obtain ⟨items, rfl, hitems⟩ := Shape.fits_list_iff.1 h
    exact hitems e he

theorem attachmentAddress_of_passes (h : Passes attachmentShape v) :
    attachmentAddress v = .ok ((fill attachmentShape v).valueAt "IPAddress") := by
  have hs : attachmentShape.IsProper := by
    simp [attachmentShape, Shape.IsProper, Shape.IsRecord, Shape.at?]
  obtain ⟨hfits, hfill⟩ := h.obj_members hs trivial
  rw [attachmentAddress, orElse_obj_nil (h.null_or_isObject hs trivial), ← hfill]
  exact textField_of_fits hfits hs trivial (by simp [attachmentShape, Shape.at?])

theorem portsOf_of_fits (h : FitsLoosely networkShape v) :
    portsOf v = .ok (((fill networkShape v).valueAt "Ports").members.map
      fun p => (p.1, p.2.elements.map plainBinding)) := by
  obtain ⟨ports, hread, hfits, hfill⟩ :=
    objectField_of_fits h networkShape_isProper trivial networkShape_ports trivial
  obtain ⟨fields, rfl, hfields⟩ := Shape.fits_mapping_iff.1 hfits
  rw [portsOf, hread, ← hfill, Shape.members_fill, List.map_map]
  refine mapM_eq_map fun p hp => ?_
  rw [bindingsOf_of_passes (hfields p hp)]
  rfl

theorem networksOf_of_fits (h : FitsLoosely networkShape v) :
    networksOf v = .ok (((fill networkShape v).valueAt "Networks").members.map
      fun n => (n.1, n.2.valueAt "IPAddress")) := by
  obtain ⟨networks, hread, hfits, hfill⟩ :=
    objectField_of_fits h networkShape_isProper trivial networkShape_networks trivial
  obtain ⟨fields, rfl, hfields⟩ := Shape.fits_mapping_iff.1 hfits
  rw [networksOf, hread, ← hfill, Shape.members_fill, List.map_map]
  refine mapM_eq_map fun n hn => ?_
  rw [attachmentAddress_of_passes (hfields n hn)]
  rfl

/-- Texts in a list are there as they are. -/
theorem elements_fill_texts (h : Passes (.list .text) v) :
    (fill (.list .text) v).elements = v.elements := by
  rcases h with rfl | h
  · rfl
  · obtain ⟨items, rfl, hitems⟩ := Shape.fits_list_iff.1 h
    have hsame : ∀ i ∈ items, fill .text i = i := by
      intro i hi
      obtain ⟨t, rfl⟩ := Shape.fits_text_iff.1 (hitems i hi)
      rfl
    rw [Shape.elements_fill, elements, List.map_congr_left hsame, List.map_id']

theorem environment_of_fits (h : FitsLoosely configShape v) : ∃ env, v.field "Env" = .ok env ∧
    (env.orElse (.arr [])).items = .ok ((fill configShape v).valueAt "Env").elements := by
  have hpasses : Passes configShape v := .inr h
  have hkey : configShape.at? "Env" = some (.list .text) := by simp [configShape, Shape.at?]
  have henv : Passes (.list .text) (v.valueAt "Env") := hpasses.valueAt hkey
  refine ⟨_, field_of_isObject (h.isObject configShape_isProper trivial) "Env", ?_⟩
  rw [hpasses.valueAt_fill configShape_isProper hkey, elements_fill_texts henv]
  exact items_of_passes henv

/-- A name is read without the slashes at its beginning. -/
theorem name_of_fits (h : FitsLoosely reportShape v) : ∃ name, textField v "Name" = .ok name ∧
    name.withoutSlashes = .ok (plainContainer (fill reportShape v)).name := by
  have hpasses : Passes reportShape v := .inr h
  have hkey : reportShape.at? "Name" = some .text := by simp [reportShape, Shape.at?]
  have htext := (hpasses.valueAt hkey).fill_fits trivial
  rw [← hpasses.valueAt_fill reportShape_isProper hkey] at htext
  obtain ⟨t, ht⟩ := Shape.fits_text_iff.1 htext
  refine ⟨_, textField_of_fits h reportShape_isProper trivial hkey, ?_⟩
  rw [plainContainer, ht]
  rfl

/-- A report of the right shape is read as it is with all gaps filled. -/
theorem ofInspection_of_fits (h : FitsLoosely reportShape report) :
    ofInspection report = .ok (plainContainer (fill reportShape report)) := by
  have hpasses : Passes reportShape report := .inr h
  have hnode : reportShape.at? "Node" = some .object := by simp [reportShape, Shape.at?]
  have hconfig : reportShape.at? "Config" = some configShape := by simp [reportShape, Shape.at?]
  have hnet : reportShape.at? "NetworkSettings" = some networkShape := by
    simp [reportShape, Shape.at?]
  obtain ⟨config, hconfigRead, hconfigFits, hconfigFill⟩ :=
    objectField_of_fits h reportShape_isProper trivial hconfig trivial
  obtain ⟨net, hnetRead, hnetFits, hnetFill⟩ :=
    objectField_of_fits h reportShape_isProper trivial hnet trivial
  have hid : textField report "Id" = _ := textField_of_fits h reportShape_isProper trivial
    (by simp [reportShape, Shape.at?])
  have hip : textField net "IPAddress" = _ := textField_of_fits hnetFits networkShape_isProper
    trivial (by simp [networkShape, Shape.at?])
  have hremote := isTruthy_of_passes (hpasses.valueAt hnode)
  rw [← hpasses.valueAt_fill reportShape_isProper hnode] at hremote
  have hobject := field_of_isObject (h.isObject reportShape_isProper trivial) "Node"
  obtain ⟨env, henv, hitems⟩ := environment_of_fits hconfigFits
  obtain ⟨name, hname, hslashes⟩ := name_of_fits h
  have hports := portsOf_of_fits hnetFits
  have hnetworks := networksOf_of_fits hnetFits
  rw [hconfigFill] at hitems
  rw [hnetFill] at hip hports hnetworks
  simp only [ofInspection, hconfigRead, hnetRead, hports, hnetworks, hid, hname, hslashes, henv,
    hitems, hip, hobject, hremote, bind, Except.bind, pure, Except.pure]
  rfl

/-- Ports and networks have the names that the report gives them. -/
theorem names_fill (h : FitsLoosely reportShape report) (hkey : networkShape.at? key =
    some (.mapping s)) : (((fill reportShape report).valueAt "NetworkSettings").valueAt key).members =
      ((report.valueAt "NetworkSettings").valueAt key).members.map fun f => (f.1, fill s f.2) := by
  have hpasses : Passes reportShape report := .inr h
  have hnet : reportShape.at? "NetworkSettings" = some networkShape := by
    simp [reportShape, Shape.at?]
  rw [hpasses.valueAt_fill reportShape_isProper hnet,
    (hpasses.valueAt hnet).valueAt_fill networkShape_isProper hkey, Shape.members_fill]

/-- **Gaps are tolerated.** A report in which anything is missing or `null`, but what there is has the
right type, is read like the report with every gap filled, and as what that says plainly: every port
and every network is kept in its place, a port that says nothing as one that is not published, and the
name begins with no slash. -/
theorem ofInspection_tolerates_gaps (report : Json) (h : FitsLoosely reportShape report) :
    FitsWholly reportShape (fill reportShape report) ∧
      ∃ c, ofInspection report = .ok c ∧ ofInspection (fill reportShape report) = .ok c ∧
        c = plainContainer (fill reportShape report) ∧
        c.ports.map Prod.fst =
          ((report.valueAt "NetworkSettings").valueAt "Ports").members.map Prod.fst ∧
        (∀ (i : Nat) (port : String) (bindings : Json),
          ((report.valueAt "NetworkSettings").valueAt "Ports").members[i]? = some (port, bindings) →
            bindings = null ∨ bindings = arr [] → c.ports[i]? = some (port, [])) ∧
        c.networks.map Prod.fst =
          ((report.valueAt "NetworkSettings").valueAt "Networks").members.map Prod.fst ∧
        c.name.toList.head? ≠ some '/' := by
  have hpasses : Passes reportShape report := .inr h
  have hwholly : FitsWholly reportShape (fill reportShape report) :=
    hpasses.fill_fits reportShape_isProper
  have hports := names_fill h networkShape_ports
  have hnetworks := names_fill h networkShape_networks
  refine ⟨hwholly, plainContainer (fill reportShape report), ofInspection_of_fits h, ?_, rfl, ?_, ?_,
    ?_, ?_⟩
  · -- there are no gaps left to fill a second time
    have hfilled := ofInspection_of_fits hwholly.loosely
    rwa [Shape.fill_eq_self hwholly] at hfilled
  · simp only [plainContainer, hports, List.map_map]
    rfl
  · intro i port bindings hi hnone
    simp only [plainContainer, hports, List.getElem?_map, hi, Option.map_some]
    rcases hnone with rfl | rfl <;> rfl
  · simp only [plainContainer, hnetworks, List.map_map]
    rfl
  · rw [plainContainer, String.toList_ofList]
    intro hslash
    exact Bool.noConfusion (Text.head_dropWhile_eq_false _ hslash)

end

/-- A report with gaps at every level. -/
def sparseReport : Json := .obj [("Name", .str "//web"), ("Config", .null), ("NetworkSettings", .obj [
  ("Ports", .obj [("80/tcp", .arr [.obj [("HostPort", .str "8080")]]), ("90/tcp", .null),
    ("443/tcp", .arr [])]),
  ("Networks", .obj [("bridge", .null), ("shop", .obj [("IPAddress", .str "10.0.0.5")])])])]

/-- The container of that report. -/
def sparseContainer : Container where
  id := .str ""
  name := "web"
  ports := [("80/tcp", [⟨.str "", .str "8080"⟩]), ("90/tcp", []), ("443/tcp", [])]
  networks := [("bridge", .str ""), ("shop", .str "10.0.0.5")]

theorem ofInspection_tolerates_gaps_everywhere : FitsLoosely reportShape sparseReport ∧
    ofInspection sparseReport = .ok sparseContainer ∧
    ofInspection (fill reportShape sparseReport) = .ok sparseContainer := by
  have hfits : FitsLoosely reportShape sparseReport := by
    simp [sparseReport, reportShape, configShape, networkShape, attachmentShape, bindingShape,
      Shape.Fits, valueAt, lookup]
  have hread : ofInspection sparseReport = .ok sparseContainer := by rfl
  obtain ⟨-, c, hc, hfilled, -⟩ := ofInspection_tolerates_gaps sparseReport hfits
  refine ⟨hfits, hread, ?_⟩
  rw [hfilled, ← hc, hread]

end HostRouting.Container
