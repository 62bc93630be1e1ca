import HostRouting.Settings
import HostRouting.Proofs.Splitting
import HostRouting.Proofs.Stripping

/-!
# Lists of ports

The ports to try are written with commas between them. Blanks around a port and fields without one
do not count, wherever they are; a list is read piece by piece, and ports come back as they were put
together.
-/

namespace HostRouting

open Text (Trimmed fields)

variable {p raw : String} {ps : List String}

/-- The text can stand for one port in a list: it is not empty, has no comma, and no blank at its
ends. -/
structure IsPortField (p : String) : Prop where
  ne_empty : p ≠ ""
  no_comma : ',' ∉ p.toList
  trimmed : Trimmed p

/-! ## The pieces of a list -/

/-- Two lists with a comma between them are read one after the other. -/
theorem parsePorts_append (a b : String) :
    parsePorts (a ++ "," ++ b) = parsePorts a ++ parsePorts b := by
  have hfields : fields ',' (a ++ "," ++ b) = fields ',' a ++ fields ',' b :=
    Text.fields_append ',' a b
  rw [parsePorts, hfields, List.map_append, List.filter_append]
  rfl

/-- What is read can stand for one port. -/
theorem isPortField_of_mem_parsePorts (h : p ∈ parsePorts raw) : IsPortField p := by
  obtain ⟨hstripped, hne⟩ := List.mem_filter.1 h
  obtain ⟨f, hf, rfl⟩ := List.mem_map.1 hstripped
  constructor
  · simpa using hne
  · intro hcomma
    exact Text.not_mem_of_mem_fields hf (Text.mem_of_mem_strip hcomma)
  · exact (Text.strip_eq_iff.1 rfl).1

/-- Ports come back as they were put together. -/
theorem parsePorts_intercalate (h : ∀ p ∈ ps, IsPortField p) :
    parsePorts (",".intercalate ps) = ps := by
  by_cases hps : ps = []
  · subst hps
    decide
  · have hfields : fields ',' (",".intercalate ps) = ps :=
      Text.fields_intercalate hps fun p hp => (h p hp).no_comma
    have hstripped : ps.map Text.strip = ps := by
      conv_rhs => rw [← List.map_id ps]
      exact List.map_congr_left fun p hp => Text.strip_of_trimmed (h p hp).trimmed
    rw [parsePorts, hfields, hstripped, List.filter_eq_self]
    intro p hp
    simpa using (h p hp).ne_empty

/-- **A list of ports is split cleanly.** Two lists with a comma between them are read one after the
other; what is read is not empty, has no comma and no blank at its ends; just the lists of such texts
come back as they were put together, and so what was read is read again as it is. -/
theorem parsePorts_splits (a b : String) (ps : List String) :
    parsePorts (a ++ "," ++ b) = parsePorts a ++ parsePorts b ∧
      (∀ p ∈ parsePorts a, IsPortField p) ∧
      (parsePorts (",".intercalate ps) = ps ↔ ∀ p ∈ ps, IsPortField p) ∧
      parsePorts (",".intercalate (parsePorts a)) = parsePorts a := by
  have hread : ∀ p ∈ parsePorts a, IsPortField p := fun p hp => isPortField_of_mem_parsePorts hp
  refine ⟨parsePorts_append a b, hread, ?_, parsePorts_intercalate hread⟩
  constructor
  · intro hps p hp
    rw [← hps] at hp
    exact isPortField_of_mem_parsePorts hp
  · exact parsePorts_intercalate

/-- Blanks and empty fields anywhere. -/
example : parsePorts " 80,,\u00a08080 , \t,x y" = ["80", "8080", "x y"] := by decide

end HostRouting
