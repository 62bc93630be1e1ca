import HostRouting.Main
import HostRouting.Proofs.Spec
import HostRouting.Proofs.Enumeration
import HostRouting.Proofs.Outline
import HostRouting.Proofs.Journal
import HostRouting.Proofs.Closing
import HostRouting.Proofs.Harbour
import HostRouting.Proofs.Shore
import HostRouting.Proofs.Chronicle
import HostRouting.Proofs.Sole
import HostRouting.Proofs.Tally
import HostRouting.Proofs.Attention
import HostRouting.Proofs.Refusal
import HostRouting.Proofs.Census
import HostRouting.Proofs.Stirring
import HostRouting.Proofs.Upkeep
import HostRouting.Proofs.Precedence
import HostRouting.Proofs.Roll
import HostRouting.Proofs.Legible
import HostRouting.Proofs.Likeness
import HostRouting.Proofs.Recording
import HostRouting.Proofs.Logbook
import HostRouting.Proofs.Gazette
import HostRouting.Proofs.Publication
import HostRouting.Proofs.Stride
import HostRouting.Proofs.Coherence
import HostRouting.Proofs.Containment
import HostRouting.Proofs.Patience
import HostRouting.Proofs.Tree
import HostRouting.Proofs.Opening
import HostRouting.Proofs.Startup
import HostRouting.Proofs.Glimpse
import HostRouting.Proofs.Restart
import HostRouting.Proofs.Interruption
import HostRouting.Proofs.Landing
import HostRouting.Proofs.Audience
import HostRouting.Proofs.Registry
import HostRouting.Proofs.Delivery
import HostRouting.Proofs.Adrift
import HostRouting.Proofs.Rooted
import HostRouting.Proofs.Recovery
import HostRouting.Proofs.Ledger
import HostRouting.Proofs.Routing
import HostRouting.Proofs.Disclosure
import HostRouting.Proofs.Admission
import HostRouting.Proofs.Reordering
import HostRouting.Proofs.Fallback
import HostRouting.Proofs.Sorting
import HostRouting.Proofs.Canon
import HostRouting.Proofs.Stripping
import HostRouting.Proofs.Deciding
import HostRouting.Proofs.Views
import HostRouting.Proofs.HangingUp
import HostRouting.Proofs.Consumption
import HostRouting.Proofs.PortList
import HostRouting.Proofs.Turnover
import HostRouting.Proofs.Gaps
import HostRouting.Proofs.Addresses
