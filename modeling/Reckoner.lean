import Reckoner.Main
import Reckoner.Proofs.Grammar
import Reckoner.Proofs.Parsing
import Reckoner.Proofs.Outcomes
import Reckoner.Proofs.Machine
import Reckoner.Proofs.Lexical
import Reckoner.Proofs.Tokenizing
import Reckoner.Proofs.Spelling
import Reckoner.Proofs.RoundTrip
import Reckoner.Proofs.Placement
import Reckoner.Proofs.Nesting
import Reckoner.Proofs.Stopping
import Reckoner.Proofs.Viable
import Reckoner.Proofs.Expecting
import Reckoner.Proofs.Walking
import Reckoner.Proofs.Progress
import Reckoner.Proofs.Scoping
import Reckoner.Proofs.Effects
import Reckoner.Proofs.Kinds
import Reckoner.Proofs.Evaluable
import Reckoner.Proofs.Locating
import Reckoner.Proofs.Assigning
import Reckoner.Proofs.Chains
import Reckoner.Proofs.Histories
import Reckoner.Proofs.Noninterference
import Reckoner.Proofs.Tracing
import Reckoner.Proofs.Repeating
import Reckoner.Proofs.Joining
import Reckoner.Proofs.Lines
import Reckoner.Proofs.Underlining
import Reckoner.Proofs.Counting
import Reckoner.Proofs.Naming
import Reckoner.Proofs.Scripts
import Reckoner.Proofs.Rounding
import Reckoner.Proofs.Integers
import Reckoner.Proofs.Printing
