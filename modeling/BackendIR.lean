import BackendIR.Standard
import BackendIR.Session.Script
import BackendIR.Proofs.Batch.Splitting
import BackendIR.Proofs.Batch.History
import BackendIR.Proofs.Procedure.WellFormed
import BackendIR.Proofs.Procedure.Predecessors
import BackendIR.Proofs.Walk.Sites
import BackendIR.Proofs.Walk.Update
import BackendIR.Proofs.Walk.Parts
import BackendIR.Proofs.Walk.Coverage
import BackendIR.Proofs.Walk.Functorial
import BackendIR.Proofs.Procedure.Rewriting
import BackendIR.Proofs.Procedure.Steady
import BackendIR.Proofs.Session.Steady
import BackendIR.Proofs.Session.Reachable
import BackendIR.Proofs.Fingerprint.Edits
import BackendIR.Proofs.Fingerprint.Resemblance
import BackendIR.Proofs.Register.Members
import BackendIR.Proofs.Pass.Chain
import BackendIR.Proofs.Convention.LastBinding
import BackendIR.Proofs.Convention.Aliases
import BackendIR.Proofs.Text.Numerals
import BackendIR.Proofs.Text.Lines
import BackendIR.Proofs.Text.Dump
import BackendIR.Proofs.Fingerprint.Order
import BackendIR.Proofs.Fingerprint.Slots
import BackendIR.Proofs.Text.Homographs
import BackendIR.Proofs.Walk.Offers
import BackendIR.Proofs.Walk.Plain
import BackendIR.Proofs.Walk.Renaming
import BackendIR.Proofs.Operand.Bank
import BackendIR.Proofs.Walk.Shuffle
import BackendIR.Proofs.Walk.Calls
import BackendIR.Proofs.Frame.SlotHistory
import BackendIR.Proofs.Frame.CallArea
import BackendIR.Proofs.Fingerprint.Families
import BackendIR.Proofs.Batch.Merging
import BackendIR.Proofs.Walk.Effects
