import TripleStore.SharedStore
import TripleStore.Main
import TripleStore.Trial.Run
import TripleStore.Proofs.Changes
import TripleStore.Proofs.Chains
import TripleStore.Proofs.Outcome
import TripleStore.Proofs.Meaning
import TripleStore.Proofs.Combinations
import TripleStore.Proofs.Canonical
import TripleStore.Proofs.Failures
import TripleStore.Proofs.Record
import TripleStore.Proofs.SavedResults
import TripleStore.Proofs.Findings
import TripleStore.Proofs.Imports
import TripleStore.Proofs.Sampling
import TripleStore.Proofs.SelectLog
import TripleStore.Proofs.Trials
import TripleStore.Proofs.Handles
import TripleStore.Proofs.Written
import TripleStore.Proofs.Joins
import TripleStore.Proofs.TableText
import TripleStore.Proofs.Reports
import TripleStore.Proofs.Growth
import TripleStore.Proofs.Reordering
import TripleStore.Proofs.References
import TripleStore.Proofs.Typing
import TripleStore.Proofs.Agreement
import TripleStore.Proofs.Attributes
import TripleStore.Proofs.TextOrder
import TripleStore.Proofs.Comparisons
import TripleStore.Proofs.SelfJoins
import TripleStore.Proofs.Lookups
import TripleStore.Proofs.Membership
import TripleStore.Proofs.Integers
import TripleStore.Proofs.LineGrammar
import TripleStore.Proofs.Chunks
import TripleStore.Proofs.Layout
import TripleStore.Proofs.DumpLines
import TripleStore.Proofs.FileImports
import TripleStore.Proofs.Alarms
import TripleStore.Proofs.DrawnData
