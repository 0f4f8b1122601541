import QuadFold.Main
import QuadFold.Session
import QuadFold.Proofs.Literals
import QuadFold.Proofs.Steps
import QuadFold.Proofs.Meaning
import QuadFold.Proofs.Refolding
import QuadFold.Proofs.Agreement
import QuadFold.Proofs.Reaching
import QuadFold.Proofs.Log
import QuadFold.Proofs.Grammar
import QuadFold.Proofs.Reading
import QuadFold.Proofs.RoundTrip
import QuadFold.Proofs.LiteralOperands
import QuadFold.Proofs.Files
import QuadFold.Proofs.Saving
import QuadFold.Proofs.Building
import QuadFold.Proofs.Refusal
import QuadFold.Proofs.Locality
import QuadFold.Proofs.Exchange
import QuadFold.Proofs.Context
import QuadFold.Proofs.Completeness
import QuadFold.Proofs.CommandLine
import QuadFold.Proofs.Renaming
import QuadFold.Proofs.Margins
import QuadFold.Proofs.Records
import QuadFold.Proofs.Temporaries
import QuadFold.Proofs.Arithmetic
import QuadFold.Proofs.Updates
