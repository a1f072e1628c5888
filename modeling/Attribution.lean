import Attribution.Main
import Attribution.Proofs.Contact
import Attribution.Proofs.Listing
import Attribution.Repository.Table
import Attribution.Session
import Attribution.Proofs.Loading.Contents
import Attribution.Proofs.Rule.Says
import Attribution.Proofs.Loading.Configured
import Attribution.Proofs.Session.Crashes
import Attribution.Proofs.Session.Modes
import Attribution.Proofs.Session.Signatures
import Attribution.Proofs.Signature.Resolve
import Attribution.Proofs.Session.Answers
import Attribution.Proofs.Options.Values
import Attribution.Proofs.Repository.Runs
import Attribution.Proofs.Loading.Succeeds
import Attribution.Proofs.Session.Precedence
import Attribution.Proofs.Loading.Reachable
import Attribution.Proofs.Store.Consistent
import Attribution.Proofs.Store.Layers
import Attribution.Proofs.Store.LetterCase
import Attribution.Proofs.Store.Reordered
import Attribution.Proofs.Calendar
import Attribution.Proofs.Moment
import Attribution.Proofs.Signature.Moment
import Attribution.Proofs.Repository.AskedOnce
import Attribution.Proofs.Repository.Announced
import Attribution.Proofs.Encoding
