import SipBench.Bench.Run
import SipBench.Main
import SipBench.Proofs.Await.Arrival
import SipBench.Proofs.Listener.Log
import SipBench.Proofs.Message.RoundTrip
import SipBench.Proofs.Message.Octets
import SipBench.Proofs.Message.Draft
import SipBench.Proofs.Await.Disposal
import SipBench.Proofs.Config.Load
import SipBench.Proofs.Message.Length
import SipBench.Proofs.Log.Redaction
import SipBench.Proofs.Await.Pace
import SipBench.Proofs.Await.Nested
import SipBench.Proofs.Listener.Failure
import SipBench.Listener.Exchange
import SipBench.Proofs.Listener.Exchange
import SipBench.Proofs.Listener.Questions
import SipBench.Proofs.Log.CredentialName
import SipBench.Proofs.Message.Layout
import SipBench.Proofs.Log.Folding
import SipBench.Proofs.Listener.EventErrors
import SipBench.Proofs.Listener.Renewal
import SipBench.Proofs.Config.Effective
import SipBench.Proofs.Config.Defaults
import SipBench.Proofs.Log.Installation
import SipBench.Proofs.Listener.Answered
import SipBench.Proofs.Listener.Subscription
import SipBench.Proofs.Message.Replacement
import SipBench.Proofs.Message.LineEnds
import SipBench.Proofs.Log.Completeness
import SipBench.Proofs.Message.Lookup
import SipBench.Proofs.Check
import SipBench.Proofs.Await.Supplied
import SipBench.Proofs.Message.CSeq
import SipBench.Proofs.Audit
