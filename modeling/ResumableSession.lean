import ResumableSession.Command.Isolated
import ResumableSession.Gateway.Token
import ResumableSession.Line.Piped
import ResumableSession.Main
import ResumableSession.Proofs.Channel.Sendable
import ResumableSession.Proofs.Exchange.Delivery
import ResumableSession.Proofs.Exchange.Exhaustion
import ResumableSession.Proofs.Exchange.Trust
import ResumableSession.Proofs.Gateway.Issuing
import ResumableSession.Proofs.Gateway.Lifecycle
import ResumableSession.Proofs.Gateway.Tokens
import ResumableSession.Proofs.Line.Reporting
import ResumableSession.Proofs.Line.Writing
import ResumableSession.Proofs.Session.LastWords
import ResumableSession.Proofs.Session.Life
import ResumableSession.Proofs.Session.Lingering
import ResumableSession.Proofs.Session.Offline
import ResumableSession.Proofs.Session.Probing
import ResumableSession.Proofs.Session.Receipts
import ResumableSession.Proofs.Session.Superseded
import ResumableSession.Proofs.Session.Tenure
import ResumableSession.Proofs.Wire.Decoding
import ResumableSession.Proofs.Wire.Filling
import ResumableSession.Proofs.Wire.Integers
import ResumableSession.Proofs.Wire.Resending
import ResumableSession.Proofs.Session.Smoothing
import ResumableSession.Proofs.Session.Window
