import MemWatch.Main
import MemWatch.Session
import MemWatch.Image
import MemWatch.Entry.Scanner
import MemWatch.Proofs.References
import MemWatch.Proofs.Loops
import MemWatch.Proofs.Walks
import MemWatch.Proofs.Numeral
import MemWatch.Proofs.Grammar
import MemWatch.Proofs.Canonical
import MemWatch.Proofs.LeadingZeros
import MemWatch.Proofs.AddressTexts
import MemWatch.Proofs.DurationTexts
import MemWatch.Proofs.Codec
import MemWatch.Proofs.Representation
import MemWatch.Proofs.Ranges
import MemWatch.Proofs.TypedAccess
import MemWatch.Proofs.LastWriter
import MemWatch.Proofs.Attempts
import MemWatch.Proofs.DirectCycle
import MemWatch.Proofs.Chains
import MemWatch.Proofs.Convergence
import MemWatch.Proofs.Transcripts
import MemWatch.Proofs.CycleCalls
import MemWatch.Proofs.Inquiries
import MemWatch.Proofs.Writes
import MemWatch.Proofs.FailureIsolation
import MemWatch.Proofs.Sinks
import MemWatch.Proofs.Runs
import MemWatch.Proofs.LimitedOutput
import MemWatch.Proofs.Sessions
import MemWatch.Proofs.ReadBack
import MemWatch.Proofs.CommandLines
import MemWatch.Proofs.ExitCodes
import MemWatch.Proofs.Resolution
import MemWatch.Proofs.ParseFaults
import MemWatch.Proofs.Redraw
import MemWatch.Proofs.ReadingLines
import MemWatch.Proofs.Service
import MemWatch.Proofs.Offsets
import MemWatch.Proofs.LowerCase
import MemWatch.Proofs.ProcessSpecs
import MemWatch.Proofs.Listings
import MemWatch.Proofs.Finding
import MemWatch.Proofs.Calendar
import MemWatch.Proofs.FileTimes
import MemWatch.Proofs.SummaryRecords
import MemWatch.Proofs.Closing
