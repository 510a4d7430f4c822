import VersionStamp.Main
import VersionStamp.Proofs.Answers
import VersionStamp.Proofs.AtOnce
import VersionStamp.Proofs.Atomicity
import VersionStamp.Proofs.Ceiling
import VersionStamp.Proofs.Contexts
import VersionStamp.Proofs.Course
import VersionStamp.Proofs.Decoding
import VersionStamp.Proofs.Discovery
import VersionStamp.Proofs.Foresight
import VersionStamp.Proofs.Frame
import VersionStamp.Proofs.InOrder
import VersionStamp.Proofs.Missing
import VersionStamp.Proofs.Questions
import VersionStamp.Proofs.Reporting
import VersionStamp.Proofs.Resuming
import VersionStamp.Proofs.SecondRun
import VersionStamp.Proofs.Showing
import VersionStamp.Proofs.Succession
