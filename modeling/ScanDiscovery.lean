import ScanDiscovery.Main
import ScanDiscovery.Proofs.Xml.Content
import ScanDiscovery.Proofs.Xml.Report
import ScanDiscovery.Proofs.Xml.Reading
import ScanDiscovery.Proofs.Xml.Progress
import ScanDiscovery.Proofs.Xml.Visiting
import ScanDiscovery.Proofs.Xml.Beginning
import ScanDiscovery.Proofs.Xml.Cut
import ScanDiscovery.Proofs.Xml.Noting
import ScanDiscovery.Proofs.Xml.Elements
import ScanDiscovery.Proofs.Xml.Story
import ScanDiscovery.Proofs.Xml.Script
import ScanDiscovery.Proofs.Xml.Insertion
import ScanDiscovery.Proofs.Xml.Passing
import ScanDiscovery.Proofs.Device.Sources
import ScanDiscovery.Proofs.Response.Absorb
import ScanDiscovery.Proofs.Response.Front
import ScanDiscovery.Proofs.Response.Reports
import ScanDiscovery.Proofs.Response.Accepted
import ScanDiscovery.Proofs.Response.Soundness
import ScanDiscovery.Proofs.Response.Duplex
import ScanDiscovery.Proofs.Response.Configuration
import ScanDiscovery.Proofs.Response.Reference
import ScanDiscovery.Proofs.Response.Truncated
import ScanDiscovery.Proofs.Response.Prior
import ScanDiscovery.Proofs.Response.Streaming
import ScanDiscovery.Proofs.Response.Inert
import ScanDiscovery.Proofs.Xml.Rearranged
import ScanDiscovery.Proofs.Response.Stated
import ScanDiscovery.Proofs.Response.Order
import ScanDiscovery.Proofs.Xml.Respelled
import ScanDiscovery.Proofs.Response.Spelling
import ScanDiscovery.Proofs.Text.Ascii
import ScanDiscovery.Proofs.Xml.Foreign
import ScanDiscovery.Proofs.Response.Foreign
import ScanDiscovery.Proofs.Xml.Chain
import ScanDiscovery.Proofs.Response.Chain
import ScanDiscovery.Proofs.Response.Several
import ScanDiscovery.Proofs.Device.Meet
import ScanDiscovery.Proofs.Response.Irrevocable
import ScanDiscovery.Proofs.Xml.Bindings
import ScanDiscovery.Proofs.Xml.Resuming
import ScanDiscovery.Proofs.Xml.Faults
import ScanDiscovery.Proofs.Response.Verdict
import ScanDiscovery.Proofs.Xml.OwnText
import ScanDiscovery.Proofs.Xml.Ending
import ScanDiscovery.Proofs.Xml.Sections
import ScanDiscovery.Proofs.Response.Remarks
import ScanDiscovery.Proofs.Decimal.Numeral
import ScanDiscovery.Proofs.Text.Encoded
import ScanDiscovery.Proofs.Xml.Written
import ScanDiscovery.Proofs.Xml.Survey
import ScanDiscovery.Proofs.Request.Received
import ScanDiscovery.Proofs.Response.Number
import ScanDiscovery.Proofs.Xml.Slicing
