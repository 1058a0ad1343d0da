import Courier.Main
import Courier.Proofs.CommandLine
import Courier.Proofs.Exchange.Calls
import Courier.Proofs.Exchange.Inlining
import Courier.Proofs.Http.Connection
import Courier.Proofs.Http.Length
import Courier.Proofs.Http.Message
import Courier.Proofs.Http.Paths
import Courier.Proofs.Http.Request
import Courier.Proofs.Http.Response
import Courier.Proofs.Service.Handler
import Courier.Proofs.Service.Relay
import Courier.Proofs.Service.Summary
import Courier.Proofs.Service.Trace
import Courier.Proofs.Statement.Cursor
import Courier.Proofs.Statement.Decoding
import Courier.Proofs.Statement.Refusal
import Courier.Proofs.Statement.Rendering
import Courier.Proofs.Statement.Sections
import Courier.Proofs.Statement.Surrogates
import Courier.Proofs.Url.Adding
import Courier.Proofs.Url.Components
import Courier.Proofs.Url.Numbers
import Courier.Service.Start
