import Courier.Service.Handler
import Courier.Settings

/-!
Starting the service: its settings, its log and its server.
-/

namespace Courier

namespace Service

open Http

/-- Why the service does not start. -/
inductive StartFault
  | settings (reports : List Settings.Report)
  /-- The level of the log is unknown; the message says so. -/
  | logLevel (message : Text)
deriving DecidableEq

/-- A service that was started. -/
structure Started where
  settings : Settings
  log : Log.Config
  server : Server

/-- Starts the service. -/
def start (name date : Text) (environment : Fields Text) (file : Option Text) :
    Except StartFault Started :=
  match Settings.load environment file with
  | .error reports => .error (.settings reports)
  | .ok settings =>
    match Log.Config.set {} (some settings.logLevel)
        (environment.get? (Text.ofString "LOG_LEVEL")) with
    | (.error message, _) => .error (.logLevel message)
    | (.ok (), log) =>
      .ok { settings, log, server := { router, maxBody := settings.maxBody, name, date } }

/-- The line about a socket on which the service listens. -/
def listeningLine (socket : Text) : Log.Line where
  level := .info
  source := .service
  message := Text.ofString "listening on " ++ socket

/-- The line about the end of the service. -/
def closingLine : Log.Line where
  level := .info
  source := .service
  message := Text.ofString "shutting down"

end Service

end Courier
