import Ledger.Mail.Address
import Ledger.Mail.QuotedPrintable
import Ledger.Log
import Ledger.Transaction
import Ledger.Mask
/-!
# The failed-transactions report and its delivery

The report lists the transactions left `FAILED` between two times, one line each with the
account number masked. It is delivered to a mail relay in one exchange: plain authentication,
the envelope, then the message in quoted-printable; the first refused step ends the exchange.
-/

/-! ## The report -/

namespace Ledger

/-- A mail message: sender, recipients, subject and plain text. -/
structure Report where
  sender : String
  recipients : List String
  subject : String
  text : Bytes
  deriving Repr, Inhabited

namespace Report

/-- Pads text on the right with spaces to `width` characters. -/
def padRight (width : Nat) (s : String) : String :=
  s ++ String.ofList (List.replicate (width - s.length) ' ')

/-- The report line of one transaction. -/
def line (t : Transaction) : Bytes :=
  Bytes.ofString ("- " ++ t.timestamp.toPlainText ++ "  " ++ t.id.toText ++ "  " ++
    padRight 10 t.type.text ++ " " ++ t.amount.toFixed 2 ++ "  account ") ++
    Bytes.mask t.accountNumber ++ Bytes.ofString "\n"

/-- The report of the transactions left failed between `since` and `upTo`. -/
def failedTransactions (sender : String) (recipients : List String) (txns : List Transaction)
    (since upTo : Instant) : Report :=
  let intro := "Hello,\n\nThe following transactions were recorded but their account update did not commit\n" ++
    "between " ++ since.toPlainText ++ " and " ++ upTo.toPlainText ++
    " (UTC). Balances were not changed.\n\n"
  { sender, recipients
    subject := "Failed Transactions Report: " ++ toString txns.length ++ " transaction(s)"
    text := Bytes.ofString intro ++ (txns.map line).flatten ++
      Bytes.ofString "\nBest regards,\nTransaction Service" }

end Report
end Ledger

/-! ## Delivery -/

namespace Ledger.Mail

/-- The steps of an exchange a relay may refuse. -/
inductive Step where
  | auth
  | mail
  | rcpt
  | data
  deriving DecidableEq, Repr, Inhabited

/-- A mail relay: whether it offers authentication, and the step it refuses with its
reply. -/
structure Relay where
  offersAuth : Bool
  refuses : Option Step := none
  reply : String := "550 5.7.1 rejected by policy"
  deriving Repr, Inhabited

/-- What the relay saw: the envelope's sender and recipients as written after
`MAIL FROM:` and `RCPT TO:`, the text after `AUTH`, and the message's headers and body
when it arrived. -/
structure Transcript where
  mailFrom : String := ""
  rcptTo : List String := []
  auth : Option String := none
  headers : Option (List (String × String)) := none
  body : Option Bytes := none
  deriving Repr, Inhabited

/-- The refusal of authentication. -/
def authRefusal : String := "535 5.7.8 authentication failed"

/-- A header naming addresses: each comma-separated part written back when it is an
address, kept as it is otherwise. -/
def addressHeader (value : String) : String :=
  ", ".intercalate ((value.splitOn ",").map fun part =>
    match Address.parse part with
    | .ok a => a.render
    | .error _ => part)

/-- The headers of a report's message, by name. -/
def messageHeaders (r : Report) : List (String × String) :=
  [("Content-Transfer-Encoding", "quoted-printable"), ("Content-Type", "text/plain; charset=UTF-8"),
    ("From", addressHeader r.sender), ("Mime-Version", "1.0"), ("Subject", r.subject),
    ("To", addressHeader (", ".intercalate r.recipients))]

/-- The body of a report's message as it arrives, ending with a line break. -/
def messageBody (r : Report) : Bytes := quotedPrintable r.text ++ [13, 10]

/-- Delivers a report to a relay; gives what the relay saw and the failure, if any. -/
def deliver (relay : Relay) (username password : String) (r : Report) : Transcript × Option String :=
  let seen : Transcript := {}
  match r.recipients.mapM Address.parse with
  | .error e => (seen, some e)
  | .ok recipients =>
    if r.sender.isEmpty || recipients.isEmpty then
      (seen, some "Must specify at least one From address and one To address")
    else match Address.parse r.sender with
    | .error e => (seen, some e)
    | .ok sender =>
      let hasBreak (s : String) := s.contains '\r' || s.contains '\n'
      if hasBreak sender.address || recipients.any (hasBreak ·.address) then
        (seen, some "smtp: A line must not contain CR or LF")
      else if !relay.offersAuth then (seen, some "smtp: server doesn't support AUTH")
      else
        let token := Crypto.base64Encode (Bytes.ofString ("\x00" ++ username ++ "\x00" ++ password))
        let seen := { seen with auth := some ("PLAIN " ++ token) }
        if relay.refuses == some .auth then (seen, some authRefusal)
        else
          let seen := { seen with mailFrom := "<" ++ sender.address ++ ">" }
          if relay.refuses == some .mail then (seen, some relay.reply)
          else
            let targets := recipients.map fun a => "<" ++ a.address ++ ">"
            if relay.refuses == some .rcpt then ({ seen with rcptTo := targets.take 1 }, some relay.reply)
            else
              let seen := { seen with rcptTo := targets }
              if relay.refuses == some .data then (seen, some relay.reply)
              else ({ seen with headers := some (messageHeaders r), body := some (messageBody r) }, none)

/-- Sends a report, with the log entry of the outcome. -/
def sendReport (relay : Relay) (username password : String) (r : Report) :
    Transcript × Option String × Log.Entry :=
  let names := ",".intercalate r.recipients
  match deliver relay username password r with
  | (seen, some e) =>
    (seen, some ("failed to send email: " ++ e),
      .make .error ("Failed to send failed transactions report to " ++ names ++ ": " ++ e) [])
  | (seen, none) => (seen, none, .make .info ("Email sent to " ++ names ++ ": " ++ r.subject) [])

end Ledger.Mail
