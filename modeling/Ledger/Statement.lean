import Ledger.Transaction
import Ledger.Text.Bytes
/-!
# Account statements as XML

A small XML tree and its indented printer, which escapes text and replaces characters XML does
not allow by U+FFFD. A statement names the account and when it was made, gives the balance to
two places, and lists the transactions with id, type, amount, time and status.
-/

/-! ## XML documents -/

namespace Ledger.Xml

/-- A node of an XML tree. -/
inductive Node where
  | element (name : String) (attrs : List (String × Bytes)) (children : List Node)
  | text (content : Bytes)
  deriving Repr, Inhabited

/-- Whether XML allows a character in a document. -/
def allowed (c : Char) : Bool :=
  let n := c.toNat
  n == 9 || n == 10 || n == 13 || (0x20 ≤ n && n ≤ 0xD7FF) || (0xE000 ≤ n && n ≤ 0xFFFD) ||
    0x10000 ≤ n

/-- The escaped form of one piece of text. -/
def escapePiece : Piece → String
  | .char '&' => "&amp;"
  | .char '<' => "&lt;"
  | .char '>' => "&gt;"
  | .char '"' => "&quot;"
  | .char '\'' => "&apos;"
  | .char c => if allowed c then String.singleton c else "�"
  | .stray _ => "�"

/-- Escapes text for an attribute value or character data. -/
def escape (bs : Bytes) : String := String.join ((Bytes.pieces bs).map escapePiece)

namespace Node

/-- Whether a node is an element. -/
def isElement : Node → Bool
  | .element .. => true
  | .text _ => false

end Node

/-- A line break followed by `n` spaces. -/
def lineAt (n : Nat) : String := "\n" ++ String.ofList (List.replicate n ' ')

/-- The attributes of a start tag, each after a space. -/
def attrText (attrs : List (String × Bytes)) : String :=
  String.join (attrs.map fun (k, v) => " " ++ k ++ "=\"" ++ escape v ++ "\"")

mutual
/-- Prints a node whose child elements stand at `depth` levels. -/
def Node.render (depth : Nat) : Node → String
  | .text t => escape t
  | .element name attrs children =>
    let head := "<" ++ name ++ attrText attrs
    if children.isEmpty then head ++ "/>"
    else
      let closing := if (children.getLast?.map Node.isElement).getD false then lineAt (2 * (depth - 1)) else ""
      head ++ ">" ++ renderChildren depth children ++ closing ++ "</" ++ name ++ ">"

/-- Prints children: each element on a new line, text as it stands. -/
def renderChildren (depth : Nat) : List Node → String
  | [] => ""
  | .text t :: rest => escape t ++ renderChildren depth rest
  | .element name attrs cs :: rest =>
    lineAt (2 * depth) ++ Node.render (depth + 1) (.element name attrs cs) ++ renderChildren depth rest
end

/-- A document: the XML declaration and the root element, each on its own line. -/
def document (root : Node) : String :=
  "<?xml version=\"1.0\" encoding=\"UTF-8\"?>\n" ++ root.render 1 ++ "\n"

end Ledger.Xml

/-! ## Statements -/

namespace Ledger.Statement

/-- The media type of a statement document. -/
def contentType : String := "application/xml"

/-- An element holding only text; empty text gives an empty element. -/
def textElement (name : String) (t : Bytes) : Xml.Node :=
  .element name [] (if t.isEmpty then [] else [.text t])

/-- The element of one transaction. -/
def transactionNode (t : Transaction) : Xml.Node :=
  .element "Transaction" [("id", Bytes.ofString t.id.toText)] [
    textElement "Type" (Bytes.ofString t.type.text),
    textElement "Amount" (Bytes.ofString (t.amount.toFixed 2)),
    textElement "Timestamp" (Bytes.ofString t.timestamp.toText),
    textElement "Status" (Bytes.ofString t.status.text)]

/-- The statement tree of an account. -/
def tree (a : Account) (txns : List Transaction) (generatedAt : Instant) : Xml.Node :=
  .element "AccountStatement"
    [("accountNumber", a.number), ("generatedAt", Bytes.ofString generatedAt.toSecondsText)] [
      textElement "Balance" (Bytes.ofString (a.balance.toFixed 2)),
      .element "Transactions" [("count", Bytes.ofString (toString txns.length))]
        (txns.map transactionNode)]

/-- The statement document of an account. -/
def document (a : Account) (txns : List Transaction) (generatedAt : Instant) : String :=
  Xml.document (tree a txns generatedAt)

end Ledger.Statement
