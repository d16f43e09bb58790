import EntityService.Json.Reader
import EntityService.Text.Newlines
import EntityService.Text.Utf8

/-!
# Documents in files

The bytes of a file as a document: UTF-8 is decoded, line ends are unified, and the text is read.

## What is here

* `Document.Fault` — why bytes are not a document.
* `Document.ofBytes` — the document that bytes hold.
-/

set_option autoImplicit false

namespace EntityService.Document

open EntityService.Text

/-- Why bytes are not a document. -/
inductive Fault
  | encoding (fault : Utf8.Fault)
  | text (fault : Json.Fault)
deriving DecidableEq, Repr

/-- The document that bytes hold. -/
def ofBytes (bytes : List UInt8) : Except Fault Json.Value :=
  match Utf8.decode bytes with
  | .error fault => .error (.encoding fault)
  | .ok text =>
    match Json.read (String.ofList (unifyNewlines text.toList)) with
    | .error fault => .error (.text fault)
    | .ok value => .ok value

/-- A fault in the encoding, in words.  A sequence of several bytes is given by its first and last
offset, a single byte also by its value. -/
def encodingMessage (fault : Utf8.Fault) : String :=
  let place :=
    if fault.length ≤ 1 then
      "byte 0x" ++ String.ofList (Text.hex 2 fault.first.toNat) ++ " in position "
        ++ toString fault.start
    else
      "bytes in position " ++ toString fault.start ++ "-"
        ++ toString (fault.start + fault.length - 1)
  let cause := match fault.cause with
    | .invalidStart => "invalid start byte"
    | .invalidContinuation => "invalid continuation byte"
    | .unexpectedEnd => "unexpected end of data"
  "'utf-8' codec can't decode " ++ place ++ ": " ++ cause

/-- A fault, in words. -/
def Fault.message : Fault → String
  | .encoding fault => encodingMessage fault
  | .text fault => fault.message

end EntityService.Document
