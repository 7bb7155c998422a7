import LspSession.Json.Reader

/-!
# `LspSession.Frame.Basic`: what a frame is and how one is written

A frame is a header, the separator of two line ends, and a body. The header holds lines of a
name, a colon and a value, and one of them gives the number of bytes of the body. `encode` writes a
document as the frame with that one line and the document's compact text.
-/

set_option autoImplicit false

namespace LspSession

/-- Why bytes are not a sequence of frames. All but `incomplete` are final: no further bytes make
them go away. -/
inductive FrameError where
  /-- The bytes stop inside a frame: `actual` of them belong to it, and `expected` are needed,
  which is known once the header is complete. -/
  | incomplete (expected : Option Nat) (actual : Nat)
  /-- The header is not UTF-8. -/
  | headerNotText (fault : Utf8.Fault)
  /-- A header line has no colon. -/
  | lineWithoutColon (line : String)
  /-- No header line gives the length. -/
  | missingLength
  /-- The length is no number. -/
  | badLength (value : String)
  /-- The length exceeds what is accepted. -/
  | tooLarge (size limit : Nat)
  /-- The body is not a document. -/
  | badDocument (fault : Json.Fault)
  deriving DecidableEq, Repr

namespace FrameError

/-- Whether more bytes could still complete the frame. `Client.feed` waits for them in this case and
reports the error in all others. -/
def isIncomplete : FrameError → Bool
  | .incomplete .. => true
  | _ => false

/-- The sentence that names an error. A body that is no document is described by its reader
(`Json.Fault.message`). -/
def message : FrameError → String
  | .incomplete expected actual =>
    let wanted := match expected with
      | some n => "Some(" ++ Decimal.render n ++ ")"
      | none => "None"
    "Incomplete frame: expected " ++ wanted ++ " bytes, got " ++ Decimal.render actual
  | .headerNotText fault => "Invalid LSP header: header is not valid UTF-8: " ++ fault.message
  | .lineWithoutColon line => "Invalid LSP header: " ++ line
  | .missingLength => "Missing Content-Length header"
  | .badLength value => "Invalid content length: " ++ value
  | .tooLarge size limit =>
    "Message too large: " ++ Decimal.render size ++ " bytes (max: " ++ Decimal.render limit ++ ")"
  | .badDocument fault => "Invalid JSON: " ++ fault.message

end FrameError

namespace Frame

/-- The separator between header and body: two line ends, so an empty line behind the last one that
`header` writes. -/
def separator : Bytes := [0x0D, 0x0A, 0x0D, 0x0A]

/-- The name of the header line that gives the length, as it is written. By `isLengthName` it is
read in any case of letters. -/
def lengthName : String := "Content-Length"

/-- The largest number of bytes that a frame or a limit may have: the largest machine word of 64
bits, `2 ^ 64 - 1`. -/
def sizeBound : Nat := Nat.pow 2 64 - 1

/-- The limit on a body where no other is given: 16 MiB. -/
def defaultLimit : Nat := 16 * 1024 * 1024

/-- The header for a body of a given length: one line, without the line end, which is part of the
`separator`. -/
def header (length : Nat) : Bytes := Utf8.encode (lengthName ++ ": " ++ Decimal.render length)

/-- The frame around a body: its `header`, the `separator`, and the body, whatever that holds. -/
def wrap (body : Bytes) : Bytes := header body.length ++ separator ++ body

/-- A document as a frame, its body the compact text (`Json.render`) of the document in UTF-8. -/
def encode (document : Json) : Bytes := wrap (Utf8.encode document.render)

/-- Documents as frames one after another, by `encode`, with nothing in between. -/
def encodeAll (documents : List Json) : Bytes := documents.flatMap encode

/-- The bytes with the frame of one more document at their end, as the queue `Client.outgoing`
grows. -/
def append (buffer : Bytes) (document : Json) : Bytes := buffer ++ encode document

/-- The bytes with the frames of more documents (`encodeAll`) at their end. -/
def appendAll (buffer : Bytes) (documents : List Json) : Bytes := buffer ++ encodeAll documents

/-- `encodeAll` of documents is the frame of the first and the frames of the rest. -/
theorem encodeAll_cons (document : Json) (rest : List Json) :
    encodeAll (document :: rest) = encode document ++ encodeAll rest := rfl

end Frame

end LspSession
