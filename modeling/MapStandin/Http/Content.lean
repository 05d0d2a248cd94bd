import MapStandin.Http.Message
import MapStandin.Text.Utf8

/-! # Responses with content

Texts of a media type, and files that a client is to save under a name. -/

namespace MapStandin.Http

/-! ## Media types -/

def jsonType : String := "application/json"

def xmlType : String := "application/xml"

def zipType : String := "application/zip"

def pdfType : String := "application/pdf"

def textType : String := "text/plain; charset=utf-8"

def textResponse (status : Status) (mediaType content : String) : Response :=
  ⟨status, [("content-type", mediaType)], .bytes (Utf8.encode content)⟩

/-! ## Attachments -/

/-- Whether a character may stand in the value of a header: no control character of ASCII but the
tab. -/
def isHeaderChar (c : Char) : Bool :=
  (0x20 ≤ c.toNat && c.toNat ≠ 0x7F) || c == '\t'

def dispositionOf (filename : String) : String :=
  "attachment; filename=\"" ++ filename ++ "\""

/-- The disposition that is sent: without the name if a header cannot hold it. -/
def disposition (filename : String) : String :=
  let full := dispositionOf filename
  if full.toList.all isHeaderChar then full else "attachment"

def attachment (filename mediaType : String) (body : Body) : Response :=
  ⟨.ok, [("content-type", mediaType), ("content-disposition", disposition filename)], body⟩

end MapStandin.Http
