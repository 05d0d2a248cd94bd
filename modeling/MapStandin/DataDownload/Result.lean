import MapStandin.Http.Content
import MapStandin.Json.Printer

/-! # Result files

The archive behind a download address. Every address has one; it says under which version and name
it was asked for, and when. -/

namespace MapStandin.DataDownload

def resultText (version filename time : String) : String :=
  s!"FME Server Mock Result\nVersion: {version}\nFilename: {filename}\nTimestamp: {time}"

def resultMetadata (time : String) : Json :=
  Json.ofMembers [("timestamp", .string time), ("mock", .bool true), ("status", .string "success")]

def resultEntries (version filename time : String) : List (String × String) :=
  [("result.txt", resultText version filename time),
    ("metadata.json", (resultMetadata time).render)]

def resultResponse (version filename time : String) : Http.Response :=
  Http.attachment filename Http.zipType (.archive (resultEntries version filename time))

end MapStandin.DataDownload
