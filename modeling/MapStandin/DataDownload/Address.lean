import MapStandin.Settings.Basic
import MapStandin.Url.Reader

/-! # Download addresses

Where a client finds the result of its job: a file named by the time stamp, in a folder named by the
version of the service. -/

namespace MapStandin.DataDownload

def withoutSlashes (s : String) : String :=
  String.ofList (s.toList.reverse.dropWhile (· = '/')).reverse

/-- The root of download addresses: the host that the client named, else the base address. -/
def addressRoot (baseUrl : String) : (host : Option String) → String
  | some host => "http://" ++ host ++ "/"
  | none => withoutSlashes baseUrl ++ "/"

def resultName (stamp : String) : String := stamp ++ ".zip"

def resultPath (version stamp : String) : String :=
  "download/" ++ version ++ "/" ++ resultName stamp

def resultAddress (baseUrl : String) (host : Option String) (version stamp : String) :
    Except Url.Fault String := do
  let root ← Url.parse (addressRoot baseUrl host)
  let u ← root.join (resultPath version stamp)
  return u.text

end MapStandin.DataDownload
