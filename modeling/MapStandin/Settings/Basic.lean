import MapStandin.Access.Password
import MapStandin.Access.Token
import MapStandin.Text.Quoted

/-! # Settings

What the services can be told from outside, and what holds if nothing is told. -/

namespace MapStandin

structure DownloadSettings where
  port : Nat := 8888
  login : Access.Login := ⟨"testuser", "testpass"⟩
  tokens : Access.TokenRule := ⟨"valid_"⟩
  deriving DecidableEq, Repr

structure MapSettings where
  port : Nat := 8889
  login : Access.Login := ⟨"qgisuser", "qgispass"⟩
  template : String := "Atlas"
  layer : String := "parcels"
  deriving DecidableEq, Repr

/-- All settings. The base address roots download addresses for clients that do not say how they
reach the service. -/
structure Settings where
  host : String := "0.0.0.0"
  baseUrl : String := "http://localhost:8888"
  download : DownloadSettings := {}
  map : MapSettings := {}
  deriving DecidableEq, Repr

namespace Settings

/-! ## Showing settings -/

def hiddenPassword : String := "[REDACTED]"

def shownRecord (title : String) (fields : List (String × String)) : String :=
  title ++ " \x7b " ++ ", ".intercalate (fields.map fun (name, shown) => name ++ ": " ++ shown) ++
    " \x7d"

def shownDownload (s : DownloadSettings) : String :=
  shownRecord "FmeServerConfig" [
    ("port", toString s.port),
    ("username", Text.quoted s.login.username),
    ("password", Text.quoted hiddenPassword),
    ("token_prefix", Text.quoted s.tokens.start)]

def shownMap (s : MapSettings) : String :=
  shownRecord "QgisConfig" [
    ("port", toString s.port),
    ("username", Text.quoted s.login.username),
    ("password", Text.quoted hiddenPassword),
    ("template_name", Text.quoted s.template),
    ("coverage_layer", Text.quoted s.layer)]

/-- All settings without the passwords. -/
def shown (s : Settings) : String :=
  shownRecord "Config" [
    ("host", Text.quoted s.host),
    ("base_url", Text.quoted s.baseUrl),
    ("fme_server", shownDownload s.download),
    ("qgis", shownMap s.map)]

end Settings

end MapStandin
