import Mathlib.Tactic.SplitIfs
import MapStandin.Proofs.Settings.Way
import MapStandin.Settings.Loading

/-! # Text settings

The settings that are texts, where they lie in the tables of all settings, and that reading one of
them depends on nothing else in these tables. -/

namespace MapStandin

inductive DownloadText
  | username
  | password
  | tokens
  deriving DecidableEq, Repr

namespace DownloadText

def name : DownloadText → String
  | username => "username"
  | password => "password"
  | tokens => "token_prefix"

def get : DownloadText → DownloadSettings → String
  | username, s => s.login.username
  | password, s => s.login.password
  | tokens, s => s.tokens.start

def set (text : String) : DownloadText → DownloadSettings → DownloadSettings
  | username, s => { s with login.username := text }
  | password, s => { s with login.password := text }
  | tokens, s => { s with tokens.start := text }

end DownloadText

inductive MapText
  | username
  | password
  | template
  | layer
  deriving DecidableEq, Repr

namespace MapText

def name : MapText → String
  | username => "username"
  | password => "password"
  | template => "template_name"
  | layer => "coverage_layer"

def get : MapText → MapSettings → String
  | username, s => s.login.username
  | password, s => s.login.password
  | template, s => s.template
  | layer, s => s.layer

def set (text : String) : MapText → MapSettings → MapSettings
  | username, s => { s with login.username := text }
  | password, s => { s with login.password := text }
  | template, s => { s with template := text }
  | layer, s => { s with layer := text }

end MapText

/-- The settings that are texts. -/
inductive TextSetting
  | host
  | baseUrl
  | download (text : DownloadText)
  | map (text : MapText)
  deriving DecidableEq, Repr

namespace TextSetting

/-- The names that lead to the setting. -/
def way : TextSetting → List String
  | host => ["host"]
  | baseUrl => ["base_url"]
  | download text => ["fme_server", text.name]
  | map text => ["qgis", text.name]

def variableName (k : TextSetting) : String :=
  "GEODOUBLES" ++ String.join (k.way.map fun name => "__" ++ Text.capitals name)

example : (download .tokens).variableName = "GEODOUBLES__FME_SERVER__TOKEN_PREFIX" := by
  decide +kernel

def get : TextSetting → Settings → String
  | host, s => s.host
  | baseUrl, s => s.baseUrl
  | download text, s => text.get s.download
  | map text, s => text.get s.map

def set (text : String) : TextSetting → Settings → Settings
  | host, s => { s with host := text }
  | baseUrl, s => { s with baseUrl := text }
  | download k, s => { s with download := k.set text s.download }
  | map k, s => { s with map := k.set text s.map }

theorem get_set (k : TextSetting) (text : String) (s : Settings) : k.get (k.set text s) = text := by
  match k with
  | host => rfl
  | baseUrl => rfl
  | download k => cases k <;> rfl
  | map k => cases k <;> rfl

end TextSetting

namespace Settings

variable {x y : Value} {u v : String}

/-! ## Reading -/

/-- A value is read as a text wherever it stands. -/
def Reads (x : Value) (v : String) : Prop := ∀ key, textOf key x = .ok v

variable {frame : Frame} {name : String}

theorem lookup_fill (hname : frame.name ≠ name) (x y : Value) :
    (frame.fill x).entries.lookup name = (frame.fill y).entries.lookup name :=
  (lookup_other hname.symm).trans (lookup_other hname.symm).symm

theorem lookup_fill_self (hname : frame.name = name) (x : Value) :
    (frame.fill x).entries.lookup name = some x := by
  rw [← hname]
  exact lookup_same frame.free

theorem textAt_fill (hname : frame.name = name) (hx : Reads x v) (usual : String) :
    textAt (frame.fill x).entries name usual = .ok v := by
  unfold textAt
  rw [lookup_fill_self hname]
  exact hx _

theorem textAt_fill_other (hname : frame.name ≠ name) (x y : Value) (usual : String) :
    textAt (frame.fill x).entries name usual = textAt (frame.fill y).entries name usual := by
  unfold textAt
  rw [lookup_fill hname x y]

def tableGroup (title key : String) (frame : Frame) (x : Value) : Group :=
  ⟨title, key, some (frame.fill x)⟩

theorem find?_tableGroup (title key : String) (frame : Frame) (x : Value) (name : String)
    (place : Nat) :
    (tableGroup title key frame x).find? name place =
      ((frame.fill x).entries.lookup name).map fun v => (key ++ "." ++ name, v) := rfl

theorem text_tableGroup (title key : String) (hx : Reads x v) (y : Value) (name : String)
    (place : Nat) (usual : String) :
    (tableGroup title key frame x).text name place usual =
      if frame.name = name then .ok v else (tableGroup title key frame y).text name place usual := by
  unfold Group.text
  rw [find?_tableGroup, find?_tableGroup]
  split_ifs with hname
  · rw [lookup_fill_self hname]
    exact hx _
  · rw [lookup_fill hname x y]

theorem port_tableGroup (title key : String) (hname : frame.name ≠ "port") (x y : Value)
    (usual : Nat) :
    (tableGroup title key frame x).port usual = (tableGroup title key frame y).port usual := by
  unfold Group.port
  rw [find?_tableGroup, find?_tableGroup, lookup_fill hname x y]

theorem downloadOf_fill (title key : String) (k : DownloadText) (hname : frame.name = k.name)
    (hx : Reads x v) (hy : Reads y u) :
    downloadOf (tableGroup title key frame x) =
      (downloadOf (tableGroup title key frame y)).map (k.set v) := by
  have hport := port_tableGroup title key (by rw [hname]; cases k <;> decide) x y
  simp only [downloadOf, hport, text_tableGroup title key hx .null,
    text_tableGroup title key hy .null, hname]
  generalize (tableGroup title key frame y).port _ = port
  generalize (tableGroup title key frame .null).text "username" _ _ = username
  generalize (tableGroup title key frame .null).text "password" _ _ = password
  generalize (tableGroup title key frame .null).text "token_prefix" _ _ = start
  cases k <;> simp only [DownloadText.name, String.reduceEq, if_true, if_false] <;>
    cases port <;> cases username <;> cases password <;> cases start <;> rfl

theorem mapOf_fill (title key : String) (k : MapText) (hname : frame.name = k.name)
    (hx : Reads x v) (hy : Reads y u) :
    mapOf (tableGroup title key frame x) =
      (mapOf (tableGroup title key frame y)).map (k.set v) := by
  have hport := port_tableGroup title key (by rw [hname]; cases k <;> decide) x y
  simp only [mapOf, hport, text_tableGroup title key hx .null,
    text_tableGroup title key hy .null, hname]
  generalize (tableGroup title key frame y).port _ = port
  generalize (tableGroup title key frame .null).text "username" _ _ = username
  generalize (tableGroup title key frame .null).text "password" _ _ = password
  generalize (tableGroup title key frame .null).text "template_name" _ _ = template
  generalize (tableGroup title key frame .null).text "coverage_layer" _ _ = layer
  cases k <;> simp only [MapText.name, String.reduceEq, if_true, if_false] <;>
    cases port <;> cases username <;> cases password <;> cases template <;> cases layer <;> rfl

theorem ofEntries_host (hname : frame.name = "host") (hx : Reads x v) (hy : Reads y u) :
    ofEntries (frame.fill x).entries =
      (ofEntries (frame.fill y).entries).map fun s => { s with host := v } := by
  have hbase := textAt_fill_other (hname ▸ by decide : frame.name ≠ "base_url") x y
  have hdownload := lookup_fill (hname ▸ by decide : frame.name ≠ "fme_server") x y
  have hmap := lookup_fill (hname ▸ by decide : frame.name ≠ "qgis") x y
  simp only [ofEntries, textAt_fill hname hx, textAt_fill hname hy, hbase, hdownload, hmap]
  generalize textAt _ "base_url" _ = baseUrl
  generalize downloadOf _ = download
  generalize mapOf _ = map
  cases baseUrl <;> cases download <;> cases map <;> rfl

theorem ofEntries_baseUrl (hname : frame.name = "base_url") (hx : Reads x v) (hy : Reads y u) :
    ofEntries (frame.fill x).entries =
      (ofEntries (frame.fill y).entries).map fun s => { s with baseUrl := v } := by
  have hhost := textAt_fill_other (hname ▸ by decide : frame.name ≠ "host") x y
  have hdownload := lookup_fill (hname ▸ by decide : frame.name ≠ "fme_server") x y
  have hmap := lookup_fill (hname ▸ by decide : frame.name ≠ "qgis") x y
  simp only [ofEntries, textAt_fill hname hx, textAt_fill hname hy, hhost, hdownload, hmap]
  generalize textAt _ "host" _ = host
  generalize downloadOf _ = download
  generalize mapOf _ = map
  cases host <;> cases download <;> cases map <;> rfl

theorem ofEntries_download {f : DownloadSettings → DownloadSettings}
    (hname : frame.name = "fme_server")
    (hgroup : downloadOf ⟨"struct FmeServerConfig", "fme_server", some x⟩ =
      (downloadOf ⟨"struct FmeServerConfig", "fme_server", some y⟩).map f) :
    ofEntries (frame.fill x).entries =
      (ofEntries (frame.fill y).entries).map fun s => { s with download := f s.download } := by
  have hhost := textAt_fill_other (hname ▸ by decide : frame.name ≠ "host") x y
  have hbase := textAt_fill_other (hname ▸ by decide : frame.name ≠ "base_url") x y
  have hmap := lookup_fill (hname ▸ by decide : frame.name ≠ "qgis") x y
  simp only [ofEntries, hhost, hbase, hmap, lookup_fill_self hname, hgroup]
  generalize textAt _ "host" _ = host
  generalize textAt _ "base_url" _ = baseUrl
  generalize downloadOf _ = download
  generalize mapOf _ = map
  cases host <;> cases baseUrl <;> cases download <;> cases map <;> rfl

theorem ofEntries_map {f : MapSettings → MapSettings} (hname : frame.name = "qgis")
    (hgroup : mapOf ⟨"struct QgisConfig", "qgis", some x⟩ =
      (mapOf ⟨"struct QgisConfig", "qgis", some y⟩).map f) :
    ofEntries (frame.fill x).entries =
      (ofEntries (frame.fill y).entries).map fun s => { s with map := f s.map } := by
  have hhost := textAt_fill_other (hname ▸ by decide : frame.name ≠ "host") x y
  have hbase := textAt_fill_other (hname ▸ by decide : frame.name ≠ "base_url") x y
  have hdownload := lookup_fill (hname ▸ by decide : frame.name ≠ "fme_server") x y
  simp only [ofEntries, hhost, hbase, hdownload, lookup_fill_self hname, hgroup]
  generalize textAt _ "host" _ = host
  generalize textAt _ "base_url" _ = baseUrl
  generalize downloadOf _ = download
  generalize mapOf _ = map
  cases host <;> cases baseUrl <;> cases download <;> cases map <;> rfl

/-- Of all settings, only the one at the end of the way depends on the value in the tables. -/
theorem ofEntries_fill (k : TextSetting) {hole : List Frame} (hway : wayTo hole = k.way)
    (hx : Reads x v) (hy : Reads y u) :
    ofEntries (fill hole x).entries = (ofEntries (fill hole y).entries).map (k.set v) := by
  cases k with
  | host =>
    obtain ⟨frame, rfl, hname⟩ := List.map_eq_singleton_iff.1 hway
    exact ofEntries_host hname hx hy
  | baseUrl =>
    obtain ⟨frame, rfl, hname⟩ := List.map_eq_singleton_iff.1 hway
    exact ofEntries_baseUrl hname hx hy
  | download k =>
    obtain ⟨frame, rest, rfl, hname, hrest⟩ := List.map_eq_cons_iff.1 hway
    obtain ⟨inner, rfl, hinner⟩ := List.map_eq_singleton_iff.1 hrest
    exact ofEntries_download hname (downloadOf_fill _ _ k hinner hx hy)
  | map k =>
    obtain ⟨frame, rest, rfl, hname, hrest⟩ := List.map_eq_cons_iff.1 hway
    obtain ⟨inner, rfl, hinner⟩ := List.map_eq_singleton_iff.1 hrest
    exact ofEntries_map hname (mapOf_fill _ _ k hinner hx hy)

theorem ofEntries_usual (k : TextSetting) :
    ofEntries (fill (bare k.way) (.scalar (.text (k.get {})) none)).entries = .ok {} := by
  match k with
  | .host => rfl
  | .baseUrl => rfl
  | .download k => cases k <;> rfl
  | .map k => cases k <;> rfl

theorem ofEntries_bare (k : TextSetting) (hx : Reads x v) :
    ofEntries (fill (bare k.way) x).entries = .ok (k.set v {}) := by
  have husual : Reads (.scalar (.text (k.get {})) none) (k.get {}) := fun _ => rfl
  rw [ofEntries_fill k (wayTo_bare k.way) hx husual, ofEntries_usual]
  rfl

end Settings

end MapStandin
