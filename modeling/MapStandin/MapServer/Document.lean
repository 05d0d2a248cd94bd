import MapStandin.Decimal.Shortest
import MapStandin.Xml.Element

/-! # Documents of the map server

The answers that are XML: an exception, the settings of a project and a collection of features. -/

namespace MapStandin.MapServer

open Xml (Element Attribute)

def exceptionDocument (code message : String) : String :=
  Xml.document (.parent "ServiceExceptionReport" [[⟨"version", "1.3.0"⟩]] [
    .text "ServiceException" [⟨"code", code⟩] message])

/-! ## Project settings -/

def settingsTitle : String := "QGIS Server Mock"

/-- The settings of a project with one print layout, which prints a page for each feature of a
layer. -/
def settingsDocument (template layer : String) : String :=
  Xml.document (.parent "WMS_Capabilities" [[⟨"version", "1.3.0"⟩]] [
    .parent "Service" [] [
      .text "Name" [] "WMS",
      .text "Title" [] settingsTitle],
    .parent "Capability" [] [
      .parent "ComposerTemplates" [] [
        .parent "ComposerTemplate"
          [[⟨"name", template⟩, ⟨"atlasCoverageLayer", layer⟩, ⟨"width", "297"⟩,
            ⟨"height", "210"⟩]] [
          .empty "ComposerMap" [⟨"name", "map0"⟩, ⟨"width", "277"⟩, ⟨"height", "190"⟩]]],
      .parent "Layer" [[⟨"queryable", "1"⟩]] [
        .text "Name" [] layer,
        .text "Title" [] "Coverage Layer"]]])

/-! ## Features -/

/-- The square that a feature covers, in metres. -/
structure Footprint where
  id : Nat
  left : Decimal.Double
  bottom : Decimal.Double
  size : Decimal.Double
  deriving DecidableEq, Repr

namespace Footprint

def right (f : Footprint) : Decimal.Double := f.left.add f.size

def top (f : Footprint) : Decimal.Double := f.bottom.add f.size

def position (x y : Decimal.Double) : String :=
  Decimal.plain.writeDouble x ++ " " ++ Decimal.plain.writeDouble y

/-- The corners in the order of the boundary, the first one again at the end. -/
def boundary (f : Footprint) : String :=
  " ".intercalate [
    position f.left f.bottom, position f.right f.bottom, position f.right f.top,
    position f.left f.top, position f.left f.bottom]

def reference : List Attribute := [⟨"srsName", "EPSG:2056"⟩]

/-- The member of a collection; its element is named after the layer. -/
def member (layer : String) (f : Footprint) : Element :=
  .parent "featureMember" [] [
    .parent layer [[⟨"id", layer ++ "." ++ toString f.id⟩]] [
      .parent "gml:boundedBy" [] [
        .parent "gml:Envelope" [reference] [
          .text "gml:lowerCorner" [] (position f.left f.bottom),
          .text "gml:upperCorner" [] (position f.right f.top)]],
      .parent "geometry" [] [
        .parent "gml:Polygon" [reference] [
          .parent "gml:exterior" [] [
            .parent "gml:LinearRing" [] [
              .text "gml:posList" [] f.boundary]]]]]]

end Footprint

def collectionDocument (layer : String) (features : List Footprint) : String :=
  let count := toString features.length
  Xml.document (.parent "FeatureCollection"
    [[⟨"xmlns:gml", "http://www.opengis.net/gml/3.2"⟩],
      [⟨"numberMatched", count⟩, ⟨"numberReturned", count⟩]]
    (features.map (Footprint.member layer)))

end MapStandin.MapServer
