import Mathlib.Data.List.Nodup
import MapStandin.MapServer.Service
import MapStandin.Proofs.Decimal.Written
import MapStandin.Proofs.Xml.Written

/-! # Collections of features

A client finds the features of a layer in the document that it gets if the layer has a name that an
element can have. A request may ask for any other layer as well, and then finds nothing. -/

namespace MapStandin.MapServer

open Xml (Name Shows Sound Legal Unmarked isLegal isValueChar)

variable {c : Char} {layer : String}

/-! ## Texts in a collection -/

theorem isLegal_of_isNumeral (h : Decimal.isNumeral c) : isLegal c := by
  have hnat := Decimal.toNat_of_isNumeral h
  simp only [isLegal, Unicode.Ranges.has, Xml.legalRanges, List.any_cons, List.any_nil,
    Bool.or_eq_true, Bool.and_eq_true, decide_eq_true_eq, Bool.false_eq_true, or_false]
  omega

theorem isValueChar_of_not_isBlank (legal : isLegal c) (h : ¬ Xml.isBlank c) : isValueChar c := by
  rw [isValueChar, legal, Bool.eq_false_iff.2 h]
  simp

theorem isValueChar_of_isNumeral (h : Decimal.isNumeral c) : isValueChar c := by
  have hnat := Decimal.toNat_of_isNumeral h
  refine isValueChar_of_not_isBlank (isLegal_of_isNumeral h) fun hblank => ?_
  have hsmall : ∀ b ∈ [' ', '\t', '\n', '\r'], b.toNat ≤ 0x20 := by decide
  have := hsmall c (of_decide_eq_true hblank)
  omega

theorem isValueChar_of_isNameChar (h : Xml.isNameChar c) : isValueChar c :=
  isValueChar_of_not_isBlank (Xml.isLegal_of_isNameChar h) (Xml.not_isBlank_of_isNameChar h)

theorem legal_intercalate {lines : List String} (h : ∀ s ∈ lines, Legal s) :
    Legal (" ".intercalate lines) := by
  match lines with
  | [] => exact nofun
  | [s] => exact h s List.mem_cons_self
  | s :: t :: lines =>
    rw [String.intercalate_cons_cons]
    exact ((h s List.mem_cons_self).append (by decide)).append
      (legal_intercalate fun u hu => h u (List.mem_cons_of_mem s hu))

theorem Footprint.legal_position (x y : Decimal.Double) : Legal (position x y) := by
  have hnumber : ∀ z, Legal (Decimal.plain.writeDouble z) := fun z c hc =>
    isLegal_of_isNumeral (Decimal.numerals_writeDouble _ z c hc)
  exact ((hnumber x).append (by decide)).append (hnumber y)

theorem Footprint.legal_boundary (f : Footprint) : Legal f.boundary := by
  refine legal_intercalate fun s hs => ?_
  simp only [List.mem_cons, List.not_mem_nil, or_false] at hs
  obtain rfl | rfl | rfl | rfl | rfl := hs <;> exact legal_position _ _

/-! ## What a collection shows -/

def Footprint.name (layer : String) (f : Footprint) : String := layer ++ "." ++ toString f.id

theorem Footprint.sound_name (layer : Name) (f : Footprint) :
    Sound [(⟨"id", rfl⟩, f.name layer.val)] := by
  refine ⟨List.nodup_singleton _, fun a ha c hc => ?_⟩
  rw [List.mem_singleton.1 ha] at hc
  simp only [name, String.toList_append, List.mem_append] at hc
  obtain (hc | hc) | hc := hc
  · exact isValueChar_of_isNameChar (layer.isNameChar_of_mem hc)
  · exact (by decide : ∀ b ∈ ".".toList, isValueChar b) c hc
  · exact isValueChar_of_isNumeral (Decimal.numerals_toString f.id c hc)

/-- The member of a feature: its element carries the identifier and holds whatever tells its
place. -/
def memberNode (layer : Name) (f : Footprint) (place : List Xml.Node) : Xml.Node :=
  ⟨⟨"featureMember", rfl⟩, [], [⟨layer, [(⟨"id", rfl⟩, f.name layer.val)], place⟩]⟩

theorem Footprint.shows_member (layer : Name) (f : Footprint) :
    ∃ place, ∀ {es : List Xml.Element} {nodes : List Xml.Node}, Shows es nodes →
      Shows (f.member layer.val :: es) (memberNode layer f place :: nodes) := by
  have hnone : Sound [] := ⟨.nil, nofun⟩
  have hreference : Sound [(⟨"srsName", rfl⟩, "EPSG:2056")] :=
    ⟨List.nodup_singleton _, by decide⟩
  have hplace := Shows.parent ⟨"gml:boundedBy", rfl⟩ [] hnone
    (.parent ⟨"gml:Envelope", rfl⟩ [[_]] hreference
      (.text ⟨"gml:lowerCorner", rfl⟩ hnone (legal_position f.left f.bottom)
        (.text ⟨"gml:upperCorner", rfl⟩ hnone (legal_position f.right f.top) .nil)) .nil)
    (.parent ⟨"geometry", rfl⟩ [] hnone
      (.parent ⟨"gml:Polygon", rfl⟩ [[_]] hreference
        (.parent ⟨"gml:exterior", rfl⟩ [] hnone
          (.parent ⟨"gml:LinearRing", rfl⟩ [] hnone
            (.text ⟨"gml:posList", rfl⟩ hnone f.legal_boundary .nil) .nil) .nil) .nil) .nil)
  exact ⟨_, fun hlater => .parent ⟨"featureMember", rfl⟩ [] hnone
    (.parent layer [[_]] (f.sound_name layer) hplace .nil) hlater⟩

theorem shows_members (layer : Name) (features : List Footprint) :
    ∃ nodes, Shows (features.map (Footprint.member layer.val)) nodes ∧
      List.Forall₂ (fun f n => ∃ place, n = memberNode layer f place) features nodes := by
  induction features with
  | nil => exact ⟨[], .nil, .nil⟩
  | cons f features ih =>
    obtain ⟨nodes, hshows, hnodes⟩ := ih
    obtain ⟨place, hmember⟩ := f.shows_member layer
    exact ⟨memberNode layer f place :: nodes, hmember hshows, .cons ⟨place, rfl⟩ hnodes⟩

theorem identifiers_members {layer : Name} {features : List Footprint} {nodes : List Xml.Node}
    (h : List.Forall₂ (fun f n => ∃ place, n = memberNode layer f place) features nodes) :
    (Xml.elementsAt ["featureMember", layer.val] nodes).filterMap (Xml.Node.attribute? "id") =
      features.map (Footprint.name layer.val) := by
  induction h with
  | nil => rfl
  | @cons f _ features nodes hn _ ih =>
    obtain ⟨place, rfl⟩ := hn
    simp only [Xml.elementsAt, memberNode, Xml.Node.attribute?, List.filter_cons, decide_true,
      if_true, List.flatMap_cons, List.filterMap_cons, List.find?_cons_of_pos, Option.map_some,
      List.map_cons, List.cons_append, List.nil_append] at ih ⊢
    rw [ih]

/-! ## Reading the features -/

/-- A document in which a client finds identifiers at the elements of a layer, one in each member
of the collection. -/
def Readable (content layer : String) (ids : List String) : Prop :=
  ∃ root, Xml.Document content.toList root ∧
    Xml.attributesAt ["FeatureCollection", "featureMember", layer] "id" root = ids

theorem isName_of_readable {content layer : String} {ids : List String}
    (h : Readable content layer ids) (found : ids ≠ []) : Xml.isName layer := by
  obtain ⟨root, -, hids⟩ := h
  obtain ⟨id, hid⟩ := List.exists_mem_of_ne_nil ids found
  rw [← hids] at hid
  obtain ⟨n, hn, -⟩ := List.mem_filterMap.1 hid
  exact Xml.isName_of_mem_elementsAt ["FeatureCollection", "featureMember"] _ hn

theorem sound_collection (count : Nat) :
    Sound [(⟨"xmlns:gml", rfl⟩, "http://www.opengis.net/gml/3.2"),
      (⟨"numberMatched", rfl⟩, toString count), (⟨"numberReturned", rfl⟩, toString count)] := by
  have hcount : ∀ c ∈ (toString count).toList, isValueChar c := fun c hc =>
    isValueChar_of_isNumeral (Decimal.numerals_toString count c hc)
  refine ⟨by simp [Subtype.ext_iff], fun a ha => ?_⟩
  simp only [List.mem_cons, List.not_mem_nil, or_false] at ha
  obtain rfl | rfl | rfl := ha
  · decide
  · exact hcount
  · exact hcount

theorem readable_collectionDocument (layer : Name) (features : List Footprint) :
    Readable (collectionDocument layer.val features) layer.val
      (features.map (Footprint.name layer.val)) := by
  obtain ⟨nodes, hshows, hnodes⟩ := shows_members layer features
  have hroot := Shows.parent ⟨"FeatureCollection", rfl⟩ [[_], [_, _]]
    (sound_collection features.length) hshows .nil
  refine ⟨_, hroot.document, ?_⟩
  have hmembers := identifiers_members hnodes
  simpa [Xml.attributesAt, Xml.elementsAt] using hmembers

/-! ## Layers without a name -/

/-- The attributes of a collection of so many features. -/
def countLines (count : Nat) : List (List Xml.Attribute) :=
  [[⟨"xmlns:gml", "http://www.opengis.net/gml/3.2"⟩],
    [⟨"numberMatched", toString count⟩, ⟨"numberReturned", toString count⟩]]

theorem unmarked_countLines (count : Nat) :
    Unmarked (Xml.chars (Xml.linesPieces 0 "FeatureCollection" (countLines count))) := by
  have hcount : Unmarked ((toString count).toList.flatMap Xml.escapeChar) := by
    intro c hc
    obtain ⟨hdigit, -⟩ | ⟨entry, hentry, hentity⟩ := Xml.mem_escaped hc
    · have hmarks : ∀ b ∈ ['!', '?'], ¬ Decimal.isNumeral b := by decide
      exact fun hmark => hmarks c hmark (Decimal.numerals_toString count c hdigit)
    · have hentities : ∀ e ∈ Xml.entities, Unmarked (Xml.entity e.2) := by decide
      exact hentities entry hentry c hentity
  simp only [countLines, Xml.linesPieces, Xml.linePieces, Xml.Attribute.pieces,
    List.flatMap_cons, List.flatMap_nil, List.append_nil, List.cons_append, List.nil_append,
    Xml.chars_markup, Xml.chars_data, Xml.chars_nil]
  -- The texts of two counts among fixed ones.
  exact .append (by decide) <| .append (by decide) <| .append (by decide) <|
    .append (by decide) <| .append (by decide) <| hcount.append <| .append (by decide) <|
    .append (by decide) <| hcount.append (by decide)

/-- A text with a tag that opens with the given name and goes on with a blank, and no mark before
it. -/
def Reaches (name : String) (s : List Char) : Prop :=
  ∃ front rest, s = front ++ '<' :: (name.toList.flatMap Xml.escapeChar ++ ' ' :: rest) ∧
    Unmarked front

section Reaches

open Xml (Element chars linesPieces escapeChar)

variable {name : String} {lines : List (List Xml.Attribute)} {e : Element} {es : List Element}
  {depth : Nat}

theorem unmarked_margin (depth : Nat) : Unmarked (Xml.margin depth).toList := by
  intro c hc
  rw [Xml.margin, String.toList_ofList] at hc
  rw [List.eq_of_mem_replicate hc]
  decide

theorem reaches_own (a : Xml.Attribute) :
    Reaches name (chars ((Element.parent name [[a]] (e :: es)).pieces depth)) := by
  obtain ⟨rest, hchars⟩ := Xml.chars_parent depth name [[a]] e es
  refine ⟨(Xml.margin depth).toList, (chars (linesPieces depth name [[a]])).tail ++
    '>' :: '\n' :: (chars (e.pieces (depth + 1)) ++ rest), ?_, unmarked_margin depth⟩
  rw [hchars]
  simp [linesPieces, Xml.linePieces, Xml.Attribute.pieces]

theorem Reaches.inside {parent : String} (h : Reaches name (chars (e.pieces (depth + 1))))
    (opening : Unmarked (parent.toList.flatMap escapeChar))
    (attributes : Unmarked (chars (linesPieces depth parent lines))) :
    Reaches name (chars ((Element.parent parent lines (e :: es)).pieces depth)) := by
  obtain ⟨front, rest, hname, hfront⟩ := h
  obtain ⟨after, hchars⟩ := Xml.chars_parent depth parent lines e es
  refine ⟨(Xml.margin depth).toList ++ (['<'] ++ (parent.toList.flatMap escapeChar ++
    (chars (linesPieces depth parent lines) ++ (['>', '\n'] ++ front)))), rest ++ after, ?_, ?_⟩
  · rw [hchars, hname]
    simp
  · exact (unmarked_margin depth).append <| .append (by decide) <| opening.append <|
      attributes.append <| .append (by decide) hfront

end Reaches

theorem Footprint.reaches_member (layer : String) (f : Footprint) :
    Reaches layer (Xml.chars ((f.member layer).pieces 1)) :=
  (reaches_own _).inside (by decide) (by decide)

theorem reaches_collection (layer : String) (f : Footprint) (features : List Footprint) :
    ∃ body, (collectionDocument layer (f :: features)).toList =
        "<?xml version=\"1.0\" encoding=\"UTF-8\"?>".toList ++ '\n' :: body ∧
      Reaches layer body := by
  have hdeclaration : Xml.declaration.toList =
      "<?xml version=\"1.0\" encoding=\"UTF-8\"?>".toList ++ ['\n'] := by decide
  have hroot : Reaches layer (Xml.chars ((Xml.Element.parent "FeatureCollection"
      (countLines (f :: features).length)
      ((f :: features).map (Footprint.member layer))).pieces 0)) :=
    (f.reaches_member layer).inside (by decide) (unmarked_countLines _)
  refine ⟨_, ?_, hroot⟩
  rw [collectionDocument, Xml.toList_document, hdeclaration, List.append_assoc]
  rfl

/-- A layer that starts like no name, and like nothing else that a tag may open with. -/
def Unnamed (layer : String) : Prop :=
  ∀ c ∈ layer.toList.head?, ¬ Xml.isNameStart c ∧ c ∉ ['/', '!', '?']

theorem not_document_of_unnamed {layer : String} {features : List Footprint}
    (some : features ≠ []) (unnamed : Unnamed layer) (root : Xml.Node) :
    ¬ Xml.Document (collectionDocument layer features).toList root := by
  obtain ⟨f, features, rfl⟩ := List.exists_cons_of_ne_nil some
  obtain ⟨body, hchars, front, rest, hfront, hunmarked⟩ := reaches_collection layer f features
  rintro ⟨body', hbody, hcontent⟩
  have hsame := List.append_cancel_left (hchars.symm.trans hbody)
  have htagged := hcontent.tagged
  rw [← hsame, hfront, ← List.cons_append] at htagged
  have htag := htagged.after (.append (by decide : Unmarked ['\n']) hunmarked)
  cases hlayer : layer.toList with
  | nil =>
    rw [hlayer] at htag
    exact absurd htag.follows (by decide)
  | cons c cs =>
    obtain ⟨hstart, hmark⟩ := unnamed c (by rw [hlayer]; rfl)
    rw [hlayer] at htag
    by_cases hmem : c ∈ Xml.entities.map Prod.fst
    · obtain ⟨entry, hentry, rfl⟩ := List.mem_map.1 hmem
      rw [List.flatMap_cons, Xml.escapeChar_of_mem entry hentry] at htag
      exact absurd htag.follows (by decide)
    · rw [List.flatMap_cons, Xml.escapeChar_of_not_mem hmem] at htag
      exact htag.follows.elim hstart hmark

/-! ## The answer -/

namespace Call

variable {c : Call}

theorem answerFeatures_result (p : Parameters) :
    (c.answerFeatures p).result =
      .ok (document (collectionDocument (p.getD "TYPENAME" c.settings.layer) footprints)) := by
  unfold answerFeatures
  by_cases hbody : c.body = [] <;> simp [hbody, Except.bind]

theorem answer_of_features {p : Parameters} (asked : taskOf p.service p.request = .features) :
    (c.answer p).result = (c.answerFeatures p).result := by
  unfold answer
  simp [asked, Except.bind]

/-- The identifiers of the features that are always found. -/
def identifiers (layer : String) : List String :=
  featureKeys.map fun key => layer ++ "." ++ toString key

theorem identifiers_footprints (layer : String) :
    footprints.map (Footprint.name layer) = identifiers layer := by
  have hkeys : footprints.map (·.id) = featureKeys := by decide +kernel
  rw [identifiers, ← hkeys, List.map_map]
  rfl

/-- What the content of an answer with the features of a layer comes to. All identifiers are found
in it, in order, exactly if the layer has the name of an element, and some layers make it no
document at all. -/
structure FeaturesPost (layer content : String) : Prop where
  readable : Readable content layer (identifiers layer) ↔ Xml.isName layer
  malformed : Unnamed layer → ∀ root, ¬ Xml.Document content.toList root

theorem answer_features (c : Call) (pairs : List (String × String))
    (asked : taskOf (parametersOf pairs).service (parametersOf pairs).request = .features) :
    ∃ content, (c.answer (parametersOf pairs)).result =
        .ok (Http.textResponse .ok Http.xmlType content) ∧
      FeaturesPost ((parametersOf pairs).getD "TYPENAME" c.settings.layer) content := by
  refine ⟨_, (answer_of_features asked).trans (answerFeatures_result _), ⟨fun h => ?_, fun h => ?_⟩,
    not_document_of_unnamed (by decide)⟩
  · exact isName_of_readable h (by simp [identifiers, featureKeys])
  · rw [← identifiers_footprints]
    exact readable_collectionDocument ⟨_, h⟩ footprints

theorem answer_features_lots :
    let pairs := [("SERVICE", "WFS"), ("REQUEST", "GetFeature"), ("TYPENAME", "lots")]
    taskOf (parametersOf pairs).service (parametersOf pairs).request = .features ∧
      ∃ content, (answer ⟨{}, "GET", none, [], ""⟩ (parametersOf pairs)).result =
          .ok (Http.textResponse .ok Http.xmlType content) ∧
        Readable content "lots" ["lots.1", "lots.2", "lots.3", "lots.5", "lots.8"] := by
  refine ⟨by decide, ?_⟩
  obtain ⟨content, hanswer, hpost⟩ := answer_features ⟨{}, "GET", none, [], ""⟩
    [("SERVICE", "WFS"), ("REQUEST", "GetFeature"), ("TYPENAME", "lots")] (by decide)
  exact ⟨content, hanswer, hpost.readable.2 (by decide)⟩

/-- The element of a layer without a name is opened by a bare sign, so there is no document. -/
theorem answer_features_unnamed :
    let pairs := [("SERVICE", "WFS"), ("REQUEST", "GetFeature"), ("TYPENAME", "")]
    taskOf (parametersOf pairs).service (parametersOf pairs).request = .features ∧
      ∃ content, (answer ⟨{}, "GET", none, [], ""⟩ (parametersOf pairs)).result =
          .ok (Http.textResponse .ok Http.xmlType content) ∧
        ∀ root, ¬ Xml.Document content.toList root := by
  intro pairs
  have hlayer : (parametersOf pairs).getD "TYPENAME" "parcels" = "" := by decide
  refine ⟨by decide, _, (answer_of_features (by decide)).trans (answerFeatures_result _), ?_⟩
  show ∀ root,
    ¬ Xml.Document (collectionDocument ((parametersOf pairs).getD _ "parcels") _).toList _
  rw [hlayer]
  exact not_document_of_unnamed (by decide) nofun

end Call

end MapStandin.MapServer
