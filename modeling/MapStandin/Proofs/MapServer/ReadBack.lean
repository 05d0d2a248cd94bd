import Mathlib.Logic.Function.Basic
import MapStandin.MapServer.Document
import MapStandin.Proofs.Xml.Reading

/-! # Exceptions and settings read back

Whatever a request brings into an exception or into the settings of a project, it changes no tag,
and a reader gets it back as it was. -/

namespace MapStandin.MapServer

open Xml

/-! ## Tags -/

def opens (name : String) (attributes : List String) : List Mark :=
  .text "" :: .name name :: attributes.flatMap fun a => [.name a, .value ""]

def closes (name : String) : List Mark := [.text "", .slash, .name name]

def exceptionFrame : List Mark :=
  opens "ServiceExceptionReport" ["version"] ++
    opens "ServiceException" ["code"] ++ closes "ServiceException" ++
    closes "ServiceExceptionReport"

def settingsFrame : List Mark :=
  opens "WMS_Capabilities" ["version"] ++
    opens "Service" [] ++
    opens "Name" [] ++ closes "Name" ++ opens "Title" [] ++ closes "Title" ++
    closes "Service" ++
    opens "Capability" [] ++
    opens "ComposerTemplates" [] ++
    opens "ComposerTemplate" ["name", "atlasCoverageLayer", "width", "height"] ++
    opens "ComposerMap" ["name", "width", "height"] ++ [.slash] ++
    closes "ComposerTemplate" ++ closes "ComposerTemplates" ++
    opens "Layer" ["queryable"] ++
    opens "Name" [] ++ closes "Name" ++ opens "Title" [] ++ closes "Title" ++
    closes "Layer" ++ closes "Capability" ++ closes "WMS_Capabilities"

/-! ## Exceptions -/

structure ExceptionRead (code message : String) (marks : List Mark) : Prop where
  tags : frame marks = frame opening ++ exceptionFrame ++ [.text ""]
  code : valueAt? ["ServiceException", "code"] marks = some code
  message : textAt? ["ServiceException"] marks = some message

theorem exceptionDocument_read (code message : String) :
    ExceptionRead code message (read (exceptionDocument code message)) := by
  have hworded : Worded exceptionFrame := by decide
  have hread : read (exceptionDocument code message) = opening ++ _ ++ [.text ""] :=
    read_document hworded
  constructor
  case tags => exact frame_document hworded
  case code =>
    rw [hread]
    rfl
  case message =>
    rw [hread]
    rfl

/-! ## Settings -/

structure SettingsRead (template layer : String) (marks : List Mark) : Prop where
  tags : frame marks = frame opening ++ settingsFrame ++ [.text ""]
  template : valueAt? ["ComposerTemplate", "name"] marks = some template
  coverage : valueAt? ["ComposerTemplate", "atlasCoverageLayer"] marks = some layer
  layer : textAt? ["Layer", "Name"] marks = some layer

theorem settingsDocument_read (template layer : String) :
    SettingsRead template layer (read (settingsDocument template layer)) := by
  have hworded : Worded settingsFrame := by decide
  have hread : read (settingsDocument template layer) = opening ++ _ ++ [.text ""] :=
    read_document hworded
  constructor
  case tags => exact frame_document hworded
  case template =>
    rw [hread]
    rfl
  case coverage =>
    rw [hread]
    rfl
  case layer =>
    rw [hread]
    rfl

/-! ## Both documents -/

/-- Escaped data can be told from markup and had back; so each document shows the same tags whatever
data it holds, and all of its data. -/
theorem documents_read_back :
    (∀ s, EscapePost s (escape s)) ∧
      (∀ code message, ExceptionRead code message (read (exceptionDocument code message))) ∧
      (∀ template layer, SettingsRead template layer (read (settingsDocument template layer))) ∧
      Function.Injective2 exceptionDocument ∧ Function.Injective2 settingsDocument := by
  refine ⟨escape_spec, exceptionDocument_read, settingsDocument_read, ?_, ?_⟩
  · intro code code' message message' heq
    have h := exceptionDocument_read code message
    have h' := exceptionDocument_read code' message'
    rw [heq] at h
    exact ⟨Option.some.inj (h.code.symm.trans h'.code),
      Option.some.inj (h.message.symm.trans h'.message)⟩
  · intro template template' layer layer' heq
    have h := settingsDocument_read template layer
    have h' := settingsDocument_read template' layer'
    rw [heq] at h
    exact ⟨Option.some.inj (h.template.symm.trans h'.template),
      Option.some.inj (h.layer.symm.trans h'.layer)⟩

end MapStandin.MapServer
